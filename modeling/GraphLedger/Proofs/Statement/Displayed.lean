import GraphLedger.Proofs.Statement.WellFormed
import GraphLedger.Record
import Mathlib.Data.Nat.Digits.Lemmas

/-! # Statements that are shown

A statement is shown on one line, unless there is a line break in what is shown of a literal behind
its value. The value is quoted, and a line break in it is escaped. IRIs that are checked are
absolute, so that there are no blanks in them. But languages and datatypes are shown as they are,
and nothing asks of them what is asked of the IRIs.

* `Text.Quoted.newline_not_mem_encode`: no line break is in a quoted text.
* `Statement.newline_mem_display_iff`: where a line break may come from. -/

namespace GraphLedger

/-! ### Quoted texts -/

namespace Text.Quoted

theorem newline_not_mem_hex (n : Nat) : '\n' ∉ hex n := by
  have hdigit : ∀ d < 16, '\n' ≠ Nat.digitChar d := by decide
  induction n using Nat.strongRecOn with
  | _ n ih =>
    rcases Nat.lt_or_ge n 16 with hlt | hge
    · rw [hex, Nat.toDigits_of_lt_base hlt, List.mem_singleton]
      exact hdigit n hlt
    · rw [hex, Nat.toDigits_of_base_le (by decide) hge, List.mem_append, List.mem_singleton]
      rintro (hmem | hlast)
      · exact ih (n / 16) (by omega) hmem
      · exact hdigit (n % 16) (Nat.mod_lt n (by decide)) hlast

/-- **No escape** has a line break in it. -/
theorem newline_not_mem_escape (c : Char) : '\n' ∉ escape c := by
  unfold escape
  split_ifs with h₁ h₂ h₃ h₄ h₅ h₆ h₇ h₈
  · decide
  · decide
  · decide
  · decide
  · decide
  · decide
  · exact fun h => h₄ (beq_iff_eq.mpr (List.mem_singleton.mp h).symm)
  · exact fun h => h₄ (beq_iff_eq.mpr (List.mem_singleton.mp h).symm)
  · rw [List.mem_append, List.mem_append, not_or, not_or]
    exact ⟨⟨by decide, newline_not_mem_hex _⟩, by decide⟩

theorem newline_not_mem_encode (s : String) : '\n' ∉ (encode s).toList := by
  rw [encode, String.toList_ofList, List.mem_cons, List.mem_append, List.mem_flatMap]
  rintro (h | ⟨c, -, h⟩ | h)
  · exact absurd h (by decide)
  · exact newline_not_mem_escape c h
  · exact absurd h (by decide)

end Text.Quoted

/-! ### Statements -/

theorem Iri.Absolute.newline_not_mem {iri : String} (h : Absolute iri) {start : String}
    (hstart : '\n' ∉ start.toList) : '\n' ∉ (start ++ iri ++ ">").toList := by
  obtain ⟨-, -, -, -, -, -, -, hblank⟩ := h
  simp only [String.toList_append, List.mem_append, not_or]
  exact ⟨⟨hstart, fun hmem => absurd (hblank '\n' hmem) (by decide)⟩, by decide⟩

namespace Statement

/-- What is shown of a literal as it is, behind its value: its language, or else its datatype. -/
def tag (st : Statement) : String := st.language.getD (st.dataType.getD "")

/-- How the tag of a statement is shown. -/
def tagDisplay (st : Statement) : String :=
  match st.language, st.dataType with
  | some l, _ => "@" ++ l
  | none, some d => "^^<" ++ d ++ ">"
  | none, none => ""

/-- How the graph of a statement is shown, unless it is the default one. -/
def graphDisplay (st : Statement) : String :=
  if st.graph.isEmpty then "" else " <" ++ st.graph ++ ">"

theorem newline_mem_tagDisplay_iff (st : Statement) :
    '\n' ∈ st.tagDisplay.toList ↔ '\n' ∈ st.tag.toList := by
  have hat : '\n' ∉ ("@").toList := by decide
  have hcarets : '\n' ∉ ("^^<").toList := by decide
  have hstop : '\n' ∉ (">").toList := by decide
  unfold tagDisplay tag
  cases st.language with
  | some l =>
    rw [String.toList_append, List.mem_append, or_iff_right hat]
    rfl
  | none =>
    cases st.dataType with
    | some d =>
      rw [String.toList_append, String.toList_append, List.mem_append, List.mem_append,
        or_iff_left hstop, or_iff_right hcarets]
      rfl
    | none => exact Iff.rfl

section WellFormed
variable {st : Statement} (h : st.WellFormed)
include h

theorem newline_not_mem_object : '\n' ∉ st.object.display.toList := by
  cases hobject : st.object with
  | iri iri => exact (h.object iri hobject).newline_not_mem (by decide)
  | literal value => exact Text.Quoted.newline_not_mem_encode value

theorem newline_not_mem_graph : '\n' ∉ st.graphDisplay.toList := by
  unfold graphDisplay
  rcases h.graph with hdefault | hgraph
  · rw [hdefault]
    decide
  · split_ifs
    · decide
    · exact hgraph.newline_not_mem (by decide)

/-- **Where a line break in a statement that is shown comes from**: from its language, or from its
datatype if it has no language. -/
theorem newline_mem_display_iff : '\n' ∈ st.display.toList ↔ '\n' ∈ st.tag.toList := by
  have hsubject : '\n' ∉ ("<" ++ st.subject ++ ">").toList :=
    h.subject.newline_not_mem (by decide)
  have hpredicate : '\n' ∉ (" <" ++ st.predicate ++ ">").toList :=
    h.predicate.newline_not_mem (by decide)
  have hblank : '\n' ∉ (" ").toList := by decide
  have hdisplay : st.display.toList = ("<" ++ st.subject ++ ">").toList ++
      (" <" ++ st.predicate ++ ">").toList ++ (" ").toList ++ st.object.display.toList ++
      st.tagDisplay.toList ++ st.graphDisplay.toList := by
    have hfirst : ("> <").toList = (">").toList ++ (" <").toList := rfl
    have hsecond : ("> ").toList = (">").toList ++ (" ").toList := rfl
    have hshown : st.display = "<" ++ st.subject ++ "> <" ++ st.predicate ++ "> "
      ++ st.object.display ++ st.tagDisplay ++ st.graphDisplay := rfl
    simp only [hshown, String.toList_append, hfirst, hsecond, List.append_assoc]
  rw [hdisplay]
  simp only [List.mem_append]
  rw [or_iff_left (newline_not_mem_graph h), newline_mem_tagDisplay_iff, or_iff_right]
  rintro (((hmem | hmem) | hmem) | hmem)
  · exact hsubject hmem
  · exact hpredicate hmem
  · exact hblank hmem
  · exact newline_not_mem_object h hmem

end WellFormed

end Statement

theorem Record.newline_mem_display_iff (x : Record) :
    '\n' ∈ x.display.toList ↔ '\n' ∈ x.statement.display.toList := by
  have hname : '\n' ∉ (x.changeType.name ++ " ").toList := by
    cases x.changeType <;> decide
  rw [display, String.toList_append, List.mem_append, or_iff_right hname]

end GraphLedger
