import GraphLedger.CommandLine.Surroundings
import GraphLedger.Proofs.Report.Printed

/-! # What is printed

What a command prints is a text. Each thing that it prints ends with a line break, but it is a line
only if there is no other line break in it; the lines of a text are determined by the text. A report
that is printed first is found at the beginning of the text, and its status is that of any report
that is found there.

* `AreLines.unique`: the lines of a text.
* `Outcome.StartsWith.status_eq`: the status of the report at the beginning of what is printed. -/

namespace GraphLedger.CommandLine

/-! ### Lines -/

/-- The text that is printed: a line break stands behind each thing. -/
def printed (things : List String) : List Char := things.flatMap fun s => s.toList ++ ['\n']

theorem printed_cons (s : String) (things : List String) :
    printed (s :: things) = s.toList ++ '\n' :: printed things := by
  rw [printed, List.flatMap_cons, List.append_assoc]
  rfl

theorem printed_append (things more : List String) :
    printed (things ++ more) = printed things ++ printed more := List.flatMap_append

/-- **The lines of a text** have no line break in them, and one stands behind each of them. -/
structure AreLines (text : List Char) (lines : List String) : Prop where
  text_eq : text = printed lines
  whole : ∀ l ∈ lines, '\n' ∉ l.toList

theorem areLines_printed_iff {things : List String} :
    AreLines (printed things) things ↔ ∀ l ∈ things, '\n' ∉ l.toList :=
  ⟨AreLines.whole, AreLines.mk rfl⟩

theorem line_append_inj {l l' rest rest' : List Char} (hl : '\n' ∉ l) (hl' : '\n' ∉ l')
    (h : l ++ '\n' :: rest = l' ++ '\n' :: rest') : l = l' ∧ rest = rest' := by
  induction l generalizing l' with
  | nil =>
    cases l' with
    | nil => exact ⟨rfl, (List.cons.inj h).2⟩
    | cons c l' => exact absurd ((List.cons.inj h).1 ▸ List.mem_cons_self) hl'
  | cons c l ih =>
    cases l' with
    | nil => exact absurd ((List.cons.inj h).1 ▸ List.mem_cons_self) hl
    | cons c' l' =>
      obtain ⟨rfl, htail⟩ := List.cons.inj h
      obtain ⟨rfl, hrest⟩ := ih (fun hmem => hl (List.mem_cons_of_mem _ hmem))
        (fun hmem => hl' (List.mem_cons_of_mem _ hmem)) htail
      exact ⟨rfl, hrest⟩

/-- **The lines of a text** are determined by it. -/
theorem AreLines.unique {text : List Char} {lines lines' : List String} (h : AreLines text lines)
    (h' : AreLines text lines') : lines = lines' := by
  have htext := h.text_eq.symm.trans h'.text_eq
  have hwhole := h.whole
  have hwhole' := h'.whole
  clear h h'
  induction lines generalizing lines' with
  | nil =>
    cases lines' with
    | nil => rfl
    | cons l' lines' =>
      rw [printed_cons] at htext
      exact absurd htext.symm (List.append_ne_nil_of_right_ne_nil _ (List.cons_ne_nil _ _))
  | cons l lines ih =>
    cases lines' with
    | nil =>
      rw [printed_cons] at htext
      exact absurd htext (List.append_ne_nil_of_right_ne_nil _ (List.cons_ne_nil _ _))
    | cons l' lines' =>
      obtain ⟨hl, hlines⟩ := List.forall_mem_cons.mp hwhole
      obtain ⟨hl', hlines'⟩ := List.forall_mem_cons.mp hwhole'
      rw [printed_cons, printed_cons] at htext
      obtain ⟨hline, hrest⟩ := line_append_inj hl hl' htext
      rw [String.toList_inj.mp hline, ih hrest hlines hlines']

/-! ### Reports -/

namespace Outcome

/-- What stands on the output. -/
def text (o : Outcome) : List Char := printed o.output

/-- **Whether the output starts with a report.** -/
def StartsWith (o : Outcome) (r : Report) : Prop := printed [r.toJson.indented] <+: o.text

variable {o : Outcome} {r r' : Report}

theorem startsWith_iff :
    o.StartsWith r ↔ ∃ rest, Json.lines 0 r.toJson ++ '\n' :: rest = o.text := by
  have hprinted : printed [r.toJson.indented] = Json.lines 0 r.toJson ++ ['\n'] := by
    rw [printed_cons]
    rfl
  unfold StartsWith
  rw [hprinted]
  constructor
  · rintro ⟨rest, h⟩
    exact ⟨rest, by rw [← h, List.append_assoc]; rfl⟩
  · rintro ⟨rest, h⟩
    exact ⟨rest, by rw [← h, List.append_assoc]; rfl⟩

/-- **All reports with which the output starts** have the same status. -/
theorem StartsWith.status_eq (h : o.StartsWith r) (h' : o.StartsWith r') : r.status = r'.status := by
  obtain ⟨rest, hrest⟩ := startsWith_iff.mp h
  obtain ⟨rest', hrest'⟩ := startsWith_iff.mp h'
  exact Report.status_of_lines (hrest.trans hrest'.symm)

theorem startsWith_of_cons {things : List String} (h : o.output = r.toJson.indented :: things) :
    o.StartsWith r := by
  rw [startsWith_iff, text, h, printed_cons]
  exact ⟨_, rfl⟩

theorem not_startsWith_of_nil (h : o.output = []) : ¬ o.StartsWith r := by
  intro hstarts
  obtain ⟨rest, hrest⟩ := startsWith_iff.mp hstarts
  rw [text, h] at hrest
  exact List.append_ne_nil_of_right_ne_nil _ (List.cons_ne_nil _ _) hrest

end Outcome

end GraphLedger.CommandLine
