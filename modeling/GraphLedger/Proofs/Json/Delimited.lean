import GraphLedger.Json.Printer
import Mathlib.Data.List.Infix

/-! # Texts that tell where they end

A value that is written on several lines can be found at the beginning of a longer text, and there is
but one such value, if it consists of strings. For a string ends at the first quote that is not
escaped, and no escape of a character begins another; arrays and objects end at their bracket, and
behind each of their items stands a comma or a line break. (A number does not tell where it ends, as
digits may follow it.) Of an object whose first fields consist of strings these fields are told,
whatever follows them.

* `delimits_escape`, `delimits_quote`: characters and strings tell where they end.
* `delimits_block`: so do items between brackets, if each of them does.
* `Textual.delimits`: so do values that consist of strings.
* `Textual.first_fields`: the first fields of objects. -/

namespace GraphLedger.Json

/-- **Two things are told apart by their texts**, and so is where these end. -/
def Delimits {α : Type} (text : α → List Char) (x y : α) : Prop :=
  ∀ ⦃rest rest' : List Char⦄, text x ++ rest = text y ++ rest' → x = y ∧ rest = rest'

/-! ### Strings -/

/-- The characters that are escaped. -/
def escaped : List Char := '"' :: '\\' :: (List.range 32).map Char.ofNat

theorem escape_cases (c : Char) :
    c ∈ escaped ∨ escape c = [c] ∧ c ≠ '"' ∧ c ≠ '\\' := by
  by_cases hc : c ∈ escaped
  · exact Or.inl hc
  · have hquote : c ≠ '"' := fun h => hc (h ▸ List.mem_cons_self)
    have hslash : c ≠ '\\' := fun h => hc (h ▸ by decide)
    have hlarge : 32 ≤ c.toNat := by
      by_contra hsmall
      refine hc (List.mem_cons_of_mem _ (List.mem_cons_of_mem _ (List.mem_map.mpr ?_)))
      exact ⟨c.toNat, List.mem_range.mpr (Nat.lt_of_not_le hsmall), Char.ofNat_toNat c⟩
    have hne : ∀ d : Char, d.toNat < 32 → (c == d) = false := by
      intro d hd
      refine beq_eq_false_iff_ne.mpr ?_
      rintro rfl
      omega
    refine Or.inr ⟨?_, hquote, hslash⟩
    rw [escape, if_neg (by simpa using hquote), if_neg (by simpa using hslash),
      if_neg (by simp; omega), if_neg (by simp; omega),
      if_neg (by rw [hne _ (by decide)]; decide), if_neg (by rw [hne _ (by decide)]; decide),
      if_neg (by rw [hne _ (by decide)]; decide), if_neg (by omega)]

theorem head_escape_of_escaped (c : Char) (hc : c ∈ escaped) : (escape c).head? = some '\\' := by
  have hall : escaped.all (fun c => decide ((escape c).head? = some '\\')) = true := by
    decide +kernel
  exact of_decide_eq_true (List.all_eq_true.mp hall c hc)

theorem eq_of_escape_begins (c : Char) (hc : c ∈ escaped) (d : Char) (hd : d ∈ escaped)
    (h : escape c <+: escape d) : c = d := by
  have hall : escaped.all (fun c => escaped.all fun d =>
      decide (escape c <+: escape d → c = d)) = true := by
    decide +kernel
  exact of_decide_eq_true (List.all_eq_true.mp (List.all_eq_true.mp hall c hc) d hd) h

theorem head_escape (c : Char) : ∃ x xs, escape c = x :: xs ∧ x ≠ '"' := by
  rcases escape_cases c with hc | ⟨hc, hquote, -⟩
  · have hhead := head_escape_of_escaped c hc
    cases hescape : escape c with
    | nil =>
      rw [hescape] at hhead
      cases hhead
    | cons x xs =>
      rw [hescape] at hhead
      cases hhead
      exact ⟨'\\', xs, rfl, by decide⟩
  · exact ⟨c, [], hc, hquote⟩

theorem escape_ne_of_escaped {c d : Char} (hc : c ∈ escaped) (hd : escape d = [d])
    (hslash : d ≠ '\\') {rest rest' : List Char} : escape c ++ rest ≠ escape d ++ rest' := by
  intro h
  have hhead := congrArg List.head? h
  rw [hd, List.head?_append, head_escape_of_escaped c hc] at hhead
  exact hslash (Option.some.inj hhead).symm

/-- **A character tells where it ends.** -/
theorem delimits_escape (c d : Char) : Delimits escape c d := by
  intro rest rest' h
  have hsame : c = d := by
    rcases escape_cases c with hc | ⟨hc, -, hslash⟩ <;>
      rcases escape_cases d with hd | ⟨hd, -, hslash'⟩
    · have hleft : escape c <+: escape d ++ rest' := ⟨rest, h⟩
      rcases List.prefix_or_prefix_of_prefix hleft (List.prefix_append _ _) with hcd | hdc
      · exact eq_of_escape_begins c hc d hd hcd
      · exact (eq_of_escape_begins d hd c hc hdc).symm
    · exact absurd h (escape_ne_of_escaped hc hd hslash')
    · exact absurd h.symm (escape_ne_of_escaped hd hc hslash)
    · rw [hc, hd] at h
      exact (List.cons.inj h).1
  subst hsame
  exact ⟨rfl, List.append_cancel_left h⟩

/-- The text of a string behind its first quote. -/
def quoted (cs : List Char) : List Char := cs.flatMap escape ++ ['"']

theorem quoted_cons (c : Char) (cs : List Char) : quoted (c :: cs) = escape c ++ quoted cs := by
  rw [quoted, List.flatMap_cons, List.append_assoc]
  rfl

theorem delimits_quoted (cs ds : List Char) : Delimits quoted cs ds := by
  induction cs generalizing ds with
  | nil =>
    intro rest rest' h
    cases ds with
    | nil => exact ⟨rfl, List.append_cancel_left h⟩
    | cons d ds =>
      obtain ⟨x, xs, hd, hx⟩ := head_escape d
      rw [quoted_cons, hd] at h
      exact absurd (List.cons.inj h).1.symm hx
  | cons c cs ih =>
    intro rest rest' h
    cases ds with
    | nil =>
      obtain ⟨x, xs, hc, hx⟩ := head_escape c
      rw [quoted_cons, hc] at h
      exact absurd (List.cons.inj h).1 hx
    | cons d ds =>
      rw [quoted_cons, quoted_cons, List.append_assoc, List.append_assoc] at h
      obtain ⟨rfl, hquoted⟩ := delimits_escape c d h
      obtain ⟨rfl, hrest⟩ := ih ds hquoted
      exact ⟨rfl, hrest⟩

theorem toList_quote (s : String) : (quote s).toList = '"' :: quoted s.toList :=
  String.toList_ofList

/-- **A string tells where it ends.** -/
theorem delimits_quote (s t : String) : Delimits (fun s => (quote s).toList) s t := by
  intro rest rest' h
  dsimp only at h
  rw [toList_quote, toList_quote] at h
  obtain ⟨hsame, hrest⟩ := delimits_quoted s.toList t.toList (List.cons.inj h).2
  exact ⟨String.toList_inj.mp hsame, hrest⟩

/-! ### Items between brackets -/

section Block
variable {α : Type}

/-- Items on lines of their own, each behind a comma. -/
def following (level : Nat) (text : α → List Char) (xs : List α) : List Char :=
  xs.flatMap fun x => ',' :: ((newline level).toList ++ text x)

/-- Items between brackets, each on a line of its own. -/
def block (start stop : Char) (level : Nat) (text : α → List Char) : List α → List Char
  | [] => [start, stop]
  | x :: xs => start :: ((newline (level + 1)).toList ++ text x ++ following (level + 1) text xs
      ++ (newline level).toList ++ [stop])

variable {text : α → List Char} {level : Nat}

theorem following_cons (x : α) (xs : List α) : following level text (x :: xs) =
    ',' :: ((newline level).toList ++ text x ++ following level text xs) := by
  rw [following, List.flatMap_cons]
  rfl

theorem following_cons_inj {x y : α} (h : Delimits text x y) {xs ys : List α}
    {rest rest' : List Char} (htext : following level text (x :: xs) ++ rest =
      following level text (y :: ys) ++ rest') :
    x = y ∧ following level text xs ++ rest = following level text ys ++ rest' := by
  rw [following_cons, following_cons] at htext
  simp only [List.cons_append, List.append_assoc, List.cons.injEq, true_and,
    List.append_cancel_left_eq] at htext
  exact h htext

theorem newline_ne_following {level' : Nat} {x : α} {xs : List α} {rest rest' : List Char} :
    (newline level').toList ++ rest ≠ following level text (x :: xs) ++ rest' := by
  rw [following_cons, newline, String.toList_ofList]
  exact fun h => absurd (List.cons.inj h).1 (by decide)

theorem delimits_tail {x y : α} {xs ys : List α}
    (h : ∀ a ∈ x :: xs, ∀ b ∈ y :: ys, Delimits text a b) : ∀ a ∈ xs, ∀ b ∈ ys, Delimits text a b :=
  fun a ha b hb => h a (List.mem_cons_of_mem _ ha) b (List.mem_cons_of_mem _ hb)

theorem following_inj {xs ys : List α} {level' : Nat} (h : ∀ x ∈ xs, ∀ y ∈ ys, Delimits text x y)
    {rest rest' : List Char} (htext : following level text xs ++ ((newline level').toList ++ rest) =
      following level text ys ++ ((newline level').toList ++ rest')) : xs = ys ∧ rest = rest' := by
  induction xs generalizing ys with
  | nil =>
    cases ys with
    | nil => exact ⟨rfl, List.append_cancel_left htext⟩
    | cons y ys => exact absurd htext newline_ne_following
  | cons x xs ih =>
    cases ys with
    | nil => exact absurd htext.symm newline_ne_following
    | cons y ys =>
      obtain ⟨rfl, hfollowing⟩ :=
        following_cons_inj (h x List.mem_cons_self y List.mem_cons_self) htext
      obtain ⟨rfl, hrest⟩ := ih (delimits_tail h) hfollowing
      exact ⟨rfl, hrest⟩

theorem following_begins {xs ys more more' : List α} (h : ∀ x ∈ xs, ∀ y ∈ ys, Delimits text x y)
    {rest rest' : List Char} (htext : following level text (xs ++ more) ++ rest =
      following level text (ys ++ more') ++ rest') : xs <+: ys ∨ ys <+: xs := by
  induction xs generalizing ys with
  | nil => exact Or.inl List.nil_prefix
  | cons x xs ih =>
    cases ys with
    | nil => exact Or.inr List.nil_prefix
    | cons y ys =>
      obtain ⟨rfl, hfollowing⟩ :=
        following_cons_inj (h x List.mem_cons_self y List.mem_cons_self) htext
      rw [List.prefix_cons_inj, List.prefix_cons_inj]
      exact ih (delimits_tail h) hfollowing

variable {start stop : Char}

theorem block_cons_inj {x y : α} (h : Delimits text x y) {xs ys : List α} {rest rest' : List Char}
    (htext : block start stop level text (x :: xs) ++ rest =
      block start stop level text (y :: ys) ++ rest') :
    x = y ∧ following (level + 1) text xs ++ ((newline level).toList ++ stop :: rest) =
      following (level + 1) text ys ++ ((newline level).toList ++ stop :: rest') := by
  rw [block, block] at htext
  simp only [List.cons_append, List.append_assoc, List.cons.injEq, true_and,
    List.append_cancel_left_eq, List.nil_append] at htext
  exact h htext

theorem block_nil_ne (hstop : stop ≠ '\n') {x : α} {xs : List α} {rest rest' : List Char} :
    block start stop level text [] ++ rest ≠ block start stop level text (x :: xs) ++ rest' := by
  rw [block, block, newline, String.toList_ofList]
  exact fun h => hstop (List.cons.inj (List.cons.inj h).2).1

/-- **Items between brackets tell where they end**, if each of them does. -/
theorem delimits_block (hstop : stop ≠ '\n') {xs ys : List α}
    (h : ∀ x ∈ xs, ∀ y ∈ ys, Delimits text x y) : Delimits (block start stop level text) xs ys := by
  intro rest rest' htext
  cases xs with
  | nil =>
    cases ys with
    | nil => exact ⟨rfl, List.append_cancel_left htext⟩
    | cons y ys => exact absurd htext (block_nil_ne hstop)
  | cons x xs =>
    cases ys with
    | nil => exact absurd htext.symm (block_nil_ne hstop)
    | cons y ys =>
      obtain ⟨rfl, hfollowing⟩ := block_cons_inj (h x List.mem_cons_self y List.mem_cons_self) htext
      obtain ⟨rfl, hrest⟩ := following_inj (delimits_tail h) hfollowing
      exact ⟨rfl, (List.cons.inj hrest).2⟩

/-- **The first items between brackets are told**, whatever the others are. -/
theorem block_begins {x y : α} {xs ys more more' : List α}
    (h : ∀ a ∈ x :: xs, ∀ b ∈ y :: ys, Delimits text a b) {rest rest' : List Char}
    (htext : block start stop level text (x :: xs ++ more) ++ rest =
      block start stop level text (y :: ys ++ more') ++ rest') :
    x :: xs <+: y :: ys ∨ y :: ys <+: x :: xs := by
  obtain ⟨rfl, hfollowing⟩ := block_cons_inj (h x List.mem_cons_self y List.mem_cons_self) htext
  rw [List.prefix_cons_inj, List.prefix_cons_inj]
  exact following_begins (delimits_tail h) hfollowing

end Block

/-! ### Values -/

/-- The text of a value at a level. -/
def lines (level : Nat) (v : Json) : List Char := (indentedAt level v).toList

/-- The text of a field at a level. -/
def fieldLines (level : Nat) (f : String × Json) : List Char :=
  (quote f.1).toList ++ (':' :: ' ' :: lines level f.2)

theorem toList_indentedItems (level : Nat) (v : Json) (vs : List Json) :
    (indentedItems level (v :: vs)).toList =
      (newline level).toList ++ lines level v ++ following level (lines level) vs := by
  induction vs generalizing v with
  | nil =>
    rw [indentedItems, String.toList_append, following, List.flatMap_nil, List.append_nil]
    rfl
  | cons w vs ih =>
    have hcomma : (",").toList = [','] := rfl
    rw [indentedItems, String.toList_append, String.toList_append, String.toList_append, ih, hcomma,
      following_cons, List.append_assoc _ [',']]
    rfl

theorem toList_indentedField (level : Nat) (f : String × Json) :
    (newline level ++ quote f.1 ++ ": " ++ indentedAt level f.2).toList =
      (newline level).toList ++ fieldLines level f := by
  have hcolon : (": ").toList = [':', ' '] := rfl
  rw [String.toList_append, String.toList_append, String.toList_append, hcolon, fieldLines,
    List.append_assoc, List.append_assoc]
  rfl

theorem toList_indentedFields (level : Nat) (f : String × Json) (fs : Fields) :
    (indentedFields level (f :: fs)).toList =
      (newline level).toList ++ fieldLines level f ++ following level (fieldLines level) fs := by
  induction fs generalizing f with
  | nil =>
    rw [indentedFields, toList_indentedField, following, List.flatMap_nil, List.append_nil]
  | cons g fs ih =>
    have hcomma : (",").toList = [','] := rfl
    rw [indentedFields, String.toList_append, String.toList_append, toList_indentedField, ih,
      hcomma, following_cons, List.append_assoc _ [',']]
    rfl

theorem lines_array (level : Nat) (vs : List Json) :
    lines level (.array vs) = block '[' ']' level (lines (level + 1)) vs := by
  cases vs with
  | nil =>
    rw [lines, indentedAt]
    rfl
  | cons v vs =>
    have hstart : ("[").toList = ['['] := rfl
    have hstop : ("]").toList = [']'] := rfl
    rw [lines, indentedAt, block, ← toList_indentedItems]
    · rw [String.toList_append, String.toList_append, String.toList_append, hstart, hstop]
      rfl
    · exact List.cons_ne_nil v vs

theorem lines_object (level : Nat) (fs : Fields) :
    lines level (.object fs) = block '\x7b' '\x7d' level (fieldLines (level + 1)) fs := by
  cases fs with
  | nil =>
    rw [lines, indentedAt]
    rfl
  | cons f fs =>
    have hstart : ("\x7b").toList = ['\x7b'] := rfl
    have hstop : ("\x7d").toList = ['\x7d'] := rfl
    rw [lines, indentedAt, block, ← toList_indentedFields]
    · rw [String.toList_append, String.toList_append, String.toList_append, hstart, hstop]
      rfl
    · exact List.cons_ne_nil f fs

theorem lines_string (level : Nat) (s : String) : lines level (.string s) = (quote s).toList := by
  rw [lines, indentedAt]

/-- **A value that consists of strings.** -/
inductive Textual : Json → Prop where
  | string (s : String) : Textual (.string s)
  | array {vs : List Json} (h : ∀ v ∈ vs, Textual v) : Textual (.array vs)
  | object {fs : Fields} (h : ∀ f ∈ fs, Textual f.2) : Textual (.object fs)

theorem delimits_fieldLines {level : Nat} {f g : String × Json}
    (h : Delimits (lines level) f.2 g.2) : Delimits (fieldLines level) f g := by
  intro rest rest' htext
  rw [fieldLines, fieldLines, List.append_assoc, List.append_assoc] at htext
  obtain ⟨hkey, htext⟩ := delimits_quote f.1 g.1 htext
  obtain ⟨hvalue, hrest⟩ := h (List.cons.inj (List.cons.inj htext).2).2
  exact ⟨Prod.ext hkey hvalue, hrest⟩

/-- The character with which a value that consists of strings begins. -/
def opening : Json → Char
  | .array _ => '['
  | .object _ => '\x7b'
  | _ => '"'

theorem Textual.head_lines {v : Json} (h : Textual v) (level : Nat) :
    (lines level v).head? = some (opening v) := by
  cases h with
  | string s =>
    rw [lines_string, toList_quote]
    rfl
  | @array vs =>
    rw [lines_array]
    cases vs <;> rfl
  | @object fs =>
    rw [lines_object]
    cases fs <;> rfl

theorem Textual.opening_eq {v w : Json} (hv : Textual v) (hw : Textual w) {level : Nat}
    {rest rest' : List Char} (h : lines level v ++ rest = lines level w ++ rest') :
    opening v = opening w := by
  have hhead := congrArg List.head? h
  rw [List.head?_append, List.head?_append, hv.head_lines, hw.head_lines] at hhead
  exact Option.some.inj hhead

/-- **Values that consist of strings tell where they end**, by induction on the first of them. The
first character tells of which kind the other is. -/
theorem Textual.delimits {v w : Json} (hv : Textual v) (hw : Textual w) (level : Nat) :
    Delimits (lines level) v w := by
  intro rest rest' h
  have hopening := hv.opening_eq hw h
  induction hv generalizing w level rest rest' with
  | string s =>
    cases hw with
    | string t =>
      rw [lines_string, lines_string] at h
      obtain ⟨rfl, hrest⟩ := delimits_quote s t h
      exact ⟨rfl, hrest⟩
    | array => cases hopening
    | object => cases hopening
  | array hvs ih =>
    cases hw with
    | string t => cases hopening
    | array hws =>
      rw [lines_array, lines_array] at h
      obtain ⟨rfl, hrest⟩ := delimits_block (by decide) (fun v hv w hw more more' hmore =>
        ih v hv (hws w hw) (level + 1) hmore ((hvs v hv).opening_eq (hws w hw) hmore)) h
      exact ⟨rfl, hrest⟩
    | object => cases hopening
  | object hfs ih =>
    cases hw with
    | string t => cases hopening
    | array hws => cases hopening
    | object hgs =>
      rw [lines_object, lines_object] at h
      obtain ⟨rfl, hrest⟩ := delimits_block (by decide) (fun f hf g hg =>
        delimits_fieldLines fun more more' hmore =>
          ih f hf (hgs g hg) (level + 1) hmore ((hfs f hf).opening_eq (hgs g hg) hmore)) h
      exact ⟨rfl, hrest⟩

/-- **The first fields of objects are told** if they consist of strings, whatever the others are. -/
theorem Textual.first_fields {f g : String × Json} {fs gs more more' : Fields}
    (hfs : ∀ x ∈ f :: fs, Textual x.2) (hgs : ∀ x ∈ g :: gs, Textual x.2) {level : Nat}
    {rest rest' : List Char} (h : lines level (.object (f :: fs ++ more)) ++ rest =
      lines level (.object (g :: gs ++ more')) ++ rest') :
    f :: fs <+: g :: gs ∨ g :: gs <+: f :: fs := by
  rw [lines_object, lines_object] at h
  exact block_begins (fun a ha b hb => delimits_fieldLines ((hfs a ha).delimits (hgs b hb) _)) h

end GraphLedger.Json
