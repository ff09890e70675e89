import GraphLedger.Proofs.JsonLd.Draft
import GraphLedger.Proofs.JsonLd.Naming
import Mathlib.Data.List.Basic
import Mathlib.Data.Set.Lattice
import Mathlib.Order.CompletePartialOrder

/-! # Statements are drafts with names

A translation draws numbers from a supply and keeps a table of labels. Beside it a *numbering* is
kept, of the blank nodes that have a number by then: it tells the same as the table for labels, and
no two blank nodes have the same number. Each part of a translation extends the numbering, by labels
and by the nodes that it comes to; and it gives the statements of its drafts under every choice of
names that agrees with the numbering that is left. If the drafts fail, so does the translation, with
the same fault.

* `Within`: a numbering whose numbers are taken from a supply.
* `Tells`: a numbering tells what a supply and its labels are; `Grows`: how it is extended.
* `Follows`: a translation gives what its draft tells.
* `Follows.bind`, `Follows.append`: translations in a row follow drafts in a row. -/

namespace GraphLedger.JsonLd

/-! ### Paths -/

/-- The paths to an object and to all that is in it. -/
def below (path : List Nat) : Set (List Nat) := {q | path <:+ q}

/-- The paths to all that is in an object from some place on. -/
def behind (path : List Nat) (i : Nat) : Set (List Nat) := {q | ∃ j, i ≤ j ∧ (j :: path) <:+ q}

theorem behind_subset_below (path : List Nat) (i : Nat) : behind path i ⊆ below path := by
  rintro q ⟨j, -, hq⟩
  exact (List.suffix_cons j path).trans hq

theorem disjoint_self_behind (path : List Nat) (i : Nat) : Disjoint {path} (behind path i) := by
  rw [Set.disjoint_left]
  rintro q rfl ⟨j, -, hq⟩
  have hlen := hq.length_le
  rw [List.length_cons] at hlen
  omega

theorem below_subset_behind (path : List Nat) (i : Nat) : below (i :: path) ⊆ behind path i :=
  fun _ hq => ⟨i, Nat.le_refl i, hq⟩

theorem behind_succ_subset (path : List Nat) (i : Nat) : behind path (i + 1) ⊆ behind path i := by
  rintro q ⟨j, hj, hq⟩
  exact ⟨j, by omega, hq⟩

theorem disjoint_below_behind (path : List Nat) (i : Nat) :
    Disjoint (below (i :: path)) (behind path (i + 1)) := by
  rw [Set.disjoint_left]
  rintro q hq ⟨j, hj, hq'⟩
  have heq : i :: path = j :: path := List.IsSuffix.eq_of_length
    (List.suffix_of_suffix_length_le hq hq' (by simp)) (by simp)
  cases heq
  omega

/-- The paths to all that is in objects that are told apart by numbers. -/
def belowAll (tags : List Nat) : Set (List Nat) := {q | ∃ i ∈ tags, q ∈ below [i]}

theorem below_subset_belowAll {tags : List Nat} {i : Nat} (h : i ∈ tags) :
    below [i] ⊆ belowAll tags := fun _ hq => ⟨i, h, hq⟩

theorem belowAll_subset {tags tags' : List Nat} (h : tags ⊆ tags') :
    belowAll tags ⊆ belowAll tags' := by
  rintro q ⟨i, hi, hq⟩
  exact ⟨i, h hi, hq⟩

theorem disjoint_belowAll {tags tags' : List Nat} (h : tags.Disjoint tags') :
    Disjoint (belowAll tags) (belowAll tags') := by
  rw [Set.disjoint_left]
  rintro q ⟨i, hi, hq⟩ ⟨j, hj, hq'⟩
  have heq : [i] = [j] := List.IsSuffix.eq_of_length
    (List.suffix_of_suffix_length_le hq hq' (by simp)) (by simp)
  cases heq
  exact h hi hj

theorem disjoint_below_belowAll {tags : List Nat} {i : Nat} (h : i ∉ tags) :
    Disjoint (below [i]) (belowAll tags) :=
  (disjoint_belowAll (List.singleton_disjoint.mpr h)).mono_left
    (below_subset_belowAll (List.mem_singleton.mpr rfl))

/-! ### Numberings -/

/-- The numbers that blank nodes have got so far. -/
abbrev Numbering (κ : Type) := κ → Option Nat

section Numbering
variable {κ : Type}

/-- Names agree with a numbering if what has a number has the IRI minted for it. -/
def Agrees (ν : κ → String) (N : Numbering κ) : Prop :=
  ∀ x n, N x = some n → ν x = Skolem.minted n

theorem exists_agrees (N : Numbering κ) : ∃ ν : κ → String, Agrees ν N :=
  ⟨fun x => ((N x).map Skolem.minted).getD "", fun x n hx => by simp [hx]⟩

open scoped Classical in
/-- A numbering with a number for one more. -/
noncomputable def Numbering.give (N : Numbering κ) (x : κ) (n : Nat) : Numbering κ :=
  fun y => if y = x then some n else N y

theorem Numbering.give_self (N : Numbering κ) (x : κ) (n : Nat) :
    N.give x n x = some n := if_pos rfl

theorem Numbering.give_of_ne (N : Numbering κ) {x y : κ} (n : Nat) (h : y ≠ x) :
    N.give x n y = N y := if_neg h

/-- The numbers of a numbering are taken from a supply, from some number on and before what is next,
and none is taken twice. -/
structure Within (low : Nat) (N : Numbering κ) (next : Nat) : Prop where
  start : low ≤ next
  bounds : ∀ x n, N x = some n → low ≤ n ∧ n < next
  injective : ∀ x y n, N x = some n → N y = some n → x = y

theorem within_none (low : Nat) : Within low (fun _ : κ => none) low where
  start := Nat.le_refl low
  bounds _ _ h := by cases h
  injective _ _ _ h := by cases h

end Numbering

variable (low : Nat)

/-- **A numbering tells what a supply and its labels are**: its numbers are taken from the supply,
and labels have the IRIs minted for their numbers. -/
structure Tells (N : Numbering Blank) (s : Skolem) : Prop extends Within low N s.next where
  labels : ∀ l, s.labels.lookup l = (N (.label l)).map Skolem.minted

/-- **How a numbering is extended**: numbers are kept, and only labels and nodes with certain paths
get new ones. -/
structure Grows (U : Set (List Nat)) (N N' : Numbering Blank) : Prop where
  kept : ∀ x n, N x = some n → N' x = some n
  frame : ∀ q, q ∉ U → N' (.unnamed q) = N (.unnamed q)

/-- Whether nodes with certain paths have no number yet. -/
def Untold (U : Set (List Nat)) (N : Numbering Blank) : Prop := ∀ q ∈ U, N (.unnamed q) = none

variable {low} {U V : Set (List Nat)} {N N' N'' : Numbering Blank}

theorem Agrees.of_grows {ν : Blank → String} (h : Agrees ν N') (hg : Grows U N N') :
    Agrees ν N := fun x n hx => h x n (hg.kept x n hx)

theorem Grows.refl (U : Set (List Nat)) (N : Numbering Blank) : Grows U N N :=
  ⟨fun _ _ h => h, fun _ _ => rfl⟩

theorem Grows.mono (h : Grows U N N') (hU : U ⊆ V) : Grows V N N' :=
  ⟨h.kept, fun q hq => h.frame q fun hqU => hq (hU hqU)⟩

theorem Grows.trans (h : Grows U N N') (h' : Grows U N' N'') : Grows U N N'' :=
  ⟨fun x n hx => h'.kept x n (h.kept x n hx), fun q hq => (h'.frame q hq).trans (h.frame q hq)⟩

theorem tells_start (next : Nat) : Tells next (fun _ => none) (.start next) where
  toWithin := within_none next
  labels _ := rfl

theorem Untold.mono (h : Untold V N) (hU : U ⊆ V) : Untold U N := fun q hq => h q (hU hq)

theorem Untold.of_grows (h : Untold V N) (hg : Grows U N N') (hd : Disjoint U V) :
    Untold V N' := fun q hq =>
  (hg.frame q fun hqU => Set.disjoint_left.mp hd hqU hq).trans (h q hq)

section Give
variable {s : Skolem} {b : Blank}

theorem grows_give (hb : N b = none) (hU : ∀ q, b = .unnamed q → q ∈ U) (n : Nat) :
    Grows U N (N.give b n) := by
  refine ⟨fun x m hx => ?_, fun q hq => N.give_of_ne n fun h => hq (hU q h.symm)⟩
  rw [N.give_of_ne n fun h => ?_]
  · exact hx
  · rw [h, hb] at hx
    cases hx

theorem Tells.give (h : Tells low N s) {labels : List (String × String)}
    (hl : ∀ l, labels.lookup l = ((N.give b s.next) (.label l)).map Skolem.minted) :
    Tells low (N.give b s.next) ⟨s.next + 1, labels⟩ := by
  have hcases : ∀ x n, (N.give b s.next) x = some n →
      (x = b ∧ n = s.next) ∨ (x ≠ b ∧ N x = some n ∧ n < s.next) := by
    intro x n hx
    by_cases hxb : x = b
    · rw [hxb, N.give_self] at hx
      exact Or.inl ⟨hxb, (Option.some.inj hx).symm⟩
    · rw [N.give_of_ne _ hxb] at hx
      exact Or.inr ⟨hxb, hx, (h.bounds x n hx).2⟩
  have hstart := h.start
  refine ⟨⟨Nat.le_succ_of_le hstart, fun x n hx => ?_, fun x y n hx hy => ?_⟩, hl⟩
  · rcases hcases x n hx with ⟨-, rfl⟩ | ⟨-, hold, hlt⟩
    · exact ⟨hstart, Nat.lt_succ_self _⟩
    · exact ⟨(h.bounds x n hold).1, Nat.lt_succ_of_lt hlt⟩
  · rcases hcases x n hx with ⟨rfl, hn⟩ | ⟨-, hold, hlt⟩
    · rcases hcases y n hy with ⟨rfl, -⟩ | ⟨-, -, hlt⟩
      · rfl
      · omega
    · rcases hcases y n hy with ⟨-, rfl⟩ | ⟨-, hold', -⟩
      · omega
      · exact h.injective x y n hold hold'

end Give

/-! ### Translations that follow drafts -/

section Follows
variable {A B D E : Type}

variable (low) in
/-- **A translation follows a draft** if, from every supply that a numbering tells, it gives what
the draft tells, under all names that agree with the numbering that is left. -/
def Follows (U : Set (List Nat)) (N : Numbering Blank) (t : Naming A) (d : Except Fault D)
    (real : (Blank → String) → D → A) : Prop :=
  ∀ s, Tells low N s → Untold U N →
    ∃ N', Grows U N N' ∧ Tells low N' (t.run.run s).2 ∧
      ∀ ν, Agrees ν N' → (t.run.run s).1 = d.map (real ν)

/-- Whether a result is what a draft tells, under all names that agree with a numbering. -/
def Is (N : Numbering Blank) (real : (Blank → String) → D → A) (x : D) (a : A) : Prop :=
  ∀ ν, Agrees ν N → a = real ν x

theorem Is.of_grows {real : (Blank → String) → D → A} {x : D} {a : A} (h : Is N real x a)
    (hg : Grows U N N') : Is N' real x a := fun ν hν => h ν (hν.of_grows hg)

theorem Is.eq {x a : A} (h : Is N (fun _ x => x) x a) : a = x := by
  obtain ⟨ν, hν⟩ := exists_agrees N
  exact h ν hν

namespace Follows
variable {t : Naming A} {d : Except Fault D} {real : (Blank → String) → D → A}
  {W : Set (List Nat)}

theorem mono (h : Follows low U N t d real) (hU : U ⊆ V) : Follows low V N t d real := by
  intro s hs huntold
  obtain ⟨N', hg, ht, hr⟩ := h s hs (huntold.mono hU)
  exact ⟨N', hg.mono hU, ht, hr⟩

theorem pure {a : A} {x : D} (h : Is N real x a) :
    Follows low U N (Pure.pure a) (.ok x) real :=
  fun _ hs _ => ⟨N, .refl U N, hs, fun ν hν => congrArg Except.ok (h ν hν)⟩

theorem fail (f : Fault) : Follows low U N (throw f) (.error f) real :=
  fun _ hs _ => ⟨N, .refl U N, hs, fun _ _ => rfl⟩

theorem lift {x : Except Fault A} (h : ∀ ν, Agrees ν N → x = d.map (real ν)) :
    Follows low U N (liftM x : Naming A) d real := by
  intro s hs _
  have hrun : (liftM x : Naming A).run.run s = (x, s) := by cases x <;> rfl
  rw [hrun]
  exact ⟨N, .refl U N, hs, h⟩

theorem lift_same (x : Except Fault A) :
    Follows low U N (liftM x : Naming A) x (fun _ x => x) :=
  .lift fun _ _ => by cases x <;> rfl

/-- **Translations in a row** follow drafts in a row, if they come to different nodes. -/
theorem bind {f : A → Naming B} {g : D → Except Fault E}
    {real' : (Blank → String) → E → B} (h : Follows low U N t d real)
    (hf : ∀ N' x a, Grows U N N' → d = .ok x → Is N' real x a →
      Follows low V N' (f a) (g x) real')
    (hd : Disjoint U V) (hU : U ⊆ W) (hV : V ⊆ W) :
    Follows low W N (t >>= f) (d >>= g) real' := by
  intro s hs huntold
  obtain ⟨N₁, hg₁, ht₁, hr₁⟩ := h s hs (huntold.mono hU)
  obtain ⟨ν₀, hν₀⟩ := exists_agrees N₁
  have hfirst := hr₁ ν₀ hν₀
  simp only [ExceptT.run_bind, StateT.run_bind]
  cases d with
  | error fault =>
    refine ⟨N₁, hg₁.mono hU, ?_⟩
    rcases hrun : t.run.run s with ⟨r, s₁⟩
    rw [hrun] at hfirst ht₁
    cases hfirst
    exact ⟨ht₁, fun _ _ => rfl⟩
  | ok x =>
    rcases hrun : t.run.run s with ⟨r, s₁⟩
    rw [hrun] at hfirst ht₁ hr₁
    cases hfirst
    have his : Is N₁ real x (real (fun b => ν₀ b) x) :=
      fun ν hν => Except.ok.inj (hr₁ ν hν)
    obtain ⟨N₂, hg₂, ht₂, hr₂⟩ := hf N₁ x _ hg₁ rfl his s₁ ht₁
      ((huntold.mono hV).of_grows hg₁ hd)
    exact ⟨N₂, (hg₁.mono hU).trans (hg₂.mono hV), ht₂, hr₂⟩

theorem bind_left {f : A → Naming B} {g : D → Except Fault E}
    {real' : (Blank → String) → E → B} (h : Follows low ∅ N t d real)
    (hf : ∀ N' x a, Grows ∅ N N' → Is N' real x a → Follows low W N' (f a) (g x) real') :
    Follows low W N (t >>= f) (d >>= g) real' :=
  h.bind (fun N' x a hg _ his => hf N' x a hg his)
    (Set.disjoint_left.mpr fun _ hq => nomatch hq) (fun _ hq => nomatch hq) (Set.Subset.refl W)

theorem bind_pure {f : A → B} {g : D → E}
    {real' : (Blank → String) → E → B} (h : Follows low W N t d real)
    (hf : ∀ N' x a, Grows W N N' → Is N' real x a → Is N' real' (g x) (f a)) :
    Follows low W N (t >>= fun a => Pure.pure (f a)) (d >>= fun x => .ok (g x)) real' :=
  h.bind (V := ∅) (fun N' x a hg _ his => .pure (hf N' x a hg his))
    (Set.disjoint_left.mpr fun _ _ hq => nomatch hq) (Set.Subset.refl W) (fun _ hq => nomatch hq)

theorem append {t u : Naming (List Statement)}
    {d d' : Except Fault (List Draft)} (h : Follows low U N t d Draft.statements)
    (h' : ∀ N', Grows U N N' → Follows low V N' u d' Draft.statements) (hd : Disjoint U V)
    (hU : U ⊆ W) (hV : V ⊆ W) :
    Follows low W N (do let first ← t; let rest ← u; return first ++ rest)
      (do let first ← d; let rest ← d'; return first ++ rest) Draft.statements := by
  refine h.bind (fun N₁ ds sts hg _ hsts => ?_) hd hU hV
  refine (h' N₁ hg).bind_pure fun N₂ es more hg' hmore ν hν => ?_
  rw [(hsts.of_grows hg') ν hν, hmore ν hν, Draft.statements_append]

end Follows

end Follows

end GraphLedger.JsonLd
