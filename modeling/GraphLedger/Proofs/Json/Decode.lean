import GraphLedger.Json.Decode
import GraphLedger.Proofs.Config.Runnable
import Mathlib.Data.List.Forall2

/-! # Typed values, field by field

A typed value may be written in two forms, and a field of it has a place in each. What a field is
written as decides what the value of that field is and nothing else: the other fields have the
values that they had, and if one of them occurs twice, or the value has too many fields, it does not
fit whatever this field is.

A list may be written in short as its only item. An item is taken for one only if it is not taken
for a list, so that the short form is read as the list of the item just if no item is a list of
items.

* `Hole`: a typed value that is open at one field; `fieldsOf?_hole`.
* `IsSingle`: a decoder of items that are no lists of items.
* `decodeOneOrMany_item`, `decodeOneOrMany_list`: the two forms of a list. -/

namespace GraphLedger.Json

theorem mapM_eq_some_iff {α β : Type} {f : α → Option β} {l : List α} {l' : List β} :
    l.mapM f = some l' ↔ List.Forall₂ (fun a b => f a = some b) l l' := by
  induction l generalizing l' with
  | nil =>
    rw [List.mapM_nil, List.forall₂_nil_left_iff]
    exact ⟨fun h => (Option.some.inj h).symm, fun h => congrArg some h.symm⟩
  | cons a l ih =>
    rw [List.mapM_cons, Option.bind_eq_bind, Option.bind_eq_some_iff, List.forall₂_cons_left_iff]
    constructor
    · rintro ⟨b, hb, h⟩
      obtain ⟨bs, hbs, h⟩ := Option.bind_eq_some_iff.mp h
      cases h
      exact ⟨b, bs, hb, ih.mp hbs, rfl⟩
    · rintro ⟨b, bs, hb, hbs, rfl⟩
      exact ⟨b, hb, Option.bind_eq_some_iff.mpr ⟨bs, ih.mpr hbs, rfl⟩⟩

/-! ### A field in its place -/

/-- **A typed value that is open at a field**, which has a name in the form of an object and an
index in the form of an array. -/
inductive Hole (key : String) (index : Nat) : (Json → Json) → Prop where
  | object (before after : Fields) : Hole key index fun x => .object (before ++ (key, x) :: after)
  | array (before after : List Json) (h : before.length = index) :
    Hole key index fun x => .array (before ++ x :: after)

section Occurrence
variable {key : String} {before after : Fields}

theorem occurrence?_of_not_mem {names : List String} (h : key ∉ names) (x y : Json) :
    occurrence? (before ++ (key, x) :: after) names =
      occurrence? (before ++ (key, y) :: after) names := by
  have hneg : ∀ v : Json, (before ++ (key, v) :: after).filter (fun f => names.contains f.1) =
      (before ++ after).filter fun f => names.contains f.1 := fun v => by
    rw [List.filter_append, List.filter_append, List.filter_cons, if_neg (by simpa using h)]
  unfold occurrence?
  rw [hneg x, hneg y]

theorem occurrence?_self (x y : Json) : occurrence? (before ++ (key, x) :: after) [key] =
    (occurrence? (before ++ (key, y) :: after) [key]).map fun _ => some x := by
  unfold occurrence?
  rw [List.filter_append, List.filter_append, List.filter_cons_of_pos (by simp),
    List.filter_cons_of_pos (by simp)]
  -- there is one field of the name if there is none in the rest
  generalize List.filter _ before = first
  generalize List.filter _ after = last
  cases first with
  | nil => cases last <;> rfl
  | cons f first => cases first <;> rfl

theorem mapM_occurrence? {before after : Fields} {fields others : Layout}
    (h : ∀ names ∈ fields ++ others, key ∉ names) (x y : Json) :
    (fields ++ [key] :: others).mapM (occurrence? (before ++ (key, x) :: after)) =
      ((fields ++ [key] :: others).mapM (occurrence? (before ++ (key, y) :: after))).map
        fun vs => vs.set fields.length (some x) := by
  induction fields with
  | nil =>
    have hothers : others.mapM (occurrence? (before ++ (key, x) :: after)) =
        others.mapM (occurrence? (before ++ (key, y) :: after)) :=
      mapM_congr fun names hnames => occurrence?_of_not_mem (h names hnames) x y
    rw [List.nil_append, List.mapM_cons, List.mapM_cons, hothers, occurrence?_self x y]
    cases occurrence? (before ++ (key, y) :: after) [key] with
    | none => rfl
    | some v => cases others.mapM (occurrence? (before ++ (key, y) :: after)) <;> rfl
  | cons names fields ih =>
    obtain ⟨hnames, hrest⟩ := List.forall_mem_cons.mp h
    rw [List.cons_append, List.mapM_cons, List.mapM_cons, ih hrest,
      occurrence?_of_not_mem hnames x y]
    cases occurrence? (before ++ (key, y) :: after) names with
    | none => rfl
    | some v =>
      cases (fields ++ [key] :: others).mapM (occurrence? (before ++ (key, y) :: after)) <;> rfl

end Occurrence

/-- **What a field is written as** decides the value of that field and nothing else. -/
theorem fieldsOf?_hole {key : String} {fields others : Layout}
    (h : ∀ names ∈ fields ++ others, key ∉ names) {hole : Json → Json}
    (hhole : Hole key fields.length hole) (x y : Json) :
    fieldsOf? (fields ++ [key] :: others) (hole x) =
      (fieldsOf? (fields ++ [key] :: others) (hole y)).map
        fun vs => vs.set fields.length (some x) := by
  cases hhole with
  | object before after => exact mapM_occurrence? h x y
  | array before after hlength =>
    simp only [fieldsOf?, List.length_append, List.length_cons]
    split
    · rw [← hlength]
      simp
    · rfl

theorem length_of_fieldsOf? {layout : Layout} {v : Json} {vs : List (Option Json)}
    (h : fieldsOf? layout v = some vs) : vs.length = layout.length := by
  cases v with
  | object fs =>
    have hmapM : layout.mapM (occurrence? fs) = some vs := h
    clear h
    induction layout generalizing vs with
    | nil => cases hmapM; rfl
    | cons names layout ih =>
      rw [List.mapM_cons] at hmapM
      obtain ⟨w, -, hmapM⟩ := Option.bind_eq_some_iff.mp hmapM
      obtain ⟨ws, hws, hmapM⟩ := Option.bind_eq_some_iff.mp hmapM
      cases hmapM
      exact congrArg (· + 1) (ih hws)
  | array items =>
    rw [fieldsOf?] at h
    split at h
    · cases h
      rw [List.length_append, List.length_map, List.length_replicate]
      omega
    · cases h
  | _ => cases h

/-! ### Lists and their short forms -/

section Lists
variable {α : Type} {decode : Json → Option α}

/-- **No item is a list of items**, and none is null. -/
def IsSingle (decode : Json → Option α) : Prop :=
  ∀ x a, decode x = some a → x ≠ .null ∧ decodeList decode x = none

theorem decodeOneOrMany_list {items : List Json} {as : List α} (h : items.mapM decode = some as) :
    decodeOneOrMany decode (some (.array items)) = some as := by
  have hlist : decodeList decode (.array items) = some as := h
  rw [decodeOneOrMany]
  · rw [hlist]
  · exact Json.noConfusion

/-- **An item may stand for the list of it.** -/
theorem decodeOneOrMany_item (hsingle : IsSingle decode) {x : Json} {a : α}
    (h : decode x = some a) : decodeOneOrMany decode (some x) = some [a] := by
  obtain ⟨hnull, hlist⟩ := hsingle x a h
  rw [decodeOneOrMany]
  · rw [hlist, h]
    rfl
  · exact fun hx => hnull hx

theorem exists_of_mem_decodeOneOrMany {v : Option Json} {as : List α}
    (h : decodeOneOrMany decode v = some as) : ∀ a ∈ as, ∃ x, decode x = some a := by
  have hitems : ∀ {items : List Json} {as : List α}, items.mapM decode = some as →
      ∀ a ∈ as, ∃ x, decode x = some a := by
    intro items
    induction items with
    | nil =>
      intro as has
      cases has
      exact fun _ ha => absurd ha List.not_mem_nil
    | cons x items ih =>
      intro as has
      rw [List.mapM_cons] at has
      obtain ⟨a, ha, has⟩ := Option.bind_eq_some_iff.mp has
      obtain ⟨rest, hrest, has⟩ := Option.bind_eq_some_iff.mp has
      cases has
      exact List.forall_mem_cons.mpr ⟨⟨x, ha⟩, ih hrest⟩
  unfold decodeOneOrMany at h
  split at h
  · cases h
    exact fun _ ha => absurd ha List.not_mem_nil
  · cases h
    exact fun _ ha => absurd ha List.not_mem_nil
  · split at h
    · rename_i hlist
      cases h
      unfold decodeList at hlist
      split at hlist
      · exact hitems hlist
      · cases hlist
    · obtain ⟨a, ha, rfl⟩ := Option.map_eq_some_iff.mp h
      exact List.forall_mem_singleton.mpr ⟨_, ha⟩

theorem mapM_map_eq_some {encode : α → Json} {as : List α}
    (h : ∀ a ∈ as, decode (encode a) = some a) : (as.map encode).mapM decode = some as := by
  induction as with
  | nil => rfl
  | cons a as ih =>
    obtain ⟨hfirst, hrest⟩ := List.forall_mem_cons.mp h
    rw [List.map_cons, List.mapM_cons, hfirst, ih hrest]
    rfl

theorem head_of_fieldsOf?_array {layout : Layout} {items : List Json} {v : Option Json}
    {vs : List (Option Json)} (h : fieldsOf? layout (.array items) = some (v :: vs)) :
    v = items.head? := by
  rw [fieldsOf?] at h
  split at h
  · cases items with
    | nil =>
      cases layout with
      | nil => cases h
      | cons names layout => cases h; rfl
    | cons x items => cases h; rfl
  · cases h

/-- **Typed values that begin with a text are no lists** of such values: in the form of an array,
the first item is a text, which is no such value. -/
theorem isSingle_of_text (layout : Layout)
    (h : ∀ v a, decode v = some a → ∃ first rest, fieldsOf? layout v = some (first :: rest) ∧
      ∃ text, required decodeString first = some text) : IsSingle decode := by
  intro x a hx
  obtain ⟨first, rest, hvs, text, htext⟩ := h x a hx
  cases x with
  | object fs => exact ⟨Json.noConfusion, rfl⟩
  | array items =>
    refine ⟨Json.noConfusion, ?_⟩
    obtain rfl := head_of_fieldsOf?_array hvs
    cases items with
    | nil => cases htext
    | cons y items =>
      have hy : decodeString y = some text := htext
      cases y with
      | string s =>
        have hnone : decode (.string s) = none := by
          rw [Option.eq_none_iff_forall_ne_some]
          intro b hb
          obtain ⟨first, rest, hvs, -⟩ := h _ b hb
          cases hvs
        rw [decodeList, List.mapM_cons, hnone]
        rfl
      | _ => cases hy
  | _ => cases hvs

end Lists

end GraphLedger.Json
