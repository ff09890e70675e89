import GraphLedger.Json.Basic
import Mathlib.Data.String.Basic

/-! # Canonical values

The fields of a canonical object increase by their keys. Giving a key a value keeps them so, and a
list of fields that increases is left as it is when its fields are set one after the other. So the
canonical form of a value is canonical itself, by induction on the value.

* `Fields.increasing_sorted`: sorted fields increase.
* `Fields.sorted_of_increasing`: fields that increase are sorted.
* `canonical_canonical`: the canonical form of a canonical form is itself. -/

namespace GraphLedger.Json

namespace Fields

/-- Whether the keys of fields increase. -/
def Increasing (fs : Fields) : Prop := fs.Pairwise fun f g => f.1 < g.1

/-! ### Setting a key -/

theorem mem_of_mem_set {fs : Fields} {key : String} {value : Json} {f : String × Json}
    (h : f ∈ fs.set key value) : f = (key, value) ∨ f ∈ fs := by
  induction fs with
  | nil => exact Or.inl (List.mem_singleton.mp h)
  | cons g fs ih =>
    obtain ⟨k, v⟩ := g
    rw [set] at h
    split at h
    · exact List.mem_cons.mp h
    · split at h
      · rcases List.mem_cons.mp h with h | h
        · exact Or.inl h
        · exact Or.inr (List.mem_cons_of_mem _ h)
      · rcases List.mem_cons.mp h with h | h
        · exact Or.inr (h ▸ List.mem_cons_self)
        · exact (ih h).imp_right (List.mem_cons_of_mem _)

/-- **Giving a key a value** keeps the order of the keys. -/
theorem increasing_set {fs : Fields} (h : fs.Increasing) (key : String) (value : Json) :
    (fs.set key value).Increasing := by
  induction fs with
  | nil => exact List.pairwise_singleton _ _
  | cons g fs ih =>
    obtain ⟨k, v⟩ := g
    obtain ⟨hfirst, hrest⟩ := List.pairwise_cons.mp h
    rw [set]
    split
    · rename_i hlt
      refine List.pairwise_cons.mpr ⟨fun f hf => ?_, h⟩
      rcases List.mem_cons.mp hf with rfl | hf
      · exact hlt
      · exact lt_trans hlt (hfirst f hf)
    · split
      · rename_i heq
        exact List.pairwise_cons.mpr ⟨heq ▸ hfirst, hrest⟩
      · rename_i hge hne
        refine List.pairwise_cons.mpr ⟨fun f hf => ?_, ih hrest⟩
        rcases mem_of_mem_set hf with rfl | hf
        · exact lt_of_le_of_ne (not_lt.mp hge) (Ne.symm hne)
        · exact hfirst f hf

theorem set_of_lt {fs : Fields} {key : String} (value : Json) (h : ∀ f ∈ fs, f.1 < key) :
    fs.set key value = fs ++ [(key, value)] := by
  induction fs with
  | nil => rfl
  | cons g fs ih =>
    obtain ⟨k, v⟩ := g
    obtain ⟨hfirst, hrest⟩ := List.forall_mem_cons.mp h
    rw [set, if_neg (lt_asymm hfirst), if_neg (ne_of_gt hfirst), ih hrest]
    rfl

/-! ### Sorting -/

/-- **Sorted fields increase.** -/
theorem increasing_sorted (fs : Fields) : fs.sorted.Increasing := by
  have hfold : ∀ (fs acc : Fields), acc.Increasing →
      (fs.foldl (fun acc f => acc.set f.1 f.2) acc).Increasing := by
    intro fs
    induction fs with
    | nil => exact fun _ hacc => hacc
    | cons f fs ih => exact fun acc hacc => ih _ (increasing_set hacc f.1 f.2)
  exact hfold fs [] .nil

theorem mem_of_mem_sorted {fs : Fields} {f : String × Json} (h : f ∈ fs.sorted) : f ∈ fs := by
  have hfold : ∀ (fs acc : Fields), f ∈ fs.foldl (fun acc f => acc.set f.1 f.2) acc →
      f ∈ acc ∨ f ∈ fs := by
    intro fs
    induction fs with
    | nil => exact fun _ hf => Or.inl hf
    | cons g fs ih =>
      intro acc hf
      rcases ih _ hf with hf | hf
      · rcases mem_of_mem_set hf with rfl | hf
        · exact Or.inr List.mem_cons_self
        · exact Or.inl hf
      · exact Or.inr (List.mem_cons_of_mem g hf)
  exact (hfold fs [] h).resolve_left List.not_mem_nil

/-- **Fields that increase** are as they are when they are sorted. -/
theorem sorted_of_increasing {fs : Fields} (h : fs.Increasing) : fs.sorted = fs := by
  have hfold : ∀ (fs acc : Fields), (acc ++ fs).Increasing →
      fs.foldl (fun acc f => acc.set f.1 f.2) acc = acc ++ fs := by
    intro fs
    induction fs with
    | nil => exact fun acc _ => (List.append_nil acc).symm
    | cons f fs ih =>
      intro acc hacc
      have hlt : ∀ g ∈ acc, g.1 < f.1 := fun g hg =>
        (List.pairwise_append.mp hacc).2.2 g hg f List.mem_cons_self
      rw [List.foldl_cons, set_of_lt f.2 hlt, ih, List.append_assoc]
      · rfl
      · rwa [List.append_assoc]
  exact hfold fs [] h

end Fields

/-! ### Values -/

theorem canonicalFields_of_fixed {fs : Fields} (h : ∀ f ∈ fs, f.2.canonical = f.2) :
    canonicalFields fs = fs := by
  induction fs with
  | nil => rfl
  | cons f fs ih =>
    obtain ⟨k, v⟩ := f
    obtain ⟨hfirst, hrest⟩ := List.forall_mem_cons.mp h
    rw [canonicalFields, ih hrest, hfirst]

mutual

/-- **The canonical form of a value is canonical.** -/
theorem canonical_canonical : ∀ v : Json, v.canonical.canonical = v.canonical
  | .null | .bool _ | .int _ | .float _ | .string _ => rfl
  | .array items => by
    rw [canonical, canonical, canonicalItems_canonicalItems items]
  | .object fs => by
    have hfixed : ∀ f ∈ Fields.sorted (canonicalFields fs), f.2.canonical = f.2 := fun f hf =>
      canonical_of_mem_canonicalFields fs f (Fields.mem_of_mem_sorted hf)
    rw [canonical, canonical, canonicalFields_of_fixed hfixed,
      Fields.sorted_of_increasing (Fields.increasing_sorted _)]

theorem canonicalItems_canonicalItems : ∀ vs : List Json,
    canonicalItems (canonicalItems vs) = canonicalItems vs
  | [] => rfl
  | v :: vs => by
    rw [canonicalItems, canonicalItems, canonical_canonical v, canonicalItems_canonicalItems vs]

theorem canonical_of_mem_canonicalFields : ∀ (fs : List (String × Json)),
    ∀ f ∈ canonicalFields fs, f.2.canonical = f.2
  | [], f, hf => absurd hf List.not_mem_nil
  | (k, v) :: fs, f, hf => by
    rw [canonicalFields] at hf
    rcases List.mem_cons.mp hf with rfl | hf
    · exact canonical_canonical v
    · exact canonical_of_mem_canonicalFields fs f hf

end

end GraphLedger.Json
