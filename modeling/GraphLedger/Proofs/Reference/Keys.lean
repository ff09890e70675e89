import GraphLedger.Proofs.JsonLd.Expansion
import GraphLedger.Reference.Loader
import Mathlib.Data.List.Basic
import Mathlib.Data.List.Induction

/-! # Keys of documents in memory

Documents in memory are kept by keys, and of several that are kept under one key the last counts. A
reference names a key behind the scheme. But the scheme is taken off as often as it stands at the
beginning, so that what is looked up is the *bare* part of the key, which does not begin with the
scheme. Hence a document is found under its key exactly if the key is bare: one that is kept under
any other key is never found, and references that differ in how often they repeat the scheme mean
the same document.

* `lookup_ofInsertions`: what is kept under a key was inserted there last.
* `exists_repeated`, `eq_of_repeated`: what repetitions of a beginning leave.
* `memoryKey_eq_iff`: which references mean a key.
* `load_memory`: what is loaded for a reference.
* `bare_keys_found`: which keys are found, and which references mean the same. -/

namespace GraphLedger

theorem Text.afterStart?_eq_some_iff {α : Type} [BEq α] [LawfulBEq α] {start cs rest : List α} :
    Text.afterStart? start cs = some rest ↔ cs = start ++ rest := by
  induction start generalizing cs with
  | nil => simp [Text.afterStart?]
  | cons x xs ih =>
    cases cs with
    | nil => simp [Text.afterStart?]
    | cons c cs =>
      rw [Text.afterStart?, List.cons_append, List.cons.injEq]
      by_cases hx : x = c
      · rw [if_pos (beq_iff_eq.mpr hx), ih]
        exact ⟨fun h => ⟨hx.symm, h⟩, And.right⟩
      · rw [if_neg fun h => hx (beq_iff_eq.mp h)]
        exact ⟨nofun, fun h => absurd h.1.symm hx⟩

namespace Loader

/-! ### Documents -/

/-- The documents after several were inserted, one after the other. -/
def Documents.ofInsertions (calls : List (String × List Statement)) : Documents :=
  calls.foldl (fun d c => d.insert c.1 c.2) []

/-- What was inserted last under a key, if anything was. -/
def latest? (calls : List (String × List Statement)) (key : String) : Option (List Statement) :=
  calls.reverse.lookup key

theorem Documents.lookup_insert (d : Documents) (key other : String) (sts : List Statement) :
    (d.insert key sts).lookup other = if other = key then some sts else d.lookup other := by
  rw [insert, JsonLd.Context.lookup_cons_eq_ite, JsonLd.Context.lookup_filter_ne]
  split <;> rfl

/-- **What is kept under a key** was inserted there last. -/
theorem Documents.lookup_ofInsertions (calls : List (String × List Statement)) (key : String) :
    (ofInsertions calls).lookup key = latest? calls key := by
  induction calls using List.reverseRecOn with
  | nil => rfl
  | append_singleton calls c ih =>
    obtain ⟨other, sts⟩ := c
    rw [ofInsertions, List.foldl_append]
    show (Documents.insert (ofInsertions calls) other sts).lookup key = _
    rw [lookup_insert, ih]
    show _ = (calls ++ [(other, sts)]).reverse.lookup key
    rw [List.reverse_append, List.reverse_singleton, List.singleton_append,
      JsonLd.Context.lookup_cons_eq_ite]
    rfl

/-! ### Repetitions -/

/-- A beginning, repeated. -/
def repeated (start : List Char) (n : Nat) : List Char := (List.replicate n start).flatten

theorem repeated_succ (start : List Char) (n : Nat) :
    repeated start (n + 1) = start ++ repeated start n := by
  rw [repeated, List.replicate_succ, List.flatten_cons]
  rfl

section Repeated
variable {start : List Char}

/-- **Trimming takes off repetitions**, and leaves what does not begin so. -/
theorem exists_repeated (hstart : start ≠ []) {fuel : Nat} : ∀ {cs : List Char}, cs.length ≤ fuel →
    (∃ n, cs = repeated start n ++ trimRepeated start fuel cs) ∧
      ¬ start <+: trimRepeated start fuel cs := by
  induction fuel with
  | zero =>
    intro cs hlen
    obtain rfl := List.length_eq_zero_iff.mp (Nat.le_zero.mp hlen)
    exact ⟨⟨0, rfl⟩, fun h => hstart (List.prefix_nil.mp h)⟩
  | succ fuel ih =>
    intro cs hlen
    rw [trimRepeated]
    cases hafter : Text.afterStart? start cs with
    | none =>
      refine ⟨⟨0, rfl⟩, ?_⟩
      rintro ⟨rest, hrest⟩
      rw [Text.afterStart?_eq_some_iff.mpr hrest.symm] at hafter
      cases hafter
    | some rest =>
      rw [Text.afterStart?_eq_some_iff] at hafter
      have hshorter : rest.length ≤ fuel := by
        have hpos := List.length_pos_iff.mpr hstart
        rw [hafter, List.length_append] at hlen
        omega
      obtain ⟨⟨n, hn⟩, hbare⟩ := ih hshorter
      refine ⟨⟨n + 1, ?_⟩, hbare⟩
      rw [repeated_succ, List.append_assoc, ← hn, hafter]

/-- **What repetitions leave** is told by the whole, if it does not begin so. -/
theorem eq_of_repeated {a b : List Char} (ha : ¬ start <+: a) (hb : ¬ start <+: b) {m n : Nat}
    (h : repeated start m ++ a = repeated start n ++ b) : a = b := by
  induction m generalizing n with
  | zero =>
    cases n with
    | zero => exact h
    | succ n =>
      rw [repeated_succ, List.append_assoc] at h
      exact absurd ⟨_, h.symm⟩ ha
  | succ m ih =>
    cases n with
    | zero =>
      rw [repeated_succ, List.append_assoc] at h
      exact absurd ⟨_, h⟩ hb
    | succ n =>
      rw [repeated_succ, repeated_succ, List.append_assoc, List.append_assoc] at h
      exact ih (List.append_cancel_left h)

end Repeated

/-! ### Keys -/

/-- Whether a key is bare: it does not begin with the scheme. -/
def IsBare (key : String) : Prop := ¬ memoryScheme <+: key.toList

/-- **The references that mean a key**: it is bare, and they repeat the scheme before it. -/
theorem memoryKey_eq_iff {uri key : String} : memoryKey uri = key ↔
    IsBare key ∧ ∃ n, uri.toList = repeated memoryScheme n ++ key.toList := by
  have hscheme : memoryScheme ≠ [] := by decide
  obtain ⟨⟨n, hn⟩, hbare⟩ :=
    exists_repeated hscheme (Nat.le_of_eq (String.length_toList (s := uri)))
  constructor
  · rintro rfl
    rw [IsBare, memoryKey, String.toList_ofList]
    exact ⟨hbare, n, hn⟩
  · rintro ⟨hkey, m, hm⟩
    have hsame := eq_of_repeated hbare hkey (hn.symm.trans hm)
    rw [memoryKey, hsame, String.ofList_toList]

theorem memoryKey_spec (key : String) : IsBare (memoryKey key) ∧
    ∃ n, key.toList = repeated memoryScheme n ++ (memoryKey key).toList :=
  memoryKey_eq_iff.mp rfl

theorem memoryKey_eq_self_iff {key : String} : memoryKey key = key ↔ IsBare key :=
  memoryKey_eq_iff.trans ⟨And.left, fun h => ⟨h, 0, rfl⟩⟩

/-- The reference that names a key. -/
def reference (key : String) (format : Option String) : Reference := ⟨"mem://" ++ key, format⟩

theorem memoryKey_of_repeated {uri : String} {n : Nat} {key : String}
    (h : uri.toList = repeated memoryScheme n ++ key.toList) : memoryKey uri = memoryKey key := by
  obtain ⟨hbare, m, hm⟩ := memoryKey_spec key
  refine memoryKey_eq_iff.mpr ⟨hbare, n + m, ?_⟩
  rw [h, hm, repeated, repeated, repeated, ← List.replicate_append_replicate, List.flatten_append,
    List.append_assoc]

theorem memoryKey_reference (key : String) (format : Option String) :
    memoryKey (reference key format).uri = memoryKey key :=
  memoryKey_of_repeated (n := 1) (by rw [reference, String.toList_append]; rfl)

/-- What is answered for a reference: statements, or that it is unknown. -/
def answer (r : Reference) : Option (List Statement) → Except Failure StatementStream
  | some sts => .ok (.ofList sts)
  | none => .error (ReferenceFault.unknown r.uri).toFailure

theorem answer_injective (r : Reference) : Function.Injective (answer r) := by
  intro a b h
  cases a with
  | none => cases b with
    | none => rfl
    | some sts => cases h
  | some sts => cases b with
    | none => cases h
    | some sts' =>
      have hmap : sts.map (Except.ok (ε := Failure)) = sts'.map .ok := Except.ok.inj h
      rw [List.map_injective_iff.mpr (fun _ _ => Except.ok.inj) hmap]

/-- **What is loaded for a reference** was inserted last under the bare part of its key. -/
theorem load_memory (calls : List (String × List Statement)) (r : Reference) (next : Nat) :
    ((memory (.ofInsertions calls)).load r next).1 =
      answer r (latest? calls (memoryKey r.uri)) := by
  rw [← Documents.lookup_ofInsertions]
  show (loadMemory (.ofInsertions calls) r).mapError ReferenceFault.toFailure = _
  unfold loadMemory
  cases (Documents.ofInsertions calls).lookup (memoryKey r.uri) <;> rfl

/-- **Bare keys are found, and no others.** For a reference that names a key, what is loaded was
inserted last under the bare part of the key. Whatever is inserted, that is what was inserted last
under the key itself, if and only if the key is bare. Two references that name keys mean the same
document exactly if they differ in nothing but how often they repeat the scheme. -/
theorem bare_keys_found (key : String) (format : Option String) (next : Nat) :
    let r := reference key format
    (∀ calls, ((memory (.ofInsertions calls)).load r next).1 =
      answer r (latest? calls (memoryKey key))) ∧
    ((∀ calls, ((memory (.ofInsertions calls)).load r next).1 = answer r (latest? calls key)) ↔
      IsBare key) ∧
    ∀ key' format', memoryKey r.uri = memoryKey (reference key' format').uri ↔
      ∃ bare m n, key.toList = repeated memoryScheme m ++ bare ∧
        key'.toList = repeated memoryScheme n ++ bare := by
  intro r
  have hload : ∀ calls, ((memory (.ofInsertions calls)).load r next).1 =
      answer r (latest? calls (memoryKey key)) := fun calls => by
    rw [load_memory, memoryKey_reference]
  refine ⟨hload, ⟨fun h => ?_, fun hbare calls => ?_⟩, fun key' format' => ?_⟩
  · -- the empty document is found under the key only if the key is its own bare part
    have hkey : latest? [(key, [])] (memoryKey key) = latest? [(key, [])] key :=
      answer_injective r ((hload _).symm.trans (h _))
    have hone : ∀ other, latest? [(key, [])] other = if other = key then some [] else none :=
      fun other => JsonLd.Context.lookup_cons_eq_ite [] key other []
    rw [hone, hone, if_pos rfl] at hkey
    refine memoryKey_eq_self_iff.mp ?_
    by_contra hne
    rw [if_neg hne] at hkey
    cases hkey
  · rw [hload, memoryKey_eq_self_iff.mpr hbare]
  · rw [memoryKey_reference, memoryKey_reference]
    constructor
    · intro h
      obtain ⟨-, m, hm⟩ := memoryKey_spec key
      obtain ⟨-, n, hn⟩ := memoryKey_spec key'
      exact ⟨_, m, n, hm, h ▸ hn⟩
    · rintro ⟨bare, m, n, hm, hn⟩
      have hbare : (String.ofList bare).toList = bare := String.toList_ofList
      rw [memoryKey_of_repeated (hm.trans (congrArg _ hbare.symm)),
        memoryKey_of_repeated (hn.trans (congrArg _ hbare.symm))]

/-- What is inserted under a key that looks like a reference is not found by it; the reference means
the document of another key. -/
theorem prefixed_key_not_found :
    let st : Statement := ⟨"urn:s", "urn:p", .literal "a", "", none, none⟩
    let calls := [("mem://x", [st])]
    let r := reference "mem://x" none
    ((memory (.ofInsertions calls)).load r 0).1 =
        .error (.reference "unknown reference 'mem://mem://x'") ∧
      ((memory (.ofInsertions calls)).load r 0).1 ≠ answer r (latest? calls "mem://x") ∧
      r.uri ≠ (reference "x" none).uri ∧
      memoryKey r.uri = memoryKey (reference "x" none).uri := by
  intro st calls r
  have hkey : memoryKey r.uri = "x" := by decide +kernel
  have hunknown : ((memory (.ofInsertions calls)).load r 0).1 = answer r none := by
    rw [load_memory, hkey]
    rfl
  have hinserted : latest? calls "mem://x" = some [st] := rfl
  refine ⟨hunknown, ?_, by decide +kernel, by decide +kernel⟩
  rw [hunknown, hinserted]
  exact fun h => by cases answer_injective r h

end Loader

end GraphLedger
