import GraphLedger.Proofs.Config.Runnable
import GraphLedger.Proofs.Request.RoundTrip
import GraphLedger.Record

/-! # Requests that are built

Entries come into a request in two ways: a request that is built is given values, each for one or
several entries, and a request that is read has a value in a field. The two ways are told apart by
what they do if a value is no entry, since building notes the fault and goes on, and reading gives
nothing. But they take the same values for the same entries, as each takes the entries that write
the items of the value, one after the other.

* `ofJson_eq_ok_iff`, `ofJson_eq_error_iff`: which values a builder takes, and its fault otherwise.
* `decodeOneOrMany_eq_some_iff`: which values are read in a field.
* `withEntries_cases`: what a call does that gives entries.
* `ofJson?_entries_iff`: the entries that are read are those that a builder takes.
* `rejected_calls`: the faults of calls one after the other, in the order of the calls.
* `builder_accepts_as_wire`: the two ways agree, and the first fault is told. -/

namespace GraphLedger

namespace Entry

/-! ### Values that a builder takes -/

theorem ofValue_eq_ok_iff {v : Json} {e : Entry} : ofValue v = .ok e ↔ e.toJson = v := by
  cases e <;> cases v <;> simp [ofValue, toJson, eq_comm]

theorem ofValue_eq_error_iff {v : Json} {fault : RequestFault} :
    ofValue v = .error fault ↔ (∀ e : Entry, e.toJson ≠ v) ∧ fault = .badEntry v := by
  constructor
  · intro h
    refine ⟨fun e he => ?_, ?_⟩
    · rw [ofValue_eq_ok_iff.mpr he] at h
      cases h
    · cases v <;> cases h <;> rfl
  · rintro ⟨hne, rfl⟩
    cases v with
    | string s => exact absurd rfl (hne (.template s))
    | object fs => exact absurd rfl (hne (.node fs))
    | _ => rfl

theorem ofJson_eq_mapM (v : Json) : ofJson v = v.asItems.mapM ofValue := by
  have hone : ∀ v, (ofValue v).map (fun e => [e]) = [v].mapM ofValue := by
    intro v
    rw [List.mapM_cons, List.mapM_nil]
    cases ofValue v <;> rfl
  cases v with
  | array items => rfl
  | _ =>
    simp only [ofJson, Json.asItems]
    exact hone _

/-- **A builder takes the entries that write the items of a value.** -/
theorem ofJson_eq_ok_iff {v : Json} {es : List Entry} :
    ofJson v = .ok es ↔ es.map toJson = v.asItems := by
  simp only [ofJson_eq_mapM, mapM_eq_ok_iff, ofValue_eq_ok_iff]
  rw [← List.forall₂_eq_eq_eq, List.forall₂_map_left_iff]
  exact ⟨List.Forall₂.flip, List.Forall₂.flip⟩

/-- **The fault of a value** names the first of its items that is no entry. -/
theorem ofJson_eq_error_iff {v : Json} {fault : RequestFault} : ofJson v = .error fault ↔
    ∃ (before : List Entry) (x : Json) (after : List Json),
      v.asItems = before.map toJson ++ x :: after ∧ (∀ e : Entry, e.toJson ≠ x) ∧
        fault = .badEntry x := by
  rw [ofJson_eq_mapM]
  generalize v.asItems = items
  induction items with
  | nil =>
    refine iff_of_false (by rintro ⟨⟩) ?_
    rintro ⟨before, x, after, h, -⟩
    cases before <;> cases h
  | cons y items ih =>
    rw [List.mapM_cons, bind_eq_error_iff, ofValue_eq_error_iff]
    constructor
    · rintro (⟨hne, rfl⟩ | ⟨e, he, h⟩)
      · exact ⟨[], y, items, rfl, hne, rfl⟩
      · obtain rfl := ofValue_eq_ok_iff.mp he
        rcases bind_eq_error_iff.mp h with hrest | ⟨es, -, h⟩
        · obtain ⟨before, x, after, rfl, hne, rfl⟩ := ih.mp hrest
          exact ⟨e :: before, x, after, rfl, hne, rfl⟩
        · cases h
    · rintro ⟨before, x, after, h, hne, rfl⟩
      cases before with
      | nil =>
        cases h
        exact Or.inl ⟨hne, rfl⟩
      | cons e before =>
        obtain ⟨rfl, rfl⟩ := List.cons.inj h
        refine Or.inr ⟨e, ofValue_eq_ok_iff.mpr rfl, bind_eq_error_iff.mpr (Or.inl ?_)⟩
        exact ih.mpr ⟨before, x, after, rfl, hne, rfl⟩

/-! ### Values that are read -/

theorem ofJson?_eq_some_iff {v : Json} {e : Entry} :
    ofJson? v = some e ↔ e.toJson = v.canonical := by
  cases v with
  | object fs => cases e <;> simp [ofJson?, toJson, Json.canonical, eq_comm]
  | _ => cases e <;> simp [ofJson?, toJson, Json.canonical, eq_comm]

theorem asItems_canonical (v : Json) : v.canonical.asItems = v.asItems.map Json.canonical := by
  have hitems : ∀ items, Json.canonicalItems items = items.map Json.canonical := by
    intro items
    induction items with
    | nil => rfl
    | cons x items ih => rw [Json.canonicalItems, ih, List.map_cons]
  cases v with
  | array items => exact hitems items
  | _ => rfl

/-- **The entries that write the items of a value are read** in a field that has the value, unless
that is null. -/
theorem decodeOneOrMany_eq_some_iff {v : Json} (hv : v ≠ .null) {es : List Entry} :
    Json.decodeOneOrMany ofJson? (some v) = some es ↔ es.map toJson = v.canonical.asItems := by
  have hlist : ∀ {items : List Json}, items.mapM ofJson? = some es ↔
      es.map toJson = items.map Json.canonical := by
    intro items
    simp only [Json.mapM_eq_some_iff, ofJson?_eq_some_iff]
    rw [← List.forall₂_eq_eq_eq, List.forall₂_map_left_iff, List.forall₂_map_right_iff]
    exact ⟨List.Forall₂.flip, List.Forall₂.flip⟩
  have hone : ∀ v, (ofJson? v).map (fun e => [e]) = [v].mapM ofJson? := by
    intro v
    rw [List.mapM_cons, List.mapM_nil]
    cases ofJson? v <;> rfl
  rw [asItems_canonical]
  cases v with
  | null => exact absurd rfl hv
  | array items =>
    rw [Json.asItems, ← hlist, Json.decodeOneOrMany, Json.decodeList]
    · -- a list is no entry
      cases items.mapM ofJson? <;> rfl
    · exact Json.noConfusion
  | _ =>
    simp only [Json.asItems]
    rw [← hlist, ← hone]
    rfl

end Entry

/-! ### Lists of entries -/

/-- The field that has the entries of a type of change. -/
def ChangeType.field : ChangeType → ListField
  | .insert => .insert
  | .delete => .delete

namespace Request

/-- The entries of a type of change. -/
def entries : ChangeType → Request → List Entry
  | .insert => insert
  | .delete => delete

/-- Adds the entries of a value to those of a type of change. -/
def withEntries : ChangeType → Request → Json → Request
  | .insert => withInsert
  | .delete => withDelete

/-- A request with more entries of a type of change. -/
def addEntries (t : ChangeType) (es : List Entry) (r : Request) : Request :=
  match t with
  | .insert => { r with insert := r.insert ++ es }
  | .delete => { r with delete := r.delete ++ es }

theorem withEntries_of_ok {v : Json} {es : List Entry} (h : Entry.ofJson v = .ok es)
    (t : ChangeType) (r : Request) : r.withEntries t v = r.addEntries t es := by
  cases t <;> simp only [withEntries, withInsert, withDelete, h, addEntries]

theorem withEntries_of_error {v : Json} {fault : RequestFault} (h : Entry.ofJson v = .error fault)
    (t : ChangeType) (r : Request) :
    r.withEntries t v = { r with rejected := r.rejected ++ [fault] } := by
  cases t <;> simp only [withEntries, withInsert, withDelete, h]

@[simp] theorem rejected_addEntries (t : ChangeType) (es : List Entry) (r : Request) :
    (r.addEntries t es).rejected = r.rejected := by
  cases t <;> rfl

@[simp] theorem entries_addEntries (t : ChangeType) (es : List Entry) (r : Request) :
    (r.addEntries t es).entries t = r.entries t ++ es := by
  cases t <;> rfl

/-- **What a call does that gives entries**: it adds the entries that write the items of the value,
or it adds none and notes the first item that is no entry. -/
theorem withEntries_cases (t : ChangeType) (r : Request) (v : Json) :
    (∃ es, es.map Entry.toJson = v.asItems ∧ r.withEntries t v = r.addEntries t es) ∨
      ∃ (before : List Entry) (x : Json) (after : List Json),
        v.asItems = before.map Entry.toJson ++ x :: after ∧ (∀ e : Entry, e.toJson ≠ x) ∧
          r.withEntries t v = { r with rejected := r.rejected ++ [.badEntry x] } := by
  cases hv : Entry.ofJson v with
  | ok es => exact Or.inl ⟨es, Entry.ofJson_eq_ok_iff.mp hv, withEntries_of_ok hv t r⟩
  | error fault =>
    obtain ⟨before, x, after, hitems, hne, rfl⟩ := Entry.ofJson_eq_error_iff.mp hv
    exact Or.inr ⟨before, x, after, hitems, hne, withEntries_of_error hv t r⟩

theorem withEntries_accepts_iff {t : ChangeType} {r : Request} (hrejected : r.rejected = [])
    (hentries : r.entries t = []) {v : Json} {es : List Entry} :
    (r.withEntries t v).rejected = [] ∧ (r.withEntries t v).entries t = es ↔
      Entry.ofJson v = .ok es := by
  cases hv : Entry.ofJson v with
  | ok as =>
    rw [withEntries_of_ok hv, rejected_addEntries, entries_addEntries, hentries, List.nil_append,
      Except.ok.injEq]
    exact and_iff_right hrejected
  | error fault =>
    rw [withEntries_of_error hv]
    simp

/-! ### Entries that are read -/

theorem entries_eq_nil_of_hole {t : ChangeType} {hole : Json → Json}
    (hhole : Json.Hole t.field.key t.field.index hole) {r : Request}
    (h : ofJson? (hole .null) = some r) : r.entries t = [] := by
  have hempty := (ofJson?_hole hhole h).1
  cases t with
  | insert => exact (Option.some.inj hempty).symm
  | delete => exact (Option.some.inj hempty).symm

/-- **The entries of a request that is read** are those that a builder takes for the value, once
this is canonical. -/
theorem ofJson?_entries_iff {t : ChangeType} {hole : Json → Json}
    (hhole : Json.Hole t.field.key t.field.index hole) {r₀ : Request}
    (h₀ : ofJson? (hole .null) = some r₀) {v : Json} (hv : v ≠ .null) {r : Request} :
    ofJson? (hole v) = some r ↔
      ∃ es, Entry.ofJson v.canonical = .ok es ∧ r = r₀.addEntries t es := by
  have hempty := entries_eq_nil_of_hole hhole h₀
  rw [ofJson?_hole_iff hhole h₀]
  cases t with
  | insert =>
    have hinsert : r₀.insert = [] := hempty
    simp only [Entry.ofJson_eq_ok_iff, ← Entry.decodeOneOrMany_eq_some_iff hv, addEntries, hinsert]
    rfl
  | delete =>
    have hdelete : r₀.delete = [] := hempty
    simp only [Entry.ofJson_eq_ok_iff, ← Entry.decodeOneOrMany_eq_some_iff hv, addEntries, hdelete]
    rfl

/-! ### One call after the other -/

/-- A call that builds a request, or that sets what is given when the request is new. -/
inductive Call where
  | id (id : String)
  | podId (podId : String)
  | context (context : Json)
  | slice (sliceId : String)
  | assertion (a : Assertion)
  | query (query : String)
  | entries (t : ChangeType) (v : Json)
  | insertRef (ref : Reference)
  | deleteRef (ref : Reference)

/-- The fault that a call notes. -/
def Call.fault? : Call → Option RequestFault
  | .entries _ v =>
    match Entry.ofJson v with
    | .ok _ => none
    | .error fault => some fault
  | _ => none

/-- What a call makes of a request. -/
def call (r : Request) : Call → Request
  | .id id => { r with id := id }
  | .podId podId => { r with podId := podId }
  | .context context => r.withContext context
  | .slice sliceId => r.withSlice sliceId
  | .assertion a => r.withAssertion a
  | .query query => r.withQuery query
  | .entries t v => r.withEntries t v
  | .insertRef ref => r.withInsertRef ref
  | .deleteRef ref => r.withDeleteRef ref

/-- What calls make of a request, one after the other. -/
def calls (r : Request) (cs : List Call) : Request := cs.foldl call r

theorem rejected_call (r : Request) (c : Call) :
    (r.call c).rejected = r.rejected ++ c.fault?.toList := by
  cases c with
  | entries t v =>
    cases hv : Entry.ofJson v with
    | ok es => simp [call, withEntries_of_ok hv, Call.fault?, hv]
    | error fault => simp [call, withEntries_of_error hv, Call.fault?, hv]
  | _ => exact (List.append_nil _).symm

/-- **The faults of calls** are noted in the order of the calls. -/
theorem rejected_calls (r : Request) (cs : List Call) :
    (r.calls cs).rejected = r.rejected ++ cs.filterMap Call.fault? := by
  induction cs generalizing r with
  | nil => exact (List.append_nil _).symm
  | cons c cs ih =>
    rw [calls, List.foldl_cons, ← calls, ih, rejected_call, List.append_assoc, List.filterMap_cons]
    cases c.fault? <;> rfl

theorem fault?_of_rejected {r : Request} {fault : RequestFault}
    (h : r.rejected.head? = some fault) (hpodId : Text.allBlank r.podId = false)
    (hid : Ulid.isValid r.id = true) : r.fault? = some fault := by
  obtain ⟨faults, hfaults⟩ := List.head?_eq_some_iff.mp h
  simp only [fault?, hpodId, hid, hfaults]
  rfl

/-- **The two ways agree.** A value that is not null, in the field of a request that is otherwise
read, is read as the entries that a builder takes for it, or neither takes it; and nothing else of
the request depends on it. The builder has the value in canonical form, as has what is read. A
builder that does not take a value has no entries of it. The faults of calls are noted in their
order, and if there are any, the first is told once the identifiers are in order. -/
theorem builder_accepts_as_wire :
    (∀ (t : ChangeType) (hole : Json → Json), Json.Hole t.field.key t.field.index hole →
      ∀ r₀, ofJson? (hole .null) = some r₀ → ∀ v ≠ .null,
        (∀ id podId es, (∃ r, ofJson? (hole v) = some r ∧ r.entries t = es) ↔
          ((new id podId).withEntries t v.canonical).rejected = [] ∧
            ((new id podId).withEntries t v.canonical).entries t = es) ∧
          ∀ r, ofJson? (hole v) = some r → r = r₀.withEntries t v.canonical) ∧
    (∀ (t : ChangeType) (r : Request) (v : Json),
      (∃ es, es.map Entry.toJson = v.asItems ∧ r.withEntries t v = r.addEntries t es) ∨
        ∃ (before : List Entry) (x : Json) (after : List Json),
          v.asItems = before.map Entry.toJson ++ x :: after ∧ (∀ e : Entry, e.toJson ≠ x) ∧
            r.withEntries t v = { r with rejected := r.rejected ++ [.badEntry x] }) ∧
    ∀ r : Request, r.rejected = [] → ∀ cs : List Call,
      (r.calls cs).rejected = cs.filterMap Call.fault? ∧
        ∀ fault, cs.findSome? Call.fault? = some fault →
          Text.allBlank (r.calls cs).podId = false → Ulid.isValid (r.calls cs).id = true →
            (r.calls cs).fault? = some fault := by
  refine ⟨fun t hole hhole r₀ h₀ v hv => ⟨fun id podId es => ?_, fun r h => ?_⟩,
    withEntries_cases, fun r hr cs => ?_⟩
  · have hnew : (new id podId).entries t = [] := by cases t <;> rfl
    have hread : r₀.entries t = [] := entries_eq_nil_of_hole hhole h₀
    rw [withEntries_accepts_iff rfl hnew]
    constructor
    · rintro ⟨r, h, rfl⟩
      obtain ⟨es, hes, rfl⟩ := (ofJson?_entries_iff hhole h₀ hv).mp h
      rw [hes, entries_addEntries, hread, List.nil_append]
    · intro hes
      refine ⟨_, (ofJson?_entries_iff hhole h₀ hv).mpr ⟨es, hes, rfl⟩, ?_⟩
      rw [entries_addEntries, hread, List.nil_append]
  · obtain ⟨es, hes, rfl⟩ := (ofJson?_entries_iff hhole h₀ hv).mp h
    exact (withEntries_of_ok hes t r₀).symm
  · have hnoted : (r.calls cs).rejected = cs.filterMap Call.fault? := by
      rw [rejected_calls, hr, List.nil_append]
    refine ⟨hnoted, fun fault hfirst hpodId hid => fault?_of_rejected ?_ hpodId hid⟩
    rw [hnoted, List.head?_filterMap, hfirst]

/-- A list of a template and a node is read and taken alike. Of a list that has null after a template
nothing is added, and null is told, not the number that is given later. -/
theorem builder_accepts_as_wire_of_list :
    let v : Json := .array [.string "?s", .object [("b", .null), ("a", .int 1)]]
    let hole : Json → Json := fun x => .object [("podId", .string "pod"), ("delete", x),
      ("id", .string "01ARZ3NDEKTSV4RRFFQ69G5FAV")]
    let r₀ := new "01ARZ3NDEKTSV4RRFFQ69G5FAV" "pod"
    let cs : List Call := [.entries .insert v, .entries .insert (.array [.string "?s", .null]),
      .query "q", .entries .delete (.int 1)]
    ofJson? (hole .null) = some r₀ ∧
      ofJson? (hole v) = some (r₀.withEntries .delete v.canonical) ∧
      (∃ r, ofJson? (hole v) = some r ∧
        r.delete = [.template "?s", .node [("a", .int 1), ("b", .null)]]) ∧
      (r₀.calls cs).insert.length = 2 ∧ (r₀.calls cs).delete = [] ∧
      (r₀.calls cs).fault? = some (.badEntry .null) := by
  intro v hole r₀ cs
  have hhole : Json.Hole (ChangeType.field .delete).key (ChangeType.field .delete).index hole :=
    .object [("podId", .string "pod")] [("id", .string "01ARZ3NDEKTSV4RRFFQ69G5FAV")]
  have h₀ : ofJson? (hole .null) = some r₀ := rfl
  obtain ⟨hiff, hsame⟩ := builder_accepts_as_wire.1 .delete hole hhole r₀ h₀ v Json.noConfusion
  obtain ⟨r, hr, hdelete⟩ := (hiff "" "" _).mpr ⟨rfl, rfl⟩
  refine ⟨h₀, hsame r hr ▸ hr, ⟨r, hr, hdelete⟩, rfl, rfl, ?_⟩
  obtain ⟨-, hfirst⟩ := builder_accepts_as_wire.2.2 r₀ rfl cs
  exact hfirst _ rfl (by decide) (by decide)

end Request

end GraphLedger
