import GraphLedger.Proofs.Json.Canonical
import GraphLedger.Proofs.Json.Decode
import GraphLedger.Request.Wire

/-! # Requests read back

A request that was read from JSON is written in one form only, whichever form it was read from. In
this form its context and its nodes are canonical, and the kinds of its assertions are those of
their names; and a request of which this is so is read back as it is. Reading is taken apart field by
field, so that what a list may be written as can be said of each of the five lists alike.

* `Request.ofParts?_eq_some_iff`: what a request has from its fields.
* `Request.Plain`: a request that is read back; `Request.plain_of_ofJson?`.
* `ListField`: the fields that hold lists; `Request.ofJson?_hole`.
* `Request.read_back`: reading what was written, and the short forms of lists. -/

namespace GraphLedger

/-! ### Parts of a request -/

theorem AssertionKind.ofName_name (s : String) : ofName (ofName s).name = ofName s := by
  by_cases hempty : s = "AssertEmptyResult"
  · rw [hempty]; rfl
  · by_cases hnonempty : s = "AssertNonEmptyResult"
    · rw [hnonempty]; rfl
    · have hs : ofName s = .unrecognized s := by rw [ofName, if_neg hempty, if_neg hnonempty]
      rw [hs]
      exact hs

/-- Whether an assertion is read back: its kind is that of its name. -/
def Assertion.Plain (a : Assertion) : Prop := AssertionKind.ofName a.kind.name = a.kind

/-- Whether an entry is read back: if it is a node, it is canonical. -/
def Entry.Plain : Entry → Prop
  | .template _ => True
  | .node fs => (Json.object fs).canonical = .object fs

theorem Assertion.ofJson?_toJson {a : Assertion} (h : a.Plain) : ofJson? a.toJson = some a := by
  show some (⟨.ofName a.kind.name, a.query⟩ : Assertion) = some a
  rw [h]

theorem Entry.ofJson?_toJson {e : Entry} (h : e.Plain) : ofJson? e.toJson = some e := by
  cases e with
  | template t => rfl
  | node fs =>
    rw [toJson, ofJson?, h]

theorem Reference.ofJson?_toJson (r : Reference) : ofJson? r.toJson = some r := by
  obtain ⟨uri, format⟩ := r
  cases format <;> rfl

theorem Assertion.plain_of_ofJson? {v : Json} {a : Assertion} (h : ofJson? v = some a) :
    a.Plain := by
  obtain ⟨vs, -, h⟩ := Option.bind_eq_some_iff.mp h
  split at h
  · obtain ⟨kind, -, h⟩ := Option.bind_eq_some_iff.mp h
    obtain ⟨query, -, h⟩ := Option.bind_eq_some_iff.mp h
    cases h
    exact AssertionKind.ofName_name kind
  · cases h

theorem Entry.plain_of_ofJson? {v : Json} {e : Entry} (h : ofJson? v = some e) : e.Plain := by
  unfold ofJson? at h
  split at h
  · cases h
    trivial
  · split at h
    · rename_i hcanonical
      cases h
      rw [Plain, ← hcanonical]
      exact Json.canonical_canonical _
    · cases h
  · cases h

/-! ### Lists of a request -/

theorem Assertion.isSingle : Json.IsSingle ofJson? := by
  refine Json.isSingle_of_text layout fun v a h => ?_
  obtain ⟨vs, hvs, h⟩ := Option.bind_eq_some_iff.mp h
  split at h
  · obtain ⟨kind, hkind, -⟩ := Option.bind_eq_some_iff.mp h
    exact ⟨_, _, hvs, kind, hkind⟩
  · cases h

theorem Reference.isSingle : Json.IsSingle ofJson? := by
  refine Json.isSingle_of_text layout fun v r h => ?_
  obtain ⟨vs, hvs, h⟩ := Option.bind_eq_some_iff.mp h
  split at h
  · obtain ⟨uri, huri, -⟩ := Option.bind_eq_some_iff.mp h
    exact ⟨_, _, hvs, uri, huri⟩
  · cases h

theorem Entry.isSingle : Json.IsSingle ofJson? := by
  intro x e h
  cases x with
  | string s => exact ⟨Json.noConfusion, rfl⟩
  | object fs => exact ⟨Json.noConfusion, rfl⟩
  | _ => cases h

/-- The fields of a request that hold lists. -/
inductive ListField where
  | assertions
  | insert
  | delete
  | insertFromRefs
  | deleteFromRefs
  deriving DecidableEq

namespace ListField

/-- The name of a field. -/
def key : ListField → String
  | .assertions => "assert"
  | .insert => "insert"
  | .delete => "delete"
  | .insertFromRefs => "insertFromRefs"
  | .deleteFromRefs => "deleteFromRefs"

/-- The place of a field among all fields of a request. -/
def index : ListField → Nat
  | .assertions => 4
  | .insert => 6
  | .delete => 7
  | .insertFromRefs => 8
  | .deleteFromRefs => 9

/-- What is in the list of a field. -/
abbrev Item : ListField → Type
  | .assertions => Assertion
  | .insert => Entry
  | .delete => Entry
  | .insertFromRefs => Reference
  | .deleteFromRefs => Reference

/-- The item that JSON writes. -/
def decode : (f : ListField) → Json → Option f.Item
  | .assertions => Assertion.ofJson?
  | .insert => Entry.ofJson?
  | .delete => Entry.ofJson?
  | .insertFromRefs => Reference.ofJson?
  | .deleteFromRefs => Reference.ofJson?

/-- The list of a field. -/
def get : (f : ListField) → Request → List f.Item
  | .assertions => Request.assertions
  | .insert => Request.insert
  | .delete => Request.delete
  | .insertFromRefs => Request.insertFromRefs
  | .deleteFromRefs => Request.deleteFromRefs

/-- A request with another list in a field. -/
def set : (f : ListField) → List f.Item → Request → Request
  | .assertions, as, r => { r with assertions := as }
  | .insert, es, r => { r with insert := es }
  | .delete, es, r => { r with delete := es }
  | .insertFromRefs, refs, r => { r with insertFromRefs := refs }
  | .deleteFromRefs, refs, r => { r with deleteFromRefs := refs }

theorem get_set_self (f : ListField) (as : List f.Item) (r : Request) :
    f.get (f.set as r) = as := by
  cases f <;> rfl

theorem get_set_of_ne {f g : ListField} (h : f ≠ g) (as : List f.Item) (r : Request) :
    g.get (f.set as r) = g.get r := by
  cases f <;> cases g <;> first | rfl | exact absurd rfl h

theorem set_get (f : ListField) (r : Request) : f.set (f.get r) r = r := by
  cases f <;> rfl

theorem set_set (f : ListField) (as bs : List f.Item) (r : Request) :
    f.set bs (f.set as r) = f.set bs r := by
  cases f <;> rfl

theorem isSingle (f : ListField) : Json.IsSingle f.decode := by
  cases f with
  | assertions => exact Assertion.isSingle
  | insert => exact Entry.isSingle
  | delete => exact Entry.isSingle
  | insertFromRefs => exact Reference.isSingle
  | deleteFromRefs => exact Reference.isSingle

theorem index_injective : Function.Injective index := by
  intro f g h
  cases f <;> cases g <;> first | rfl | cases h

theorem layout_eq (f : ListField) : ∃ fields others, fields.length = f.index ∧
    Request.layout = fields ++ [f.key] :: others ∧ ∀ names ∈ fields ++ others, f.key ∉ names := by
  refine ⟨Request.layout.take f.index, Request.layout.drop (f.index + 1), ?_⟩
  cases f <;> decide

end ListField

namespace Request

/-! ### Fields of a request -/

/-- **The fields of a request**, each read from the value in its place. -/
structure Fits (vs : List (Option Json)) (r : Request) : Prop where
  id : Json.required Json.decodeString (vs.getD 0 none) = some r.id
  context : Json.orDefault (.object []) Json.decodeAny (vs.getD 1 none) = some r.context
  podId : Json.required Json.decodeString (vs.getD 2 none) = some r.podId
  sliceId : Json.optional Json.decodeString (vs.getD 3 none) = some r.sliceId
  query : Json.optional Json.decodeString (vs.getD 5 none) = some r.query
  list : ∀ f : ListField, Json.decodeOneOrMany f.decode (vs.getD f.index none) = some (f.get r)
  rejected : r.rejected = []

/-- **A request is read** if its fields are. -/
theorem ofJson?_eq_some_iff {v : Json} {r : Request} :
    ofJson? v = some r ↔ ∃ vs, Json.fieldsOf? layout v = some vs ∧ Fits vs r := by
  obtain ⟨id, context, podId, sliceId, assertions, query, insert, delete, insertRefs, deleteRefs,
    rejected⟩ := r
  unfold ofJson?
  simp only [Option.bind_eq_bind, Option.bind_eq_some_iff]
  constructor
  · rintro ⟨vs, hvs, h⟩
    refine ⟨vs, hvs, ?_⟩
    split at h
    · simp only [Option.bind_eq_some_iff, Option.some.injEq, Request.mk.injEq] at h
      obtain ⟨_, h0, _, h1, _, h2, _, h3, _, h4, _, h5, _, h6, _, h7, _, h8, _, h9, rfl, rfl, rfl,
        rfl, rfl, rfl, rfl, rfl, rfl, rfl, rfl⟩ := h
      refine ⟨h0, h1, h2, h3, h5, fun f => ?_, rfl⟩
      cases f with
      | assertions => exact h4
      | insert => exact h6
      | delete => exact h7
      | insertFromRefs => exact h8
      | deleteFromRefs => exact h9
    · cases h
  · rintro ⟨vs, hvs, h⟩
    refine ⟨vs, hvs, ?_⟩
    have hlength := Json.length_of_fieldsOf? hvs
    match vs, hlength with
    | [_, _, _, _, _, _, _, _, _, _], _ =>
      simp only [Option.bind_eq_some_iff, Option.some.injEq, Request.mk.injEq]
      exact ⟨_, h.id, _, h.context, _, h.podId, _, h.sliceId, _, h.list .assertions, _, h.query, _,
        h.list .insert, _, h.list .delete, _, h.list .insertFromRefs, _, h.list .deleteFromRefs,
        rfl, rfl, rfl, rfl, rfl, rfl, rfl, rfl, rfl, rfl, h.rejected.symm⟩

/-! ### Reading what was written -/

/-- **A request that is read back**: what it holds is as it is read from JSON. -/
structure Plain (r : Request) : Prop where
  context : r.context.canonical = r.context
  assertions : ∀ a ∈ r.assertions, a.Plain
  insert : ∀ e ∈ r.insert, e.Plain
  delete : ∀ e ∈ r.delete, e.Plain
  rejected : r.rejected = []

/-- **What is read from JSON** is read back. -/
theorem plain_of_ofJson? {v : Json} {r : Request} (h : ofJson? v = some r) : r.Plain := by
  obtain ⟨vs, -, hfits⟩ := ofJson?_eq_some_iff.mp h
  have hitem : ∀ (f : ListField), ∀ a ∈ f.get r, ∃ x, f.decode x = some a := fun f =>
    Json.exists_of_mem_decodeOneOrMany (hfits.list f)
  refine ⟨?_, fun a ha => ?_, fun e he => ?_, fun e he => ?_, hfits.rejected⟩
  · have hcontext := hfits.context
    unfold Json.orDefault Json.decodeAny at hcontext
    split at hcontext
    · rw [← Option.some.inj hcontext]
      exact Json.canonical_canonical _
    · rw [← Option.some.inj hcontext]
      rfl
  · obtain ⟨x, hx⟩ := hitem .assertions a ha
    exact Assertion.plain_of_ofJson? hx
  · obtain ⟨x, hx⟩ := hitem .insert e he
    exact Entry.plain_of_ofJson? hx
  · obtain ⟨x, hx⟩ := hitem .delete e he
    exact Entry.plain_of_ofJson? hx

theorem fieldsOf?_toJson (r : Request) : Json.fieldsOf? layout r.toJson =
    some [some (.string r.id), some r.context, some (.string r.podId), r.sliceId.map .string,
      some (.array (r.assertions.map Assertion.toJson)), r.query.map .string,
      some (.array (r.insert.map Entry.toJson)), some (.array (r.delete.map Entry.toJson)),
      some (.array (r.insertFromRefs.map Reference.toJson)),
      some (.array (r.deleteFromRefs.map Reference.toJson))] := by
  unfold toJson
  cases r.sliceId <;> cases r.query <;> rfl

theorem optional_map_string (s : Option String) :
    Json.optional Json.decodeString (s.map .string) = some s := by
  cases s <;> rfl

/-- **A request is read back** from what is written of it. -/
theorem ofJson?_toJson {r : Request} (h : r.Plain) : ofJson? r.toJson = some r := by
  have hlist : ∀ {α : Type} {decode : Json → Option α} {encode : α → Json} {as : List α},
      (∀ a ∈ as, decode (encode a) = some a) →
      Json.decodeOneOrMany decode (some (.array (as.map encode))) = some as :=
    fun h => Json.decodeOneOrMany_list (Json.mapM_map_eq_some h)
  refine ofJson?_eq_some_iff.mpr ⟨_, r.fieldsOf?_toJson, ?_⟩
  refine ⟨rfl, congrArg some h.context, rfl, optional_map_string r.sliceId,
    optional_map_string r.query, fun f => ?_, h.rejected⟩
  cases f with
  | assertions => exact hlist fun a ha => Assertion.ofJson?_toJson (h.assertions a ha)
  | insert => exact hlist fun e he => Entry.ofJson?_toJson (h.insert e he)
  | delete => exact hlist fun e he => Entry.ofJson?_toJson (h.delete e he)
  | insertFromRefs => exact hlist fun ref _ => ref.ofJson?_toJson
  | deleteFromRefs => exact hlist fun ref _ => ref.ofJson?_toJson

/-! ### Short forms of lists -/

theorem getD_set_self {vs : List (Option Json)} {i : Nat} (h : i < vs.length) (v : Option Json) :
    (vs.set i v).getD i none = v := by
  simp [List.getD_eq_getElem?_getD, h]

/-- **A list is read from the value in its place**, and from nothing else is anything read of it. -/
theorem Fits.set {f : ListField} {vs : List (Option Json)} {x y : Option Json} {r : Request}
    (h : Fits (vs.set f.index x) r) (hlt : f.index < vs.length) {as : List f.Item}
    (hy : Json.decodeOneOrMany f.decode y = some as) : Fits (vs.set f.index y) (f.set as r) := by
  have hother : ∀ j, f.index ≠ j →
      (vs.set f.index y).getD j none = (vs.set f.index x).getD j none := fun j hj => by
    simp [List.getD_eq_getElem?_getD, hj]
  have hscalar : ∀ j ∈ [0, 1, 2, 3, 5],
      (vs.set f.index y).getD j none = (vs.set f.index x).getD j none := fun j hj =>
    hother j fun heq => by
      subst heq
      cases f <;> revert hj <;> decide
  have hkept : (f.set as r).id = r.id ∧ (f.set as r).context = r.context ∧
      (f.set as r).podId = r.podId ∧ (f.set as r).sliceId = r.sliceId ∧
      (f.set as r).query = r.query ∧ (f.set as r).rejected = r.rejected := by
    cases f <;> exact ⟨rfl, rfl, rfl, rfl, rfl, rfl⟩
  obtain ⟨hid, hcontext, hpodId, hsliceId, hquery, hrejected⟩ := hkept
  refine ⟨?_, ?_, ?_, ?_, ?_, fun g => ?_, hrejected.trans h.rejected⟩
  · rw [hscalar 0 (by decide), hid]
    exact h.id
  · rw [hscalar 1 (by decide), hcontext]
    exact h.context
  · rw [hscalar 2 (by decide), hpodId]
    exact h.podId
  · rw [hscalar 3 (by decide), hsliceId]
    exact h.sliceId
  · rw [hscalar 5 (by decide), hquery]
    exact h.query
  · by_cases hg : f = g
    · subst hg
      rw [getD_set_self hlt, f.get_set_self, hy]
    · rw [hother g.index fun heq => hg (ListField.index_injective heq),
        ListField.get_set_of_ne hg]
      exact h.list g

section Hole
variable {f : ListField} {hole : Json → Json} (hhole : Json.Hole f.key f.index hole)
include hhole

/-- **A request that is open at a list** is read if what is in the list is, and the others of its
fields are, which does not depend on the list. -/
theorem ofJson?_hole {x : Json} {r : Request} (h : ofJson? (hole x) = some r) :
    Json.decodeOneOrMany f.decode (some x) = some (f.get r) ∧
      ∀ y as, Json.decodeOneOrMany f.decode (some y) = some as →
        ofJson? (hole y) = some (f.set as r) := by
  obtain ⟨fields, others, hlength, hlayout, hkey⟩ := f.layout_eq
  rw [← hlength] at hhole
  obtain ⟨vs, hvs, hfits⟩ := ofJson?_eq_some_iff.mp h
  rw [hlayout, Json.fieldsOf?_hole hkey hhole x x] at hvs
  obtain ⟨ws, hws, rfl⟩ := Option.map_eq_some_iff.mp hvs
  have hlt : f.index < ws.length := by
    rw [Json.length_of_fieldsOf? hws, List.length_append, List.length_cons, ← hlength]
    omega
  rw [hlength] at hfits
  have hlist := hfits.list f
  rw [getD_set_self hlt] at hlist
  refine ⟨hlist, fun y as hy => ofJson?_eq_some_iff.mpr
    ⟨ws.set f.index (some y), ?_, hfits.set hlt hy⟩⟩
  rw [hlayout, Json.fieldsOf?_hole hkey hhole y x, hws, ← hlength]
  rfl

/-- **What is read of a request that is open at a list** is what is read of it if the list is left
open, with the list that is read. -/
theorem ofJson?_hole_iff {r₀ : Request} (h₀ : ofJson? (hole .null) = some r₀) {x : Json}
    {r : Request} : ofJson? (hole x) = some r ↔
      ∃ as, Json.decodeOneOrMany f.decode (some x) = some as ∧ r = f.set as r₀ := by
  constructor
  · intro h
    obtain ⟨hlist, hother⟩ := ofJson?_hole hhole h
    obtain rfl : r₀ = f.set [] r := Option.some.inj (h₀.symm.trans (hother .null [] rfl))
    exact ⟨_, hlist, by rw [f.set_set, f.set_get]⟩
  · rintro ⟨as, has, rfl⟩
    exact (ofJson?_hole hhole h₀).2 x as has

/-- **What a list is written as** does not matter if the same list is read from it. -/
theorem ofJson?_congr {x y : Json} {as : List f.Item}
    (hx : Json.decodeOneOrMany f.decode (some x) = some as)
    (hy : Json.decodeOneOrMany f.decode (some y) = some as) {r : Request}
    (h : ofJson? (hole x) = some r) : ofJson? (hole y) = some r ∧ f.get r = as := by
  obtain ⟨hlist, hother⟩ := ofJson?_hole hhole h
  obtain rfl : f.get r = as := Option.some.inj (hlist.symm.trans hx)
  have hread := hother y _ hy
  rw [f.set_get] at hread
  exact ⟨hread, rfl⟩

end Hole

/-- **Requests are read back.** A request that is read from JSON, in whatever form it is written, is
the one that is read from what is written of it. And in each of the fields that hold lists, in the
form of an object as in that of an array, an item may be written in place of the list of it: the
same request is read, in which the list has that item only, or none is read for either. -/
theorem read_back :
    (∀ v r, ofJson? v = some r → ofJson? r.toJson = some r) ∧
    ∀ (f : ListField) (hole : Json → Json), Json.Hole f.key f.index hole →
      ∀ x a, f.decode x = some a →
        ofJson? (hole x) = ofJson? (hole (.array [x])) ∧
          ∀ r, ofJson? (hole x) = some r → f.get r = [a] := by
  refine ⟨fun v r h => ofJson?_toJson (plain_of_ofJson? h), fun f hole hhole x a hx => ?_⟩
  have hitem : Json.decodeOneOrMany f.decode (some x) = some [a] :=
    Json.decodeOneOrMany_item f.isSingle hx
  have hlist : Json.decodeOneOrMany f.decode (some (.array [x])) = some [a] :=
    Json.decodeOneOrMany_list (by rw [List.mapM_cons, hx]; rfl)
  refine ⟨Option.ext fun r => ⟨fun h => ?_, fun h => ?_⟩, fun r h => ?_⟩
  · exact (ofJson?_congr hhole hitem hlist h).1
  · exact (ofJson?_congr hhole hlist hitem h).1
  · exact (ofJson?_congr hhole hitem hlist h).2

/-- A request in a short form, with an assertion in the form of an array for the list of it, and the
context under its other name. -/
theorem read_back_of_short :
    let assertion : Json := .array [.string "AssertEmptyResult", .string "\x7b id \x7d"]
    let short : Json → Json := fun x => .object [("podId", .string "pod"), ("assert", x),
      ("context", .object [("b", .null), ("a", .int 1)]), ("id", .string "1"),
      ("insert", .object [("urn:p", .null), ("@id", .string "urn:s")]), ("delete", .null)]
    let r : Request := ⟨"1", .object [("a", .int 1), ("b", .null)], "pod", none,
      [⟨.emptyResult, "\x7b id \x7d"⟩], none,
      [.node [("@id", .string "urn:s"), ("urn:p", .null)]], [], [], [], []⟩
    ofJson? (short assertion) = some r ∧ ofJson? r.toJson = some r ∧
      ofJson? (short (.array [assertion])) = some r := by
  intro assertion short r
  have h : ofJson? (short assertion) = some r := rfl
  have hhole : Json.Hole (ListField.key .assertions) (ListField.index .assertions) short :=
    .object [("podId", .string "pod")] [("context", .object [("b", .null), ("a", .int 1)]),
      ("id", .string "1"), ("insert", .object [("urn:p", .null), ("@id", .string "urn:s")]),
      ("delete", .null)]
  obtain ⟨hsame, -⟩ := read_back.2 .assertions short hhole assertion _ rfl
  exact ⟨h, read_back.1 _ r h, hsame ▸ h⟩

end Request

end GraphLedger
