import GraphLedger.Proofs.Stage.Entries

/-! # The order of entries does not matter

A request with its entries in another order brings the same drafts, or fails as the other does. What
two runs leave in their buffers are the statements of these drafts, under names that each run mints
from its own supply. So the buffers hold the same deletions and the same insertions up to one
permutation of IRIs. It moves minted IRIs only, if no IRI of the input is one of them. These are the
IRIs that are in the buffer whatever the supply, as nothing that is minted is.

* `statements_add_openAt`: what is in a buffer to which records were added.
* `materialized_of_brings`: what a run leaves if certain items are brought.
* `not_minted_of_mem_inputIris`: the input has no minted IRIs if two runs mint different ones.
* `entry_order_irrelevant`: two runs with the entries in different orders. -/

namespace GraphLedger

open JsonLd

/-! ### Buffers as sets -/

/-- The statements that a buffer holds with a type. -/
def Buffer.statements (b : Buffer) (t : ChangeType) : Set Statement :=
  {st | ∃ x ∈ b.contents, x.changeType = t ∧ x.statement = st}

/-- **What was added** to an empty buffer is what it holds, time and place apart. -/
theorem Buffer.statements_add_openAt (r : Request) (time : Instant) (rs : List Record)
    (t : ChangeType) : ((openAt r time).add rs).statements t =
      {st | ∃ x ∈ rs, x.changeType = t ∧ x.statement = st} := by
  have hvalid := (valid_openAt r time).add rs
  have hholds := (valid_openAt r time).holds_add rs
  ext st
  constructor
  · rintro ⟨x, hx, rfl, rfl⟩
    have hx := hvalid.holds_iff.mpr ⟨x, hx, x.same_refl⟩
    rcases (hholds x).mp hx with hempty | ⟨y, hy, hsame⟩
    · obtain ⟨z, hz, -⟩ := (valid_openAt r time).holds_iff.mp hempty
      cases hz
    · obtain ⟨-, ht, hst⟩ := Record.same_iff.mp hsame
      exact ⟨y, hy, ht, hst⟩
  · rintro ⟨y, hy, rfl, rfl⟩
    have hy := (hholds y).mpr (Or.inr ⟨y, hy, y.same_refl⟩)
    obtain ⟨x, hx, hsame⟩ := hvalid.holds_iff.mp hy
    obtain ⟨-, ht, hst⟩ := Record.same_iff.mp hsame
    exact ⟨x, hx, ht, hst⟩

/-- The IRIs of the nodes and of the graph of a statement. -/
def Statement.nodeIris (st : Statement) : List String :=
  st.subject :: st.graph :: match st.object with
    | .iri iri => [iri]
    | .literal _ => []

theorem JsonLd.Draft.mem_nodeIris {d : Draft} {iri : String} (h : iri ∈ d.givenIris)
    (α : Blank → String) : iri ∈ (d.statement α).nodeIris := by
  obtain ⟨id, hid, hiri⟩ := List.mem_filterMap.mp h
  cases id with
  | blank b => cases hiri
  | given iri' =>
    cases hiri
    have hnodes : (d.statement α).nodeIris = d.idents.map (Ident.iri α) := by
      unfold Statement.nodeIris Draft.idents Draft.statement
      cases d.object <;> rfl
    rw [hnodes]
    exact List.mem_map_of_mem (f := Ident.iri α) hid

namespace Materialize

/-! ### Runs from an empty buffer -/

section Runs
variable (engine : QueryEngine) (loaders : List Loader) (limits : Limits) (r : Request)
  (time : Instant)

/-- What comes of materializing a request into an empty buffer with a supply. -/
def materialized (next : Nat) : Except Failure Unit × Workspace :=
  (stage engine loaders limits).run.run ⟨.openAt r time, [], next⟩

/-- The statements that are left in the buffer with a type. -/
def left (next : Nat) (t : ChangeType) : Set Statement :=
  (materialized engine loaders limits r time next).2.buffer.statements t

/-- The IRIs that are minted. -/
def mintedBy (next : Nat) : Set String :=
  mintedIn next (materialized engine loaders limits r time next).2.supply

/-- The IRIs of the input that are left in the buffer: those that are there whatever the supply. -/
def inputIris : Set String :=
  {iri | ∀ next, ∃ t, ∃ st ∈ left engine loaders limits r time next t, iri ∈ st.nodeIris}

end Runs

section Brings
variable {engine : QueryEngine} {loaders : List Loader} {limits : Limits} {r r' : Request}

theorem brings_stage {low i j k : Nat} {p q e : Plan}
    (hp : Brings low r 0 i (addReferences loaders limits .delete r.deleteFromRefs) p)
    (hq : Brings low r i j (addReferences loaders limits .insert r.insertFromRefs) q)
    (he : Brings low r j k (addEntries engine limits) e) (hij : i ≤ j) (hjk : j ≤ k) :
    Brings low r 0 k (stage engine loaders limits) (do
      let xs ← p
      let ys ← (do let ys ← q; let zs ← e; return ys ++ zs)
      return xs ++ ys) := by
  have hrest := Brings.bind (f := fun _ => addEntries engine limits) hq he hjk
  refine (Brings.bind (f := fun _ => _) hp hrest (hij.trans hjk)).of_run fun w hw => ⟨w.asked, ?_⟩
  rw [← hw]
  rfl

/-- **What a request brings** in one order of its entries it brings in another. -/
theorem exists_brings_stage (engine : QueryEngine) (limits : Limits) (h : r.Reorders r')
    (hl : r.hasRefs → ∀ l ∈ loaders, l.Drafted) : ∃ k plan plan', Reordered plan plan' ∧ ∀ low,
      Brings low r 0 k (stage engine loaders limits) plan ∧
        Brings low r' 0 k (stage engine loaders limits) plan' := by
  have hdeletes : r.deleteFromRefs ≠ [] → ∀ l ∈ loaders, l.Drafted := fun hne =>
    hl (by simp [Request.hasRefs, hne])
  have hinserts : r.insertFromRefs ≠ [] → ∀ l ∈ loaders, l.Drafted := fun hne =>
    hl (by simp [Request.hasRefs, hne])
  obtain ⟨p, hp⟩ := exists_brings_addReferences loaders limits .delete _ hdeletes 0
  obtain ⟨q, hq⟩ := exists_brings_addReferences loaders limits .insert _ hinserts
    (0 + r.deleteFromRefs.length)
  obtain ⟨e, e', hsame, he⟩ := exists_brings_addEntries engine limits h
    (0 + r.deleteFromRefs.length + r.insertFromRefs.length)
  have hrefs : r'.deleteFromRefs = r.deleteFromRefs ∧ r'.insertFromRefs = r.insertFromRefs := by
    rw [h.same]
    exact ⟨rfl, rfl⟩
  have hle := Nat.le_add_right (0 + r.deleteFromRefs.length) r.insertFromRefs.length
  exact ⟨_, _, _, (hsame.append q).append p, fun low =>
    ⟨brings_stage (hp low r) (hq low r) (he low).1 hle (Nat.le_succ _),
      brings_stage (by rw [hrefs.1]; exact hp low r') (by rw [hrefs.2]; exact hq low r') (he low).2
        hle (Nat.le_succ _)⟩⟩

/-- **What a run leaves** if certain items are brought: their statements, under names that it
mints. -/
theorem materialized_of_brings {k : Nat} {items : List Item}
    (h : ∀ low, Brings low r 0 k (stage engine loaders limits) (.ok items)) (time : Instant)
    (next : Nat) : (materialized engine loaders limits r time next).1 = .ok () ∧
      ∃ names : Minting Scoped next,
        (∀ x ∈ items, ∀ b ∈ x.draft.blanks,
          names.iri (x.scope, b) ∈ mintedBy engine loaders limits r time next) ∧
        ∀ t, left engine loaders limits r time next t =
          {st | ∃ x ∈ items, x.type = t ∧ x.statement names.iri = st} := by
  obtain ⟨N, -, -, hwithin, hok, hnumbered, hbuffer⟩ :=
    h next (fun _ => none) ⟨.openAt r time, [], next⟩ rfl (within_none next) fun _ _ => rfl
  obtain ⟨names, hnames⟩ := hwithin.exists_minting
  refine ⟨hok, names, fun x hx b hb => ?_, fun t => ?_⟩
  · obtain ⟨n, hn⟩ := hnumbered x hx b hb
    exact hwithin.name_mem hnames hn
  · have hleft := hbuffer names.iri (Minting.agrees hnames) fun x => ⟨names.number x, rfl⟩
    unfold left materialized
    rw [hleft, Buffer.statements_add_openAt]
    ext st
    constructor
    · rintro ⟨x, hx, ht, hst⟩
      obtain ⟨item, hitem, rfl⟩ := List.mem_map.mp hx
      exact ⟨item, hitem, ht, hst⟩
    · rintro ⟨item, hitem, ht, hst⟩
      exact ⟨_, List.mem_map_of_mem hitem, ht, hst⟩

/-- **What a run fails to leave**: if nothing is brought, every run fails. -/
theorem materialized_of_brings_error {k : Nat} {e : Failure}
    (h : ∀ low, Brings low r 0 k (stage engine loaders limits) (.error e)) (time : Instant)
    (next : Nat) : (materialized engine loaders limits r time next).1 ≠ .ok () := by
  obtain ⟨N, -, -, -, hfails⟩ :=
    h next (fun _ => none) ⟨.openAt r time, [], next⟩ rfl (within_none next) fun _ _ => rfl
  have hfails : (materialized engine loaders limits r time next).1 = .error e := hfails
  rw [hfails]
  exact fun h => by cases h

theorem mem_inputIris {k : Nat} {items : List Item}
    (h : ∀ low, Brings low r 0 k (stage engine loaders limits) (.ok items)) (time : Instant)
    {x : Item} (hx : x ∈ items) {iri : String} (hiri : iri ∈ x.draft.givenIris) :
    iri ∈ inputIris engine loaders limits r time := by
  intro next
  obtain ⟨-, names, -, hleft⟩ := materialized_of_brings h time next
  refine ⟨x.type, x.statement names.iri, ?_, Draft.mem_nodeIris hiri _⟩
  rw [hleft]
  exact ⟨x, hx, rfl, rfl⟩

end Brings

section Minted
variable {engine : QueryEngine} {loaders : List Loader} {limits : Limits} {r : Request}
  {time : Instant} {next next' : Nat} {ns ns' : List Nat}

/-- Whether the IRIs that a run leaves are minted ones with certain numbers, or begin otherwise. -/
def MintsAmong (engine : QueryEngine) (loaders : List Loader) (limits : Limits) (r : Request)
    (time : Instant) (next : Nat) (ns : List Nat) : Prop :=
  ∀ x ∈ (materialized engine loaders limits r time next).2.buffer.contents,
    ∀ iri ∈ x.statement.nodeIris,
      iri ∈ ns.map Skolem.minted ∨ ¬ Vocabulary.skolemStart.toList <+: iri.toList

instance : Decidable (MintsAmong engine loaders limits r time next ns) := by
  unfold MintsAmong; infer_instance

theorem mem_map_minted (h : MintsAmong engine loaders limits r time next ns) {iri : String}
    (hiri : iri ∈ inputIris engine loaders limits r time)
    (hminted : iri ∈ Set.range Skolem.minted) : iri ∈ ns.map Skolem.minted := by
  obtain ⟨t, st, ⟨x, hx, -, rfl⟩, hst⟩ := hiri next
  exact (h x hx iri hst).resolve_right fun hbegin => Skolem.not_minted hbegin hminted

/-- **The input has no minted IRIs** if two runs mint with different numbers. -/
theorem not_minted_of_mem_inputIris (h : MintsAmong engine loaders limits r time next ns)
    (h' : MintsAmong engine loaders limits r time next' ns') (hdisjoint : ∀ n ∈ ns, n ∉ ns')
    {iri : String} (hiri : iri ∈ inputIris engine loaders limits r time) :
    iri ∉ Set.range Skolem.minted := by
  intro hminted
  obtain ⟨n, hn, rfl⟩ := List.mem_map.mp (mem_map_minted h hiri hminted)
  obtain ⟨n', hn', hsame⟩ := List.mem_map.mp (mem_map_minted h' hiri hminted)
  obtain rfl := Skolem.minted_injective hsame
  exact hdisjoint n' hn hn'

end Minted

/-- **The order of entries does not matter.** If the entries to insert and those to delete are put
in other orders, materializing succeeds as before or fails as before, whatever the query is
answered, whatever the limits are and whatever the supplies of the two runs. And if it succeeds, the
buffers hold the same deletions and the same insertions up to one permutation of IRIs that moves
only what is minted in the runs, if no IRI of the input is among that. -/
theorem entry_order_irrelevant (engine : QueryEngine) (loaders : List Loader) (limits : Limits)
    {r r' : Request} (h : r.Reorders r') (hl : r.hasRefs → ∀ l ∈ loaders, l.Drafted)
    (time time' : Instant) (next next' : Nat) :
    ((materialized engine loaders limits r time next).1 = .ok () ↔
      (materialized engine loaders limits r' time' next').1 = .ok ()) ∧
    ((materialized engine loaders limits r time next).1 = .ok () →
      (∀ iri ∈ inputIris engine loaders limits r time,
        iri ∉ mintedBy engine loaders limits r time next ∪
          mintedBy engine loaders limits r' time' next') →
      ∃ π : Equiv.Perm String,
        (∀ iri, π iri ≠ iri → iri ∈ mintedBy engine loaders limits r time next ∪
          mintedBy engine loaders limits r' time' next') ∧
        ∀ t, left engine loaders limits r' time' next' t =
          Statement.renameNodes π '' left engine loaders limits r time next t) := by
  obtain ⟨k, plan, plan', hreordered, hplan⟩ := exists_brings_stage engine limits h hl
  have hbrings := fun low => (hplan low).1
  have hbrings' := fun low => (hplan low).2
  cases plan with
  | error f =>
    cases plan' with
    | ok items' => exact hreordered.elim
    | error f' =>
      have hfail := materialized_of_brings_error hbrings time next
      have hfail' := materialized_of_brings_error hbrings' time' next'
      exact ⟨iff_of_false hfail hfail', fun hok => absurd hok hfail⟩
  | ok items =>
    cases plan' with
    | error f' => exact hreordered.elim
    | ok items' =>
      have hmem : ∀ x, x ∈ items' ↔ x ∈ items := fun x => (List.Perm.mem_iff hreordered).symm
      obtain ⟨hok, names, hminted, hleft⟩ := materialized_of_brings hbrings time next
      obtain ⟨hok', names', hminted', hleft'⟩ := materialized_of_brings hbrings' time' next'
      refine ⟨iff_of_true hok hok', fun _ hinput => ?_⟩
      let keyed : Item → (Blank → Scoped) × Draft := fun x => (fun b => (x.scope, b), x.draft)
      have hblank : ∀ q ∈ items.map keyed, ∀ b ∈ q.2.blanks,
          names.iri (q.1 b) ∈ mintedBy engine loaders limits r time next ∪
              mintedBy engine loaders limits r' time' next' ∧
            names'.iri (q.1 b) ∈ mintedBy engine loaders limits r time next ∪
              mintedBy engine loaders limits r' time' next' := fun q hq b hb => by
        obtain ⟨x, hx, rfl⟩ := List.mem_map.mp hq
        exact ⟨Or.inl (hminted x hx b hb), Or.inr (hminted' x ((hmem x).mpr hx) b hb)⟩
      obtain ⟨π, hmoved, hπ⟩ := exists_renaming names.iri_injective names'.iri_injective _ hblank
        fun q hq iri hiri => by
          obtain ⟨x, hx, rfl⟩ := List.mem_map.mp hq
          exact hinput iri (mem_inputIris hbrings time hx hiri)
      have hrenamed : ∀ x ∈ items, x.statement names'.iri =
          (x.statement names.iri).renameNodes π := fun x hx =>
        hπ (keyed x) (List.mem_map_of_mem hx)
      refine ⟨π, hmoved, fun t => ?_⟩
      rw [hleft', hleft]
      ext st
      constructor
      · rintro ⟨x, hx, ht, rfl⟩
        have hx := (hmem x).mp hx
        exact ⟨_, ⟨x, hx, ht, rfl⟩, (hrenamed x hx).symm⟩
      · rintro ⟨_, ⟨x, hx, ht, rfl⟩, rfl⟩
        exact ⟨x, (hmem x).mpr hx, ht, hrenamed x hx⟩

/-- A request with labels in its entries, which inserts what its query finds as well. -/
def sharing : Request :=
  { Request.new "01ARZ3NDEKTSV4RRFFQ69G5FAV" "pod" with
    query := some "people"
    insert := [.template "*", .node [("@id", .string "_:a"), ("urn:age", .int 1)]]
    delete := [.node [("@id", .string "_:a"), ("urn:age", .int 0)],
      .node [("@id", .string "_:b"), ("urn:age", .int 1)]] }

/-- The request with its entries in the reverse order, so that the other label is named first. -/
def reversed : Request :=
  { sharing with insert := sharing.insert.reverse, delete := sharing.delete.reverse }

/-- An engine that finds one person. -/
def finding : QueryEngine := fun _ =>
  .ok ⟨some (.array [.object [("@id", .string "urn:d"), ("urn:name", .string "D")]]), []⟩

/-- The loaders of a program without documents. -/
def noDocuments : List Loader := [.memory [], .file none fun _ => none]

/-- The request can be processed, and no IRI in it is minted. With the entries in the reverse order,
the other label is named first, and the buffer holds the same up to the names. -/
theorem entry_order_irrelevant_of_sharing :
    sharing.fault? = none ∧ sharing.Reorders reversed ∧ (∀ l ∈ noDocuments, l.Drafted) ∧
      (materialized finding noDocuments ⟨10, 1⟩ sharing default 0).1 = .ok () ∧
      (materialized finding noDocuments ⟨10, 1⟩ reversed default 7).1 = .ok () ∧
      (∀ iri ∈ inputIris finding noDocuments ⟨10, 1⟩ sharing default,
        iri ∉ mintedBy finding noDocuments ⟨10, 1⟩ sharing default 0 ∪
          mintedBy finding noDocuments ⟨10, 1⟩ reversed default 7) ∧
      ∃ π : Equiv.Perm String,
        (∀ iri, π iri ≠ iri → iri ∈ mintedBy finding noDocuments ⟨10, 1⟩ sharing default 0 ∪
          mintedBy finding noDocuments ⟨10, 1⟩ reversed default 7) ∧
        ∀ t, left finding noDocuments ⟨10, 1⟩ reversed default 7 t =
          Statement.renameNodes π '' left finding noDocuments ⟨10, 1⟩ sharing default 0 t := by
  have horder : sharing.Reorders reversed :=
    ⟨rfl, (List.reverse_perm _).symm, (List.reverse_perm _).symm⟩
  have hloaders : ∀ l ∈ noDocuments, l.Drafted := List.forall_mem_cons.mpr
    ⟨Loader.memory_drafted [], List.forall_mem_singleton.mpr (Loader.file_drafted none _)⟩
  have hok : (materialized finding noDocuments ⟨10, 1⟩ sharing default 0).1 = .ok () := by
    decide +kernel
  have hmints : MintsAmong finding noDocuments ⟨10, 1⟩ sharing default 0 [0, 1] := by
    decide +kernel
  have hmints' : MintsAmong finding noDocuments ⟨10, 1⟩ sharing default 2 [2, 3] := by
    decide +kernel
  have hinput : ∀ iri ∈ inputIris finding noDocuments ⟨10, 1⟩ sharing default,
      iri ∉ mintedBy finding noDocuments ⟨10, 1⟩ sharing default 0 ∪
        mintedBy finding noDocuments ⟨10, 1⟩ reversed default 7 := by
    intro iri hiri hminted
    refine not_minted_of_mem_inputIris hmints hmints' (by decide) hiri ?_
    rcases hminted with ⟨n, -, -, rfl⟩ | ⟨n, -, -, rfl⟩
    · exact ⟨n, rfl⟩
    · exact ⟨n, rfl⟩
  obtain ⟨hiff, hsame⟩ := entry_order_irrelevant finding noDocuments ⟨10, 1⟩ horder
    (fun _ => hloaders) default default 0 7
  exact ⟨by decide +kernel, horder, hloaders, hok, hiff.mp hok, hinput, hsame hok hinput⟩

end Materialize

end GraphLedger
