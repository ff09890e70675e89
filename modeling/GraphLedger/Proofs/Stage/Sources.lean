import GraphLedger.Proofs.Buffer.Firsts
import GraphLedger.Proofs.JsonLd.Naming
import GraphLedger.Proofs.Stage.Prepared

/-! # What is materialized, in order

The statements that a request wants deleted and inserted come from its references or from its
entries. A reference has the statements that its loader gives; an entry stands for nodes, and these
for statements. References are loaded in turn from one supply of names, and nodes are translated in
turn with labels that they share, deletions before insertions. A request with both references and
entries would have its deletions behind some insertions; the validation of requests rules it out. So
after a run that starts with an empty buffer, the buffer holds the first of each statement in the
order of the request, and all that is deleted before all that is inserted.

* `InTurn`: parts that are made one after the other, such as the statements of references.
* `StandsFor`: the nodes that an entry stands for.
* `Sources`: the statements that a request wants deleted and inserted.
* `inTurn_of_addReferences`, `inTurn_of_ofNodes`: what a run makes of references and entries.
* `materialized_in_order`: what a run leaves in an empty buffer. -/

namespace GraphLedger

open JsonLd

namespace Materialize

/-! ### The statements of a request -/

/-- **Parts made in turn**: each from the state that the one before it leaves, and all of them put
one after the other. -/
inductive InTurn {α β σ : Type} (makes : α → σ → List β → σ → Prop) :
    List α → σ → List β → σ → Prop
  | nil (s : σ) : InTurn makes [] s [] s
  | cons {a : α} {as : List α} {bs rest : List β} {s s₁ s' : σ} :
      makes a s bs s₁ → InTurn makes as s₁ rest s' → InTurn makes (a :: as) s (bs ++ rest) s'

/-- A reference has certain statements, which are loaded without a failure. -/
def Holds (loaders : List Loader) (ref : Reference) (next : Nat) (sts : List Statement)
    (next' : Nat) : Prop :=
  loadReference loaders ref next = (.ok (StatementStream.ofList sts), next')

/-- **The nodes that an entry stands for**, given the answer to the query of its request: itself if
it is a node, all nodes in the answer if it is the wildcard, and else those of its template. -/
inductive StandsFor : Option Json → Entry → List Json.Fields → Prop
  | node (answer : Option Json) (fs : Json.Fields) : StandsFor answer (.node fs) [fs]
  | wildcard {text : String} (data : Json) : (Entry.template text).isWildcard = true →
      StandsFor (some data) (.template text) (collectNodes data)
  | template {text : String} {data : Json} {nodes : List Json.Fields} :
      (Entry.template text).isWildcard = false → Template.nodes text data = .ok nodes →
      StandsFor (some data) (.template text) nodes

/-- An entry has the statements of the nodes that it stands for. -/
def Means (c : Context) (answer : Option Json) (e : Entry) (s : Skolem) (sts : List Statement)
    (s' : Skolem) : Prop :=
  ∃ nodes, StandsFor answer e nodes ∧ Gives (ofNodes c nodes) s sts s'

/-- **The statements that a request wants deleted and inserted**: those of its references, or those
of its entries, in their order. -/
inductive Sources (engine : QueryEngine) (loaders : List Loader) (r : Request) (next : Nat) :
    List Statement → List Statement → Prop
  | references {deletes inserts : List Statement} {mid last : Nat} :
      r.hasEntries = false →
      InTurn (Holds loaders) r.deleteFromRefs next deletes mid →
      InTurn (Holds loaders) r.insertFromRefs mid inserts last →
      Sources engine loaders r next deletes inserts
  | entries {deletes inserts : List Statement} {data : Option Json} {c : Context}
      {s s' : Skolem} :
      r.hasRefs = false → answer engine r = .ok data → Context.parse r.context = .ok c →
      InTurn (Means c data) r.delete (.start next) deletes s →
      InTurn (Means c data) r.insert s inserts s' →
      Sources engine loaders r next deletes inserts

/-- **No request that can be processed** has both references and entries. -/
theorem one_source_of_valid {r : Request} (h : r.fault? = none) :
    r.hasEntries = false ∨ r.hasRefs = false := by
  by_contra hboth
  rw [not_or, Bool.not_eq_false, Bool.not_eq_false] at hboth
  unfold Request.fault? at h
  rw [hboth.1, hboth.2] at h
  split at h
  · cases h
  split at h
  · cases h
  split at h
  · cases h
  split at h
  · cases h
  · simp at h

/-- **A request that can be processed** has a query if it has templates. -/
theorem query_of_valid {r : Request} (h : r.fault? = none) :
    (r.hasTemplates && r.query.isNone) = false := by
  by_contra hmissing
  rw [Bool.not_eq_false] at hmissing
  unfold Request.fault? at h
  rw [hmissing] at h
  split at h
  · cases h
  split at h
  · cases h
  split at h
  · cases h
  split at h
  · cases h
  split at h
  · cases h
  split at h <;> cases h

end Materialize

/-! ### Runs of steps -/

namespace Step
variable {α β : Type} {w w' : Workspace}

/-- **Steps in a row** that give a result give one each. -/
theorem run_bind_eq_ok {s : Step α} {f : α → Step β} {b : β}
    (h : (s >>= f).run.run w = (.ok b, w')) :
    ∃ a w₁, s.run.run w = (.ok a, w₁) ∧ (f a).run.run w₁ = (.ok b, w') := by
  rw [run_bind] at h
  split at h
  · exact ⟨_, _, ‹_›, h⟩
  · cases h

theorem run_request_eq_ok {r : Request} (h : request.run.run w = (.ok r, w')) :
    w.buffer.request = r ∧ w = w' := by
  cases h
  exact ⟨rfl, rfl⟩

end Step

namespace Materialize

/-- The workspace with the records of statements added, and with another supply. -/
def withStatements (w : Workspace) (t : ChangeType) (sts : List Statement) (next : Nat) :
    Workspace :=
  { w with buffer := w.buffer.add (sts.map (w.buffer.record t)), supply := next }

section Runs
variable {loaders : List Loader} {limits : Limits} {t : ChangeType} {w w' : Workspace}

theorem withStatements_of_adds {s : Step Unit} {batches : List StatementStream}
    (hs : Adds s (admitted Statement.invalid? t batches)) (hrun : s.run.run w = (.ok (), w')) :
    ∃ sts, batches.flatten = StatementStream.ofList sts ∧ w' = withStatements w t sts w.supply := by
  cases hadmitted : admitted Statement.invalid? t batches with
  | error f =>
    rw [hadmitted] at hs
    obtain ⟨b, hfail⟩ := hs w
    rw [hfail] at hrun
    cases hrun
  | ok qs =>
    obtain ⟨sts, hstream, -, rfl⟩ := admitted_eq_ok_iff.mp hadmitted
    refine ⟨sts, hstream, ?_⟩
    rw [hadmitted] at hs
    cases (hs w).symm.trans hrun
    rw [List.map_map, withStatements]
    rfl

theorem withStatements_of_addStatements {sts : List Statement}
    (hrun : (addStatements t sts).run.run w = (.ok (), w')) :
    w' = withStatements w t sts w.supply := by
  rw [Step.run_addStatements] at hrun
  split at hrun
  · cases hrun
    rfl
  · cases hrun

/-! ### References -/

/-- **A reference** that is added without a failure adds the statements that it has. -/
theorem holds_of_addReference {ref : Reference}
    (hrun : (addReference loaders limits t ref).run.run w = (.ok (), w')) :
    ∃ sts, Holds loaders ref w.supply sts w'.supply ∧ w' = withStatements w t sts w'.supply := by
  unfold addReference at hrun
  obtain ⟨stream, w₁, hload, hadd⟩ := Step.run_bind_eq_ok hrun
  rw [Step.run_drawing] at hload
  obtain ⟨sts, hstream, rfl⟩ :=
    withStatements_of_adds (adds_addBatches t (chunks limits.batchSize stream.length stream)) hadd
  rw [flatten_chunks _ _ _ (Nat.le_refl _)] at hstream
  obtain ⟨hok, rfl⟩ := Prod.mk.inj hload
  refine ⟨sts, Prod.ext ?_ rfl, rfl⟩
  rw [hok, hstream]

theorem withStatements_withStatements (sts rest : List Statement) (next next' : Nat) :
    withStatements (withStatements w t sts next) t rest next' =
      withStatements w t (sts ++ rest) next' := by
  unfold withStatements
  rw [Buffer.record_add, List.map_append, Buffer.add_append]

/-- **References** add the statements that they have, one after the other. -/
theorem inTurn_of_addReferences {refs : List Reference}
    (hrun : (addReferences loaders limits t refs).run.run w = (.ok (), w')) :
    ∃ sts, InTurn (Holds loaders) refs w.supply sts w'.supply ∧
      w' = withStatements w t sts w'.supply := by
  induction refs generalizing w with
  | nil =>
    cases hrun
    exact ⟨[], .nil _, rfl⟩
  | cons ref refs ih =>
    unfold addReferences at hrun
    obtain ⟨⟨⟩, w₁, hfirst, hrest⟩ := Step.run_bind_eq_ok hrun
    obtain ⟨sts, hholds, hw₁⟩ := holds_of_addReference hfirst
    obtain ⟨rest, hturn, hw'⟩ := ih hrest
    refine ⟨sts ++ rest, .cons hholds hturn, ?_⟩
    rw [hw₁, withStatements_withStatements] at hw'
    exact hw'

end Runs

/-! ### Entries -/

section Entries
variable {c : Context} {answer : Option Json} {s s' : Skolem}

theorem standsFor_of_expandEntry {e : Entry} {x : Expanded} (h : expandEntry answer e = .ok x) :
    StandsFor answer e x.nodes := by
  cases e with
  | node fs =>
    cases h
    exact .node answer fs
  | template text =>
    unfold expandEntry templateNodes at h
    cases answer with
    | none => cases h
    | some data =>
      dsimp only at h
      split at h
      · rename_i hwildcard
        cases h
        exact .wildcard data hwildcard
      · rename_i hwildcard
        cases hnodes : Template.nodes text data with
        | error e =>
          rw [hnodes] at h
          cases h
        | ok nodes =>
          rw [hnodes] at h
          cases h
          exact .template (by simpa using hwildcard) hnodes

theorem gives_ofNodes_append {xs ys : List Json.Fields} {sts : List Statement}
    (h : Gives (ofNodes c (xs ++ ys)) s sts s') :
    ∃ first s₁ rest, Gives (ofNodes c xs) s first s₁ ∧ Gives (ofNodes c ys) s₁ rest s' ∧
      sts = first ++ rest := by
  induction xs generalizing s sts with
  | nil =>
    refine ⟨[], s, sts, ?_, h, rfl⟩
    rw [ofNodes]
    exact gives_pure.mpr ⟨rfl, rfl⟩
  | cons fs xs ih =>
    rw [List.cons_append, ofNodes, gives_append] at h
    obtain ⟨node, s₁, more, hnode, hmore, rfl⟩ := h
    obtain ⟨first, s₂, rest, hfirst, hrest, rfl⟩ := ih hmore
    refine ⟨node ++ first, s₂, rest, ?_, hrest, (List.append_assoc ..).symm⟩
    rw [ofNodes, gives_append]
    exact ⟨node, s₁, first, hnode, hfirst, rfl⟩

/-- **Entries** have the statements of the nodes that they stand for, one after the other. -/
theorem inTurn_of_ofNodes {es : List Entry} {x : Expanded} {sts : List Statement}
    (hx : expand answer es = .ok x) (h : Gives (ofNodes c x.nodes) s sts s') :
    InTurn (Means c answer) es s sts s' := by
  induction es generalizing x s sts with
  | nil =>
    cases hx
    rw [ofNodes] at h
    obtain ⟨rfl, rfl⟩ := gives_pure.mp h
    exact .nil _
  | cons e es ih =>
    unfold expand at hx
    obtain ⟨first, hfirst, hx⟩ := bind_eq_ok_iff.mp hx
    obtain ⟨rest, hrest, hx⟩ := bind_eq_ok_iff.mp hx
    cases hx
    obtain ⟨sts, s₁, more, hsts, hmore, rfl⟩ := gives_ofNodes_append h
    exact .cons ⟨first.nodes, standsFor_of_expandEntry hfirst, hsts⟩ (ih hrest hmore)

end Entries

section Stage
variable {engine : QueryEngine} {loaders : List Loader} {limits : Limits} {r : Request}
  {w w' : Workspace}

theorem expand_of_expandRequest {data : Option Json} {deletes inserts : List Json.Fields}
    (h : expandRequest limits r data = .ok (deletes, inserts)) :
    ∃ ds is, expand data r.delete = .ok ds ∧ expand data r.insert = .ok is ∧
      ds.nodes = deletes ∧ is.nodes = inserts := by
  unfold expandRequest at h
  obtain ⟨-, -, h⟩ := bind_eq_ok_iff.mp h
  obtain ⟨ds, hds, h⟩ := bind_eq_ok_iff.mp h
  obtain ⟨is, his, h⟩ := bind_eq_ok_iff.mp h
  dsimp only at h
  split at h
  · cases h
  · cases h
    exact ⟨ds, is, hds, his, rfl, rfl⟩

theorem gives_statements {c : Context} {deletes inserts : List Json.Fields} {s s' : Skolem}
    {made : List Statement × List Statement}
    (h : Gives (statements c deletes inserts) s made s') :
    ∃ s₁, Gives (ofNodes c deletes) s made.1 s₁ ∧ Gives (ofNodes c inserts) s₁ made.2 s' := by
  unfold statements at h
  obtain ⟨ds, s₁, hds, h⟩ := gives_bind.mp h
  obtain ⟨is, s₂, his, h⟩ := gives_bind.mp h
  obtain ⟨rfl, rfl⟩ := gives_pure.mp h
  exact ⟨s₁, hds, his⟩

theorem gives_of_naming {A : Type} {t : Naming A} {a : A}
    (h : (Step.naming t).run.run w = (.ok a, w')) :
    ∃ s, Gives t (.start w.supply) a s ∧ w'.buffer = w.buffer := by
  rw [naming_eq_drawing, Step.run_drawing] at h
  obtain ⟨hresult, rfl⟩ := Prod.mk.inj h
  exact ⟨_, Prod.ext (eq_ok_of_mapError hresult) rfl, rfl⟩

/-- **What is prepared** is translated to the statements that entries have, in turn. -/
theorem inTurn_of_prepared {c : Context} {deletes inserts : List Json.Fields} {s s' : Skolem}
    {ds is : List Statement} (h : prepared engine limits r = .ok (c, deletes, inserts))
    (hgives : Gives (statements c deletes inserts) s (ds, is) s') :
    ∃ data s₁, answer engine r = .ok data ∧ Context.parse r.context = .ok c ∧
      InTurn (Means c data) r.delete s ds s₁ ∧ InTurn (Means c data) r.insert s₁ is s' := by
  obtain ⟨data, hdata, hnodes, hc⟩ := prepared_eq_ok_iff.mp h
  obtain ⟨xd, xi, hxd, hxi, rfl, rfl⟩ := expand_of_expandRequest hnodes
  obtain ⟨s₁, hds, his⟩ := gives_statements hgives
  exact ⟨data, s₁, hdata, hc, inTurn_of_ofNodes hxd hds, inTurn_of_ofNodes hxi his⟩

/-- **Entries that are added** without a failure add the statements that they have, deletions before
insertions. -/
theorem inTurn_of_addExpanded (hrun : (addExpanded engine limits r).run.run w = (.ok (), w')) :
    ∃ data c s s' deletes inserts, answer engine r = .ok data ∧
      Context.parse r.context = .ok c ∧
      InTurn (Means c data) r.delete (.start w.supply) deletes s ∧
      InTurn (Means c data) r.insert s inserts s' ∧
      w'.buffer = w.buffer.add (w.buffer.changes deletes inserts) := by
  cases hprepared : prepared engine limits r with
  | error e =>
    rw [run_addExpanded_of_error hprepared] at hrun
    cases hrun
  | ok plan =>
    obtain ⟨c, deletes, inserts⟩ := plan
    rw [run_addExpanded hprepared, addNodes] at hrun
    obtain ⟨⟨ds, is⟩, w₁, hnaming, hrun⟩ := Step.run_bind_eq_ok hrun
    obtain ⟨⟨⟩, w₂, hdelete, hinsert⟩ := Step.run_bind_eq_ok hrun
    obtain ⟨s', hgives, hw₁⟩ := gives_of_naming hnaming
    obtain ⟨data, s, hdata, hc, hds, his⟩ := inTurn_of_prepared hprepared hgives
    refine ⟨data, c, s, s', ds, is, hdata, hc, hds, his, ?_⟩
    rw [withStatements_of_addStatements hinsert, withStatements_of_addStatements hdelete,
      Buffer.changes, Buffer.add_append]
    unfold withStatements
    rw [Buffer.record_add, hw₁]
    rfl

/-- **A run that succeeds** for a request that can be processed adds the statements that the request
wants deleted, and then those that it wants inserted. -/
theorem sources_of_run (hr : w.buffer.request.fault? = none)
    (hrun : (stage engine loaders limits).run.run w = (.ok (), w')) :
    ∃ deletes inserts, Sources engine loaders w.buffer.request w.supply deletes inserts ∧
      w'.buffer = w.buffer.add (w.buffer.changes deletes inserts) := by
  unfold stage at hrun
  obtain ⟨r, w₀, hrequest, hrun⟩ := Step.run_bind_eq_ok hrun
  obtain ⟨⟨⟩, w₁, hdeletes, hrun⟩ := Step.run_bind_eq_ok hrun
  obtain ⟨⟨⟩, w₂, hinserts, hentries⟩ := Step.run_bind_eq_ok hrun
  obtain ⟨rfl, rfl⟩ := Step.run_request_eq_ok hrequest
  obtain ⟨ds, hds, hw₁⟩ := inTurn_of_addReferences hdeletes
  obtain ⟨is, his, hw₂⟩ := inTurn_of_addReferences hinserts
  have hrequest₂ : w₂.buffer.request = w.buffer.request := by
    rw [hw₂, hw₁]
    simp only [withStatements, Buffer.request_add]
  unfold addEntries at hentries
  obtain ⟨r, w₃, hrequest, hentries⟩ := Step.run_bind_eq_ok hentries
  obtain ⟨rfl, rfl⟩ := Step.run_request_eq_ok hrequest
  rw [hrequest₂] at hentries
  cases hhas : w.buffer.request.hasEntries with
  | false =>
    rw [hhas] at hentries
    cases hentries
    refine ⟨ds, is, .references hhas hds his, ?_⟩
    rw [hw₂, hw₁]
    unfold withStatements
    rw [Buffer.record_add, Buffer.changes, Buffer.add_append]
  | true =>
    -- there are no references, so that the entries are added to the buffer as it was
    have hnone : w.buffer.request.hasRefs = false :=
      (one_source_of_valid hr).resolve_left (by rw [hhas]; decide)
    obtain ⟨hnoInserts, hnoDeletes⟩ := no_references_iff.mp hnone
    rw [hnoDeletes] at hdeletes
    rw [hnoInserts] at hinserts
    cases hdeletes
    cases hinserts
    rw [hhas, if_pos rfl] at hentries
    split at hentries
    · cases hentries
    · obtain ⟨data, c, s, s', deletes, inserts, hdata, hc, hd, hi, hbuffer⟩ :=
        inTurn_of_addExpanded hentries
      exact ⟨deletes, inserts, .entries hnone hdata hc hd hi, hbuffer⟩

/-- **What is materialized.** Let a request be one that can be processed, and let a run of
materializing succeed that starts with an empty buffer of the request, be it a new one or one that
calls have emptied. Then the buffer holds the first of each statement that the request wants deleted
or inserted, in the order of its sources. The positions of these are numbers in a row, those of
deletions before those of insertions, and nothing is counted as stored. -/
theorem materialized_in_order {engine : QueryEngine} {loaders : List Loader} {limits : Limits}
    {r : Request} (hr : r.fault? = none) (time : Instant) (cs : List BufferCall)
    {w w' : Workspace} (hw : w.buffer = ((Buffer.openAt r time).calls cs).2)
    (hempty : w.buffer.isEmpty = true)
    (hrun : (stage engine loaders limits).run.run w = (.ok (), w')) :
    ∃ deletes inserts : List Statement, Sources engine loaders r w.supply deletes inserts ∧
      w'.buffer.deletes.records = deletes.eraseDups.map (w.buffer.record .delete) ∧
      w'.buffer.inserts.records = inserts.eraseDups.map (w.buffer.record .insert) ∧
      w'.buffer.contents.map w'.buffer.position? =
        (List.range' w.buffer.nextPosition w'.buffer.contents.length).map some ∧
      (∀ x ∈ w'.buffer.deletes.records, ∀ y ∈ w'.buffer.inserts.records, ∃ m n,
        w'.buffer.position? x = some m ∧ w'.buffer.position? y = some n ∧ m < n) ∧
      w'.buffer.statistics = w.buffer.statistics ∧
      (cs = [] → w'.buffer.statistics = ⟨0, 0⟩) := by
  have hrequest : w.buffer.request = r := by rw [hw, Buffer.request_calls]; rfl
  obtain ⟨deletes, inserts, hsources, hbuffer⟩ := sources_of_run (by rwa [hrequest]) hrun
  have htracks := (Buffer.tracks_calls r time cs).2
  rw [← hw] at htracks
  obtain ⟨hd, hi, hpositions, hstatistics⟩ := htracks.add_changes hempty deletes inserts
  rw [← hbuffer] at hd hi hpositions hstatistics
  rw [hrequest] at hsources
  refine ⟨deletes, inserts, hsources, hd, hi, hpositions, ?_, hstatistics, fun hcs => ?_⟩
  · exact Buffer.deletes_before_inserts hpositions
  · rw [hstatistics, hw, hcs]
    rfl

/-- A statement about a subject. -/
def named (subject : String) : Statement :=
  Statement.ofLiteral subject "urn:name" "x" "" none none

/-- Two documents with a statement in common. -/
def documents : List Loader :=
  [.memory [("one", [named "urn:a", named "urn:b"]), ("two", [named "urn:b", named "urn:c"])]]

/-- A request to delete what is in both documents, and to insert what is in one. -/
def replacing : Request :=
  { Request.new "01ARZ3NDEKTSV4RRFFQ69G5FAV" "pod" with
    deleteFromRefs := [⟨"mem://one", none⟩, ⟨"mem://two", none⟩]
    insertFromRefs := [⟨"mem://two", none⟩] }

/-- What is loaded twice is deleted once, though it is in batches of their own. -/
theorem materialized_in_order_of_documents :
    let engine : QueryEngine := fun _ => .ok ⟨none, []⟩
    let run := (stage engine documents ⟨1, 0⟩).run.run ⟨.openAt replacing default, [], 0⟩
    replacing.fault? = none ∧ run.1 = .ok () ∧
      (∃ deletes inserts : List Statement, Sources engine documents replacing 0 deletes inserts ∧
        run.2.buffer.deletes.records =
          deletes.eraseDups.map ((Buffer.openAt replacing default).record .delete) ∧
        run.2.buffer.inserts.records =
          inserts.eraseDups.map ((Buffer.openAt replacing default).record .insert)) ∧
      run.2.buffer.contents.map Record.statement =
        [named "urn:a", named "urn:b", named "urn:c", named "urn:b", named "urn:c"] ∧
      run.2.buffer.contents.map run.2.buffer.position? =
        [some 0, some 1, some 2, some 3, some 4] ∧
      run.2.buffer.statistics = ⟨0, 0⟩ := by
  intro engine run
  have hvalid : replacing.fault? = none := by decide +kernel
  have hok : run.1 = .ok () := by decide +kernel
  have hrun : run = (.ok (), run.2) := Prod.ext hok rfl
  obtain ⟨deletes, inserts, hsources, hd, hi, hpositions, -, -, hstatistics⟩ :=
    materialized_in_order hvalid default [] (w := ⟨.openAt replacing default, [], 0⟩) rfl rfl hrun
  have hlength : run.2.buffer.contents.length = 5 := by decide +kernel
  rw [hlength] at hpositions
  exact ⟨hvalid, hok, ⟨deletes, inserts, hsources, hd, hi⟩, by decide +kernel, hpositions,
    hstatistics rfl⟩

end Stage

end Materialize

end GraphLedger
