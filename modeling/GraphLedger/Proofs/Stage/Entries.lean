import GraphLedger.Proofs.JsonLd.Following
import GraphLedger.Proofs.Stage.Brought
import Mathlib.Algebra.BigOperators.Group.List.Basic
import Mathlib.Data.List.Perm.Basic

/-! # The order of entries

Entries are expanded one by one to nodes, and nodes translated one by one to statements; only the
number of nodes from templates is counted over all. So another order of the entries makes another
order of the nodes, and this another order of the drafts: the same is brought, or both fail. As the
place of a node tells its blank nodes from others, each node keeps its place when they are put in
another order.

* `mapM_perm`: what is computed one by one is computed in every order.
* `expandRequest_perm`: the nodes of entries in another order.
* `prepared`, `run_addExpanded`: entries are expanded before anything is added.
* `brings_addNodes`: what nodes bring; `reordered_planned`: in another order, the same.
* `exists_brings_addEntries`: what entries bring in one order and in another. -/

namespace GraphLedger

open JsonLd

/-! ### Permutations -/

section Perm
variable {ε α β : Type}

/-- **What is computed one by one** is computed in every order. -/
theorem mapM_perm {f : α → Except ε β} {l l' : List α} {ys : List β} (h : l.Perm l')
    (hy : l.mapM f = .ok ys) : ∃ ys', l'.mapM f = .ok ys' ∧ ys.Perm ys' := by
  obtain ⟨ys', hys', hperm⟩ := List.perm_comp_forall₂ h.symm (mapM_eq_ok_iff.mp hy)
  exact ⟨ys', mapM_eq_ok_iff.mpr hys', hperm.symm⟩

theorem exists_numbered (xs ys : List α) : ∃ xs' ys' : List (α × Nat), xs'.map Prod.fst = xs ∧
    ys'.map Prod.fst = ys ∧ ((xs' ++ ys').map Prod.snd).Nodup := by
  refine ⟨xs.zipIdx, ys.zipIdx (0 + xs.length), List.zipIdx_map_fst _ xs, List.zipIdx_map_fst _ ys,
    ?_⟩
  rw [← List.zipIdx_append, List.zipIdx_map_snd]
  exact List.nodup_range'

theorem exists_perm_of_map_fst {xs : List (α × β)} {ys : List α} (h : (xs.map Prod.fst).Perm ys) :
    ∃ xs' : List (α × β), xs.Perm xs' ∧ xs'.map Prod.fst = ys := by
  have hfst : List.Forall₂ (fun a x => a = Prod.fst x) (xs.map Prod.fst) xs := by
    rw [List.forall₂_map_left_iff]
    exact List.forall₂_same.mpr fun _ _ => rfl
  obtain ⟨xs', hxs', hperm⟩ := List.perm_comp_forall₂ h.symm hfst
  rw [← List.forall₂_map_right_iff (f := Prod.fst), List.forall₂_eq_eq_eq] at hxs'
  exact ⟨xs', hperm.symm, hxs'.symm⟩

end Perm

/-! ### Expanding -/

namespace Materialize

theorem expand_eq_mapM (bindings : Option Json) (es : List Entry) : expand bindings es =
    (es.mapM (expandEntry bindings)).map fun ps =>
      ⟨ps.flatMap Expanded.nodes, (ps.map Expanded.templated).sum⟩ := by
  induction es with
  | nil => rfl
  | cons e es ih =>
    rw [expand, ih, List.mapM_cons]
    cases expandEntry bindings e with
    | error f => rfl
    | ok p => cases es.mapM (expandEntry bindings) <;> rfl

/-- **Entries in another order** have the same nodes in another order. -/
theorem expand_perm {bindings : Option Json} {es es' : List Entry} {x : Expanded} (h : es.Perm es')
    (hx : expand bindings es = .ok x) :
    ∃ y, expand bindings es' = .ok y ∧ x.nodes.Perm y.nodes ∧ x.templated = y.templated := by
  rw [expand_eq_mapM] at hx
  cases hps : es.mapM (expandEntry bindings) with
  | error f =>
    rw [hps] at hx
    cases hx
  | ok ps =>
    rw [hps] at hx
    cases hx
    obtain ⟨ps', hps', hperm⟩ := mapM_perm h hps
    refine ⟨⟨ps'.flatMap Expanded.nodes, (ps'.map Expanded.templated).sum⟩, ?_,
      hperm.flatMap_right _, (hperm.map _).sum_eq⟩
    rw [expand_eq_mapM, hps']
    rfl

end Materialize

/-- **Two requests that differ by the order of their entries.** -/
structure Request.Reorders (r r' : Request) : Prop where
  same : r' = { r with insert := r'.insert, delete := r'.delete }
  insert : r.insert.Perm r'.insert
  delete : r.delete.Perm r'.delete

namespace Request.Reorders

theorem refl (r : Request) : r.Reorders r := ⟨rfl, .refl _, .refl _⟩

variable {r r' : Request} (h : r.Reorders r')
include h

theorem symm : r'.Reorders r where
  same := by
    rw [h.same]
  insert := h.insert.symm
  delete := h.delete.symm

theorem query_eq : r'.query = r.query := by rw [h.same]

theorem context_eq : r'.context = r.context := by rw [h.same]

theorem hasEntries_eq : r'.hasEntries = r.hasEntries := by
  unfold Request.hasEntries
  rw [h.insert.isEmpty_eq, h.delete.isEmpty_eq]

theorem hasTemplates_eq : r'.hasTemplates = r.hasTemplates :=
  (h.insert.append h.delete).symm.any_eq

end Request.Reorders

namespace Materialize

/-- **The nodes of a request** with its entries in another order are in another order. -/
theorem expandRequest_perm {limits : Limits} {r r' : Request} (h : r.Reorders r')
    {bindings : Option Json} {deletes inserts : List Json.Fields}
    (hok : expandRequest limits r bindings = .ok (deletes, inserts)) :
    ∃ deletes' inserts', expandRequest limits r' bindings = .ok (deletes', inserts') ∧
      deletes.Perm deletes' ∧ inserts.Perm inserts' := by
  unfold expandRequest at hok
  obtain ⟨u, hmatches, hok⟩ := bind_eq_ok_iff.mp hok
  obtain ⟨ds, hds, hok⟩ := bind_eq_ok_iff.mp hok
  obtain ⟨is, his, hok⟩ := bind_eq_ok_iff.mp hok
  obtain ⟨ds', hds', hperm, hcount⟩ := expand_perm h.delete hds
  obtain ⟨is', his', hperm', hcount'⟩ := expand_perm h.insert his
  have hmatches' : checkMatches r' bindings = .ok u := by
    rw [← hmatches]
    unfold checkMatches
    rw [h.hasTemplates_eq, h.query_eq]
  dsimp only at hok
  rw [hcount, hcount'] at hok
  split at hok
  · cases hok
  · rename_i hlimit
    cases hok
    refine ⟨ds'.nodes, is'.nodes, ?_, hperm, hperm'⟩
    unfold expandRequest
    rw [hmatches', hds', his']
    exact if_neg hlimit

/-! ### Translating nodes -/

/-- The drafts of nodes, each with a number that tells it from the others. -/
def draftNodes (c : Context) (nodes : List (Json.Fields × Nat)) : Except Fault (List Draft) :=
  (nodes.mapM fun x => draftNode c [x.2] x.1).map List.flatten

theorem draftNodes_cons (c : Context) (x : Json.Fields × Nat) (nodes : List (Json.Fields × Nat)) :
    draftNodes c (x :: nodes) = do
      let first ← draftNode c [x.2] x.1
      let rest ← draftNodes c nodes
      return first ++ rest := by
  unfold draftNodes
  rw [List.mapM_cons]
  cases draftNode c [x.2] x.1 with
  | error f => rfl
  | ok ds => cases nodes.mapM fun x => draftNode c [x.2] x.1 <;> rfl

theorem draftNodes_perm {c : Context} {nodes nodes' : List (Json.Fields × Nat)} {ds : List Draft}
    (h : nodes.Perm nodes') (hds : draftNodes c nodes = .ok ds) :
    ∃ ds', draftNodes c nodes' = .ok ds' ∧ ds.Perm ds' := by
  unfold draftNodes at hds ⊢
  cases hparts : nodes.mapM fun x => draftNode c [x.2] x.1 with
  | error f =>
    rw [hparts] at hds
    cases hds
  | ok parts =>
    rw [hparts] at hds
    cases hds
    obtain ⟨parts', hparts', hperm⟩ := mapM_perm h hparts
    rw [hparts']
    exact ⟨parts'.flatten, rfl, hperm.flatten⟩

section Follows
variable {low : Nat} {N : Numbering Blank}

theorem follows_nodes (c : Context) : ∀ (nodes : List (Json.Fields × Nat)) {N : Numbering Blank},
    (nodes.map Prod.snd).Nodup → Follows low (belowAll (nodes.map Prod.snd)) N
      (ofNodes c (nodes.map Prod.fst)) (draftNodes c nodes) Draft.statements
  | [], _, _ => .pure fun _ _ => rfl
  | (fs, i) :: nodes, N, hnodup => by
    rw [draftNodes_cons]
    rw [List.map_cons] at hnodup ⊢
    obtain ⟨hi, hnodup⟩ := List.nodup_cons.mp hnodup
    exact (follows_node c [i] fs).append (fun _ _ => follows_nodes c nodes hnodup)
      (disjoint_below_belowAll hi) (below_subset_belowAll List.mem_cons_self)
      (belowAll_subset (List.subset_cons_self i _))

/-- **The nodes to delete and to insert** follow their drafts, under names that they share. -/
theorem follows_statements (c : Context) {deletes inserts : List (Json.Fields × Nat)}
    (hnodup : ((deletes ++ inserts).map Prod.snd).Nodup) :
    Follows low (belowAll ((deletes ++ inserts).map Prod.snd)) N
      (statements c (deletes.map Prod.fst) (inserts.map Prod.fst))
      (do let ds ← draftNodes c deletes; let is ← draftNodes c inserts; return (ds, is))
      fun α p => (Draft.statements α p.1, Draft.statements α p.2) := by
  rw [List.map_append] at hnodup ⊢
  obtain ⟨hdeletes, hinserts, hdisjoint⟩ := List.nodup_append'.mp hnodup
  refine (follows_nodes c deletes hdeletes).bind (V := belowAll (inserts.map Prod.snd))
    (fun N₁ ds sts _ _ hsts => ?_) (disjoint_belowAll hdisjoint)
    (belowAll_subset (List.subset_append_left _ _)) (belowAll_subset (List.subset_append_right _ _))
  refine (follows_nodes c inserts hinserts).bind_pure fun N₂ is sts' hg hsts' ν hν => ?_
  rw [(hsts.of_grows hg) ν hν, hsts' ν hν]

end Follows

/-! ### What nodes bring -/

theorem eq_ok_of_mapError {ε ε' A : Type} {f : ε → ε'} {x : Except ε A} {a : A}
    (h : x.mapError f = .ok a) : x = .ok a := by
  cases x with
  | error e => cases h
  | ok b =>
    cases h
    rfl

/-- What nodes to delete and to insert bring: their drafts, if nothing is wrong with these. -/
def planned (c : Context) (deletes inserts : List (Json.Fields × Nat)) :
    Except Failure (List (ChangeType × Draft)) := do
  let ds ← (draftNodes c deletes).mapError Fault.toFailure
  let is ← (draftNodes c inserts).mapError Fault.toFailure
  let ds ← ds.mapM (sound Draft.fault?)
  let is ← is.mapM (sound Draft.fault?)
  return ds.map (.delete, ·) ++ is.map (.insert, ·)

theorem planned_eq_ok_iff {c : Context} {deletes inserts : List (Json.Fields × Nat)}
    {qs : List (ChangeType × Draft)} : planned c deletes inserts = .ok qs ↔
      ∃ ds is, draftNodes c deletes = .ok ds ∧ draftNodes c inserts = .ok is ∧
        (∀ d ∈ ds ++ is, d.fault? = none) ∧ qs = ds.map (.delete, ·) ++ is.map (.insert, ·) := by
  unfold planned
  constructor
  · intro h
    obtain ⟨ds, hds, h⟩ := bind_eq_ok_iff.mp h
    obtain ⟨is, his, h⟩ := bind_eq_ok_iff.mp h
    obtain ⟨ds', hsound, h⟩ := bind_eq_ok_iff.mp h
    obtain ⟨is', hsound', h⟩ := bind_eq_ok_iff.mp h
    cases h
    obtain ⟨rfl, hall⟩ := mapM_sound_eq_ok_iff.mp hsound
    obtain ⟨rfl, hall'⟩ := mapM_sound_eq_ok_iff.mp hsound'
    exact ⟨ds, is, eq_ok_of_mapError hds, eq_ok_of_mapError his,
      List.forall_mem_append.mpr ⟨hall, hall'⟩, rfl⟩
  · rintro ⟨ds, is, hds, his, hall, rfl⟩
    obtain ⟨hall, hall'⟩ := List.forall_mem_append.mp hall
    rw [hds, his]
    dsimp only [Except.mapError, bind, Except.bind]
    rw [mapM_sound_eq_ok_iff.mpr ⟨rfl, hall⟩, mapM_sound_eq_ok_iff.mpr ⟨rfl, hall'⟩]
    rfl

theorem planned_perm {c : Context} {deletes deletes' inserts inserts' : List (Json.Fields × Nat)}
    {qs : List (ChangeType × Draft)} (hd : deletes.Perm deletes') (hi : inserts.Perm inserts')
    (h : planned c deletes inserts = .ok qs) :
    ∃ qs', planned c deletes' inserts' = .ok qs' ∧ qs.Perm qs' := by
  obtain ⟨ds, is, hds, his, hvalid, rfl⟩ := planned_eq_ok_iff.mp h
  obtain ⟨ds', hds', hperm⟩ := draftNodes_perm hd hds
  obtain ⟨is', his', hperm'⟩ := draftNodes_perm hi his
  refine ⟨_, planned_eq_ok_iff.mpr ⟨ds', is', hds', his', fun d hd => ?_, rfl⟩,
    (hperm.map _).append (hperm'.map _)⟩
  exact hvalid d ((hperm.append hperm').mem_iff.mpr hd)

/-- **Whether two plans are the same but for the order**: both bring the same items, or both
fail. -/
def Reordered : Plan → Plan → Prop
  | .ok xs, .ok ys => xs.Perm ys
  | .error _, .error _ => True
  | _, _ => False

theorem reordered_planned {c : Context}
    {deletes deletes' inserts inserts' : List (Json.Fields × Nat)} (hd : deletes.Perm deletes') (hi : inserts.Perm inserts') (i : Nat) :
    Reordered ((planned c deletes inserts).map (itemsOf i))
      ((planned c deletes' inserts').map (itemsOf i)) := by
  cases hplan : planned c deletes inserts with
  | ok qs =>
    obtain ⟨qs', hplan', hperm⟩ := planned_perm hd hi hplan
    rw [hplan']
    exact hperm.map _
  | error f =>
    cases hplan' : planned c deletes' inserts' with
    | error f' => trivial
    | ok qs' =>
      obtain ⟨qs, hok, -⟩ := planned_perm hd.symm hi.symm hplan'
      rw [hplan] at hok
      cases hok

theorem Reordered.append {e e' : Plan} (h : Reordered e e') (p : Plan) :
    Reordered (do let xs ← p; let ys ← e; return xs ++ ys)
      (do let xs ← p; let ys ← e'; return xs ++ ys) := by
  cases p with
  | error f => trivial
  | ok xs =>
    cases e <;> cases e'
    · trivial
    · exact h.elim
    · exact h.elim
    · exact List.Perm.append_left xs h

/-- Translates nodes and adds their statements, deletions before insertions. -/
def addNodes (c : Context) (deletes inserts : List Json.Fields) : Step Unit := do
  let (ds, is) ← Step.naming (statements c deletes inserts)
  addStatements .delete ds
  addStatements .insert is

theorem naming_eq_drawing {A : Type} (t : Naming A) : Step.naming t = Step.drawing fun next =>
    ((t.run.run (.start next)).1.mapError Fault.toFailure, (t.run.run (.start next)).2.next) := by
  unfold Step.naming
  refine congrArg Step.drawing (funext fun next => ?_)
  have hrun : t.run.run (.start next) = t.run (.start next) := rfl
  rw [hrun]
  rcases t.run (.start next) with ⟨_ | _, _⟩ <;> rfl

theorem adds_drafts {α : Blank → String} (hα : ∀ b, ∃ n, α b = Skolem.minted n)
    (ds is : List Draft) :
    Adds (do addStatements .delete (Draft.statements α ds)
             addStatements .insert (Draft.statements α is))
      (Except.map (List.map fun q => (q.1, q.2.statement α)) (do
        let ds ← ds.mapM (sound Draft.fault?)
        let is ← is.mapM (sound Draft.fault?)
        return ds.map (.delete, ·) ++ is.map (.insert, ·))) := by
  have hsound : ∀ ds, (Draft.statements α ds).mapM (sound Statement.invalid?) =
      (ds.mapM (sound Draft.fault?)).map (Draft.statements α) :=
    mapM_map_of fun d => sound_map (d.invalid?_statement hα)
  have hadds := (adds_addStatements .delete (Draft.statements α ds)).bind
    (f := fun _ => addStatements .insert (Draft.statements α is))
    (adds_addStatements .insert (Draft.statements α is))
  rw [hsound, hsound] at hadds
  refine (congrArg (Adds _) ?_).mp hadds
  cases ds.mapM (sound Draft.fault?) with
  | error f => rfl
  | ok ds =>
    cases is.mapM (sound Draft.fault?) with
    | error f => rfl
    | ok is =>
      refine congrArg Except.ok ?_
      simp only [Draft.statements, List.map_append, List.map_map, Function.comp_def]

/-- **What nodes bring** does not depend on the supply. -/
theorem brings_addNodes {low : Nat} {r : Request} (c : Context) (scope : Nat)
    {deletes inserts : List (Json.Fields × Nat)}
    (hnodup : ((deletes ++ inserts).map Prod.snd).Nodup) :
    Brings low r scope (scope + 1) (addNodes c (deletes.map Prod.fst) (inserts.map Prod.fst))
      ((planned c deletes inserts).map (itemsOf scope)) := by
  unfold addNodes
  rw [naming_eq_drawing]
  refine Told.brings fun next => ?_
  obtain ⟨M, -, htells, hr⟩ := follows_statements c hnodup (.start next) (tells_start next)
    fun _ _ => rfl
  refine ⟨M, htells.toWithin, fun α hα hminted => ?_, fun qs hqs q hq b hb => ?_⟩
  · rw [hr α hα]
    unfold planned
    cases draftNodes c deletes with
    | error f => rfl
    | ok ds =>
      cases draftNodes c inserts with
      | error f => rfl
      | ok is => exact adds_drafts hminted ds is
  · obtain ⟨ds, is, hds, his, -, rfl⟩ := planned_eq_ok_iff.mp hqs
    rw [hds, his] at hr
    obtain ⟨ν₀, hν₀⟩ := exists_agrees M
    have hsame : ∀ ν, Agrees ν M →
        Draft.statements ν₀ (ds ++ is) = Draft.statements ν (ds ++ is) := fun ν hν => by
      obtain ⟨hdeletes, hinserts⟩ :=
        Prod.mk.inj (Except.ok.inj ((hr ν₀ hν₀).symm.trans (hr ν hν)))
      unfold Draft.statements at hdeletes hinserts ⊢
      rw [List.map_append, List.map_append, hdeletes, hinserts]
    refine numbered_of_same hsame ?_ hb
    rcases List.mem_append.mp hq with hq | hq
    · obtain ⟨d, hd, rfl⟩ := List.mem_map.mp hq
      exact List.mem_append_left _ hd
    · obtain ⟨d, hd, rfl⟩ := List.mem_map.mp hq
      exact List.mem_append_right _ hd

/-! ### What entries bring -/

/-- The answer to the query of a request, if it has one. -/
def answer (engine : QueryEngine) (r : Request) : Except Failure (Option Json) :=
  match r.query with
  | none => .ok none
  | some q => (engine q).bind fun response => response.toData.map some

/-- **The context of a request and the nodes** its entries stand for, to delete and to insert. -/
def prepared (engine : QueryEngine) (limits : Limits) (r : Request) :
    Except Failure (Context × List Json.Fields × List Json.Fields) := do
  let data ← answer engine r
  let nodes ← expandRequest limits r data
  let c ← (Context.parse r.context).mapError Fault.toFailure
  return (c, nodes)

/-- A workspace in which the query of a request has been put, if it has one. -/
def asking (r : Request) (w : Workspace) : Workspace :=
  { w with asked := w.asked ++ r.query.toList }

theorem run_bindings (engine : QueryEngine) (r : Request) (w : Workspace) :
    (bindings engine r).run.run w =
      (answer engine r, { w with asked := w.asked ++ r.query.toList }) := by
  unfold bindings answer
  cases r.query with
  | none => exact congrArg (fun asked => (_, { w with asked := asked })) w.asked.append_nil.symm
  | some q =>
    dsimp only [Option.toList_some]
    rw [Step.run_bind, Step.run_ask]
    cases engine q with
    | error e => rfl
    | ok response =>
      show ((do let data ← Step.ofExcept response.toData; return some data).run.run _) =
        (response.toData.map some, _)
      rw [Step.run_bind, Step.run_ofExcept]
      cases response.toData <;> rfl

section Prepared
variable {engine : QueryEngine} {limits : Limits} {r r' : Request} {c : Context}
  {deletes inserts : List Json.Fields} {w : Workspace} {e : Failure}

theorem prepared_eq_ok_iff : prepared engine limits r = .ok (c, deletes, inserts) ↔
    ∃ data, answer engine r = .ok data ∧ expandRequest limits r data = .ok (deletes, inserts) ∧
      Context.parse r.context = .ok c := by
  unfold prepared
  constructor
  · intro h
    obtain ⟨data, hdata, h⟩ := bind_eq_ok_iff.mp h
    obtain ⟨nodes, hnodes, h⟩ := bind_eq_ok_iff.mp h
    obtain ⟨c', hc, h⟩ := bind_eq_ok_iff.mp h
    cases h
    exact ⟨data, hdata, hnodes, eq_ok_of_mapError hc⟩
  · rintro ⟨data, hdata, hnodes, hc⟩
    rw [hdata, hc]
    show (expandRequest limits r data >>= _) = _
    rw [hnodes]
    rfl

/-- **Both parts**: what is prepared is added. -/
theorem run_addExpanded (h : prepared engine limits r = .ok (c, deletes, inserts)) :
    (addExpanded engine limits r).run.run w =
      (addNodes c deletes inserts).run.run (asking r w) := by
  obtain ⟨data, hdata, hnodes, hc⟩ := prepared_eq_ok_iff.mp h
  rw [addExpanded, Step.run_bind, run_bindings, hdata]
  dsimp only
  rw [Step.run_bind, Step.run_ofExcept, hnodes]
  dsimp only
  rw [Step.run_bind, Step.run_ofExcept, hc]
  rfl

theorem run_addExpanded_of_error (h : prepared engine limits r = .error e) :
    (addExpanded engine limits r).run.run w = (.error e, asking r w) := by
  rw [addExpanded, Step.run_bind, run_bindings]
  rcases bind_eq_error_iff.mp h with hdata | ⟨data, hdata, h⟩
  · rw [hdata]
    rfl
  rw [hdata]
  dsimp only
  rw [Step.run_bind, Step.run_ofExcept]
  rcases bind_eq_error_iff.mp h with hnodes | ⟨nodes, hnodes, h⟩
  · rw [hnodes]
    rfl
  rw [hnodes]
  dsimp only
  rw [Step.run_bind, Step.run_ofExcept]
  rcases bind_eq_error_iff.mp h with hc | ⟨c, -, h⟩
  · rw [hc]
    rfl
  · cases h

theorem run_addEntries : (addEntries engine limits).run.run w =
    if w.buffer.request.hasEntries then
      if w.buffer.request.hasTemplates && w.buffer.request.query.isNone then
        (.error missingQuery, w)
      else (addExpanded engine limits w.buffer.request).run.run w
    else (.ok (), w) := by
  show (if w.buffer.request.hasEntries then
    if w.buffer.request.hasTemplates && w.buffer.request.query.isNone then throw missingQuery
    else addExpanded engine limits w.buffer.request
    else pure () : Step Unit).run.run w = _
  split
  · split <;> rfl
  · rfl

/-- **What is prepared** of a request with its entries in another order is in another order. -/
theorem prepared_perm (h : r.Reorders r')
    (hok : prepared engine limits r = .ok (c, deletes, inserts)) :
    ∃ deletes' inserts', prepared engine limits r' = .ok (c, deletes', inserts') ∧
      deletes.Perm deletes' ∧ inserts.Perm inserts' := by
  obtain ⟨data, hdata, hnodes, hc⟩ := prepared_eq_ok_iff.mp hok
  obtain ⟨deletes', inserts', hnodes', hd, hi⟩ := expandRequest_perm h hnodes
  refine ⟨deletes', inserts', prepared_eq_ok_iff.mpr ⟨data, ?_, hnodes', ?_⟩, hd, hi⟩
  · rw [← hdata, answer, answer, h.query_eq]
  · rw [h.context_eq, hc]

end Prepared

section Entries
variable {engine : QueryEngine} {limits : Limits} {r r' : Request} {i : Nat}

/-- **What entries bring** in one order they bring in another: each node keeps the number that it
has in the one. -/
theorem exists_brings_addExpanded (engine : QueryEngine) (limits : Limits) (h : r.Reorders r')
    (i : Nat) : ∃ plan plan', Reordered plan plan' ∧ ∀ low,
      Brings low r i (i + 1) (addExpanded engine limits r) plan ∧
        Brings low r' i (i + 1) (addExpanded engine limits r') plan' := by
  have hle := Nat.le_succ i
  cases hp : prepared engine limits r with
  | error e =>
    cases hp' : prepared engine limits r' with
    | error e' =>
      exact ⟨.error e, .error e', trivial, fun low =>
        ⟨brings_failure hle fun w _ => ⟨_, run_addExpanded_of_error hp⟩,
          brings_failure hle fun w _ => ⟨_, run_addExpanded_of_error hp'⟩⟩⟩
    | ok nodes' =>
      obtain ⟨deletes, inserts, hok, -⟩ := prepared_perm h.symm hp'
      rw [hp] at hok
      cases hok
  | ok nodes =>
    obtain ⟨c, deletes, inserts⟩ := nodes
    obtain ⟨deletes', inserts', hp', hd, hi⟩ := prepared_perm h hp
    obtain ⟨numbered, numbered', rfl, rfl, hnodup⟩ := exists_numbered deletes inserts
    obtain ⟨xs, hperm, rfl⟩ := exists_perm_of_map_fst hd
    obtain ⟨xs', hperm', rfl⟩ := exists_perm_of_map_fst hi
    have hnodup' : ((xs ++ xs').map Prod.snd).Nodup :=
      ((hperm.append hperm').map Prod.snd).nodup_iff.mp hnodup
    exact ⟨_, _, reordered_planned hperm hperm' i, fun low =>
      ⟨(brings_addNodes c i hnodup).of_run fun w _ => ⟨_, run_addExpanded hp⟩,
        (brings_addNodes c i hnodup').of_run fun w _ => ⟨_, run_addExpanded hp'⟩⟩⟩

/-- **What the entries of a request bring** in one order they bring in another. -/
theorem exists_brings_addEntries (engine : QueryEngine) (limits : Limits) (h : r.Reorders r')
    (i : Nat) : ∃ plan plan', Reordered plan plan' ∧ ∀ low,
      Brings low r i (i + 1) (addEntries engine limits) plan ∧
        Brings low r' i (i + 1) (addEntries engine limits) plan' := by
  have hle := Nat.le_succ i
  have hentries := h.hasEntries_eq
  have htemplates : (r'.hasTemplates && r'.query.isNone) = (r.hasTemplates && r.query.isNone) := by
    rw [h.hasTemplates_eq, h.query_eq]
  by_cases hsome : r.hasEntries
  · by_cases hquery : (r.hasTemplates && r.query.isNone) = true
    · refine ⟨.error missingQuery, .error missingQuery, trivial, fun low =>
        ⟨brings_failure hle fun w hw => ⟨w.asked, ?_⟩,
          brings_failure hle fun w hw => ⟨w.asked, ?_⟩⟩⟩
      · rw [run_addEntries, hw, if_pos hsome, if_pos hquery]
      · rw [run_addEntries, hw, hentries, htemplates, if_pos hsome, if_pos hquery]
    · obtain ⟨plan, plan', hsame, hbrings⟩ := exists_brings_addExpanded engine limits h i
      refine ⟨plan, plan', hsame, fun low => ⟨(hbrings low).1.of_run fun w hw => ⟨w.asked, ?_⟩,
        (hbrings low).2.of_run fun w hw => ⟨w.asked, ?_⟩⟩⟩
      · rw [run_addEntries, hw, if_pos hsome, if_neg hquery]
      · rw [run_addEntries, hw, hentries, htemplates, if_pos hsome, if_neg hquery]
  · refine ⟨.ok [], .ok [], List.Perm.refl [], fun low =>
      ⟨(brings_nothing hle).of_run fun w hw => ⟨w.asked, ?_⟩,
        (brings_nothing hle).of_run fun w hw => ⟨w.asked, ?_⟩⟩⟩
    · rw [run_addEntries, hw, if_neg hsome]
      rfl
    · rw [run_addEntries, hw, hentries, if_neg hsome]
      rfl

end Entries

end Materialize

end GraphLedger
