import GraphLedger.Proofs.JsonLd.Following
import GraphLedger.Proofs.JsonLd.Minting
import GraphLedger.Reference.Loader

/-! # Loading references is drafting

A loader may mint names for what it loads, and takes their numbers from the supply that it is given.
But for these names, what it loads depends on the reference alone: it is told by drafts, with a
failure in the place of one perhaps. So it is for the loaders of a program: documents in memory need
no names, and a file is translated with labels of its own.

* `Loads`: what is loaded is told by drafts.
* `Loader.memory_drafted`, `Loader.file_drafted`: so it is for the loaders of a program.
* `exists_loads_loadReference`: so it is for a reference that is resolved among such loaders. -/

namespace GraphLedger

open JsonLd

/-! ### What is loaded -/

/-- The draft of a statement whose nodes have their names. -/
def Statement.toDraft (st : Statement) : Draft where
  subject := .given st.subject
  predicate := st.predicate
  object := match st.object with
    | .iri iri => .node (.given iri)
    | .literal value => .literal value
  graph := .given st.graph
  dataType := st.dataType
  language := st.language

theorem Statement.statement_toDraft (st : Statement) (α : Blank → String) :
    st.toDraft.statement α = st := by
  obtain ⟨subject, predicate, object, graph, dataType, language⟩ := st
  cases object <;> rfl

theorem Statement.blanks_toDraft (st : Statement) : st.toDraft.blanks = [] := by
  obtain ⟨subject, predicate, object, graph, dataType, language⟩ := st
  cases object <;> rfl

/-- What a reference holds, but for names: drafts, and failures in their place. -/
abbrev DraftStream := List (Except Failure Draft)

/-- The stream of statements that drafts have under names for the blank nodes. -/
def DraftStream.statements (α : Blank → String) (ds : DraftStream) : StatementStream :=
  ds.map (Except.map (Draft.statement α))

/-- **What is loaded is told by drafts**, whatever the supply: under names that are minted for
numbers taken from the supply. -/
def Loads (load : Nat → Except Failure StatementStream × Nat) (d : Except Failure DraftStream) :
    Prop :=
  ∀ next, ∃ N : Numbering Blank, Within next N (load next).2 ∧
    (∀ ν, Agrees ν N → (load next).1 = d.map (DraftStream.statements ν)) ∧
    ∀ ds, d = .ok ds → ∀ x, .ok x ∈ ds → ∀ b ∈ x.blanks, ∃ n, N b = some n

theorem loads_const (x : Except Failure StatementStream) :
    Loads (fun next => (x, next))
      (x.map (List.map (Except.map Statement.toDraft))) := by
  intro next
  refine ⟨fun _ => none, within_none next, fun ν _ => ?_, fun ds hds y hy b hb => ?_⟩
  · cases x with
    | error f => rfl
    | ok items =>
      refine congrArg Except.ok ?_
      show items = (items.map (Except.map Statement.toDraft)).map (Except.map (Draft.statement ν))
      rw [List.map_map]
      conv_lhs => rw [← List.map_id' items]
      refine List.map_congr_left fun item _ => ?_
      cases item with
      | error f => rfl
      | ok st => exact congrArg Except.ok (st.statement_toDraft ν).symm
  · cases x with
    | error f => cases hds
    | ok items =>
      cases hds
      obtain ⟨item, -, hitem⟩ := List.mem_map.mp hy
      cases item with
      | error f => cases hitem
      | ok st =>
        cases hitem
        rw [st.blanks_toDraft] at hb
        cases hb

/-- **A document is told by its drafts.** -/
theorem loads_document (v : Json) :
    Loads (fun next => match readDocument next v with
      | (.ok sts, next) => (.ok (.ofList sts), next)
      | (.error e, next) => (.error e.toFailure, next))
      (match draftDocument Context.empty [] v with
        | .ok ds => .ok (ds.map .ok)
        | .error e => .error e.toFailure) := by
  intro next
  obtain ⟨N, -, ht, hr⟩ := follows_document Context.empty [] v
    (.start next) (tells_start next) fun _ _ => rfl
  have hread : readDocument next v = (((ofDocument Context.empty v).run.run (.start next)).1,
      ((ofDocument Context.empty v).run.run (.start next)).2.next) := rfl
  dsimp only
  rw [hread]
  generalize (ofDocument Context.empty v).run.run (.start next) = outcome at ht hr
  obtain ⟨r, s⟩ := outcome
  obtain ⟨ν₀, hν₀⟩ := exists_agrees N
  have hr₀ := hr ν₀ hν₀
  dsimp only at hr hr₀ ht ⊢
  cases hd : draftDocument Context.empty [] v with
  | error f =>
    rw [hd] at hr₀
    rw [hr₀]
    exact ⟨N, ht.toWithin, fun _ _ => rfl, fun _ h => by cases h⟩
  | ok ds =>
    rw [hd] at hr hr₀
    rw [hr₀]
    have hsame : ∀ ν, Agrees ν N → Draft.statements ν₀ ds = Draft.statements ν ds := fun ν hν =>
      Except.ok.inj (hr₀.symm.trans (hr ν hν))
    refine ⟨N, ht.toWithin, fun ν hν => ?_, fun _ hds x hx b hb => ?_⟩
    · refine congrArg Except.ok ?_
      show (Draft.statements ν₀ ds).map .ok = (ds.map .ok).map (Except.map (Draft.statement ν))
      rw [hsame ν hν, Draft.statements, List.map_map, List.map_map]
      rfl
    · cases hds
      obtain ⟨d, hd, hx⟩ := List.mem_map.mp hx
      cases hx
      exact numbered_of_same hsame hd hb

/-! ### Loaders -/

/-- Whether what a loader loads is told by drafts. -/
def Loader.Drafted (l : Loader) : Prop := ∀ r, ∃ d, Loads (l.load r) d

namespace Loader

theorem memory_drafted (docs : Documents) : (memory docs).Drafted := fun _ => ⟨_, loads_const _⟩

theorem file_drafted (root : Option String) (read : String → Option String) :
    (file root read).Drafted := by
  intro r
  show ∃ d, Loads (loadFile root read r) d
  unfold loadFile
  cases readFile root read r with
  | error e => exact ⟨_, loads_const _⟩
  | ok v => exact ⟨_, loads_document v⟩

end Loader

/-- **A reference that is resolved** among loaders whose loads are told by drafts is told by one. -/
theorem exists_loads_loadReference {loaders : List Loader} (h : ∀ l ∈ loaders, l.Drafted)
    (r : Reference) : ∃ d, Loads (loadReference loaders r) d := by
  cases hl : resolveLoader loaders r with
  | error e =>
    have hload : loadReference loaders r = fun next => (.error e.toFailure, next) := by
      funext next
      rw [loadReference, hl]
    rw [hload]
    exact ⟨_, loads_const _⟩
  | ok l =>
    have hload : loadReference loaders r = l.load r := by
      funext next
      rw [loadReference, hl]
    have hmem : l ∈ loaders := by
      unfold resolveLoader at hl
      split at hl
      · cases hl
      · rename_i hfilter
        cases hl
        have hone : l ∈ loaders.filter fun l => l.supports r := by
          rw [hfilter]
          exact List.mem_singleton.mpr rfl
        exact List.mem_of_mem_filter hone
      · cases hl
    rw [hload]
    exact h l hmem r

end GraphLedger
