import GraphLedger.Proofs.JsonLd.Following
import GraphLedger.Proofs.JsonLd.Minting
import GraphLedger.Proofs.JsonLd.Renaming
import Mathlib.Data.List.Nodup

/-! # The identity of blank nodes

Nodes and documents are translated one after the other with one supply and one table of labels, as
the deletions and insertions of a request are. Whatever is translated, with whatever outcome, the
statements are those of the drafts under one choice of names: a label has one name in all calls,
each node without an IRI has a name of its own, and no name is given twice. What labels are called
is of no account: if they are renamed throughout, the statements are the same up to the names that
are minted.

* `runCalls`: calls in a row; `draftsOf`: their drafts.
* `follows_calls`: calls in a row follow their drafts.
* `blank_nodes_keep_identity`: what names blank nodes have in a row of calls. -/

namespace GraphLedger.JsonLd

/-! ### Calls in a row -/

/-- A call of a translation, with a node or with a document. -/
inductive Call where
  | node (c : Context) (fs : Json.Fields)
  | document (c : Context) (v : Json)

namespace Call

/-- What a call makes. -/
def run : Call → Naming (List Statement)
  | .node c fs => ofNode c fs
  | .document c v => ofDocument c v

/-- The drafts of a call with some path. -/
def draft (path : List Nat) : Call → Except Fault (List Draft)
  | .node c fs => draftNode c path fs
  | .document c v => draftDocument c path v

/-- A call with the labels in its input renamed. -/
def rename (ρ : String → String) : Call → Call
  | .node c fs => .node c (renameNode ρ c fs)
  | .document c v => .document c (renameDocument ρ c v)

theorem draft_rename (ρ : String → String) (path : List Nat) (call : Call) :
    (call.rename ρ).draft path = (call.draft path).map (renameAll ρ) := by
  cases call with
  | node c fs => exact draftNode_rename ρ c path fs
  | document c v => exact draftDocument_rename ρ c path v

end Call

/-- **Calls one after the other**, which share supply and labels, whether they fail or not: what
each of them gives, and what is left. -/
def runCalls (s : Skolem) : List Call → List (Except Fault (List Statement)) × Skolem
  | [] => ([], s)
  | call :: calls =>
    let (outcome, s₁) := call.run.run.run s
    let (outcomes, s₂) := runCalls s₁ calls
    (outcome :: outcomes, s₂)

/-- The drafts of calls. The path to what is in a call ends with the place of the call. -/
def draftsOf (calls : List Call) : List (Except Fault (List Draft)) :=
  calls.zipIdx.map fun q => q.1.draft [q.2]

/-- The drafts of those calls that do not fail. -/
def allDrafts (calls : List Call) : List Draft :=
  (draftsOf calls).flatMap fun
    | .ok ds => ds
    | .error _ => []

/-- The IRIs of the input that nodes have in the drafts of calls. -/
def inputIris (calls : List Call) : List String := (allDrafts calls).flatMap Draft.givenIris

theorem mem_allDrafts_iff {calls : List Call} {d : Draft} :
    d ∈ allDrafts calls ↔ ∃ ds, .ok ds ∈ draftsOf calls ∧ d ∈ ds := by
  constructor
  · intro h
    obtain ⟨outcome, houtcome, hd⟩ := List.mem_flatMap.mp h
    cases outcome with
    | error f => cases hd
    | ok ds => exact ⟨ds, houtcome, hd⟩
  · rintro ⟨ds, hds, hd⟩
    exact List.mem_flatMap.mpr ⟨.ok ds, hds, hd⟩

theorem draftsOf_rename (ρ : String → String) (calls : List Call) :
    draftsOf (calls.map (Call.rename ρ)) = (draftsOf calls).map (Except.map (renameAll ρ)) := by
  unfold draftsOf
  rw [List.zipIdx_map, List.map_map, List.map_map]
  exact List.map_congr_left fun q _ => q.1.draft_rename ρ [q.2]

section Follows
variable {low : Nat}

theorem follows_call (call : Call) (path : List Nat) (N : Numbering Blank) :
    Follows low (below path) N call.run (call.draft path) Draft.statements := by
  cases call with
  | node c fs => exact follows_node c path fs
  | document c v => exact follows_document c path v

/-- **Calls in a row follow their drafts**, whatever numbers tell the calls apart. -/
theorem follows_calls : ∀ (calls : List (Call × Nat)) {N : Numbering Blank} {s : Skolem},
    (calls.map Prod.snd).Nodup → Tells low N s → Untold (belowAll (calls.map Prod.snd)) N →
    ∃ N', Grows (belowAll (calls.map Prod.snd)) N N' ∧
      Tells low N' (runCalls s (calls.map Prod.fst)).2 ∧
      ∀ ν, Agrees ν N' → (runCalls s (calls.map Prod.fst)).1 =
        calls.map fun x => (x.1.draft [x.2]).map (Draft.statements ν)
  | [], N, s, _, hs, _ => ⟨N, .refl _ N, hs, fun _ _ => rfl⟩
  | (call, i) :: calls, N, s, hnodup, hs, huntold => by
    rw [List.map_cons] at hnodup huntold ⊢
    obtain ⟨hi, hnodup⟩ := List.nodup_cons.mp hnodup
    have hfirst := below_subset_belowAll (List.mem_cons_self (a := i) (l := calls.map Prod.snd))
    have hrest := belowAll_subset (List.subset_cons_self i (calls.map Prod.snd))
    obtain ⟨N₁, hg₁, ht₁, hr₁⟩ := follows_call call [i] N s hs (huntold.mono hfirst)
    obtain ⟨N₂, hg₂, ht₂, hr₂⟩ := follows_calls calls hnodup ht₁
      ((huntold.mono hrest).of_grows hg₁ (disjoint_below_belowAll hi))
    refine ⟨N₂, (hg₁.mono hfirst).trans (hg₂.mono hrest), ht₂, fun ν hν => ?_⟩
    have houtcome := hr₁ ν (hν.of_grows hg₂)
    exact List.cons_eq_cons.mpr ⟨houtcome, hr₂ ν hν⟩

end Follows

/-! ### From an empty table of labels -/

/-- **Calls give what their drafts tell**: from an empty table on, there is a numbering of all blank
nodes that occur in the outcomes, and the outcomes are those of the drafts under the names that it
gives. -/
theorem runCalls_start (calls : List Call) (next : Nat) :
    ∃ N : Numbering Blank, Tells next N (runCalls (.start next) calls).2 ∧
      (∀ ν, Agrees ν N → (runCalls (.start next) calls).1 =
        (draftsOf calls).map (Except.map (Draft.statements ν))) ∧
      ∀ ds, .ok ds ∈ draftsOf calls → ∀ d ∈ ds, ∀ b ∈ d.blanks, ∃ n, N b = some n := by
  have hnodup : (calls.zipIdx.map Prod.snd).Nodup := by
    rw [List.zipIdx_map_snd]
    exact List.nodup_range'
  obtain ⟨N, -, ht, hr⟩ := follows_calls calls.zipIdx hnodup
    (tells_start next) fun _ _ => rfl
  rw [List.zipIdx_map_fst] at ht hr
  have hr' : ∀ ν, Agrees ν N → (runCalls (.start next) calls).1 =
      (draftsOf calls).map (Except.map (Draft.statements ν)) := fun ν hν => by
    rw [hr ν hν, draftsOf, List.map_map]
    rfl
  refine ⟨N, ht, hr', fun ds hds d hd b hb => ?_⟩
  obtain ⟨ν₀, hν₀⟩ := exists_agrees N
  have hsame : ∀ ν, Agrees ν N → Draft.statements ν₀ ds = Draft.statements ν ds := fun ν hν =>
    Except.ok.inj (List.map_inj_left.mp ((hr' ν₀ hν₀).symm.trans (hr' ν hν)) _ hds)
  exact numbered_of_same hsame hd hb

theorem Draft.mem_blanks_rename {ρ : String → String} {d : Draft} {b : Blank}
    (h : b ∈ d.blanks) :
    b.rename ρ ∈ (d.rename ρ).blanks := by
  have hidents : (d.rename ρ).idents = d.idents.map (Ident.rename ρ) := by
    unfold Draft.idents Draft.rename
    cases d.object <;> rfl
  rw [Draft.mem_blanks_iff] at h ⊢
  rw [hidents]
  exact List.mem_map_of_mem (f := Ident.rename ρ) h

/-- What calls mint: the IRIs for the numbers that they take from the supply. -/
def mintedBy (calls : List Call) (next : Nat) : Set String :=
  mintedIn next (runCalls (.start next) calls).2.next

/-- **Blank nodes keep their identity** in calls one after the other, whether some fail or not.
There are names for all blank nodes, no two of them the same and all minted, so that the outcomes
are those of the drafts under these names, and the table has these names for labels. And if labels
are renamed in all calls, and the new calls draw on any supply, their outcomes are the old ones up
to a permutation of IRIs. It moves only what is minted in either run, if no IRI of the input is
minted in one of them. -/
theorem blank_nodes_keep_identity (calls : List Call) (next : Nat) :
    (∃ names : Minting Blank next,
      (runCalls (.start next) calls).1 =
        (draftsOf calls).map (Except.map (Draft.statements names.iri)) ∧
      ∀ label iri, (runCalls (.start next) calls).2.labels.lookup label = some iri →
        iri = names.iri (.label label)) ∧
    ∀ (ρ : String → String) (next' : Nat), Function.Injective ρ →
      (∀ iri ∈ inputIris calls,
        iri ∉ mintedBy calls next ∪ mintedBy (calls.map (Call.rename ρ)) next') →
      ∃ π : Equiv.Perm String,
        (∀ iri, π iri ≠ iri →
          iri ∈ mintedBy calls next ∪ mintedBy (calls.map (Call.rename ρ)) next') ∧
        (runCalls (.start next') (calls.map (Call.rename ρ))).1 =
          (runCalls (.start next) calls).1.map
            (Except.map (List.map (Statement.renameNodes π))) := by
  obtain ⟨N, ht, hr, hnumbered⟩ := runCalls_start calls next
  obtain ⟨names, hnames⟩ := ht.exists_minting
  have hresults := hr names.iri (Minting.agrees hnames)
  refine ⟨⟨names, hresults, fun label iri hl => ?_⟩, fun ρ next' hρ hinput => ?_⟩
  · rw [ht.labels label] at hl
    obtain ⟨n, hn, rfl⟩ := Option.map_eq_some_iff.mp hl
    exact (Minting.agrees hnames _ n hn).symm
  obtain ⟨N', ht', hr', hnumbered'⟩ := runCalls_start (calls.map (Call.rename ρ)) next'
  obtain ⟨names', hnames'⟩ := ht'.exists_minting
  have hresults' := hr' names'.iri (Minting.agrees hnames')
  have hrenamed : Function.Injective fun b => names'.iri (Blank.rename ρ b) :=
    names'.iri_injective.comp (Blank.rename_injective ρ hρ)
  have hblank : ∀ q ∈ (allDrafts calls).map fun d => (fun b : Blank => b, d), ∀ b ∈ q.2.blanks,
      names.iri (q.1 b) ∈ mintedBy calls next ∪ mintedBy (calls.map (Call.rename ρ)) next' ∧
        names'.iri (Blank.rename ρ (q.1 b)) ∈
          mintedBy calls next ∪ mintedBy (calls.map (Call.rename ρ)) next' := by
    intro q hq b hb
    obtain ⟨d, hd, rfl⟩ := List.mem_map.mp hq
    obtain ⟨ds, hds, hd⟩ := mem_allDrafts_iff.mp hd
    obtain ⟨n, hn⟩ := hnumbered ds hds d hd b hb
    have hds' : .ok (renameAll ρ ds) ∈ draftsOf (calls.map (Call.rename ρ)) := by
      rw [draftsOf_rename]
      exact List.mem_map_of_mem (f := Except.map (renameAll ρ)) hds
    obtain ⟨n', hn'⟩ := hnumbered' _ hds' _ (List.mem_map_of_mem hd) _ (Draft.mem_blanks_rename hb)
    exact ⟨Or.inl (ht.name_mem hnames hn), Or.inr (ht'.name_mem hnames' hn')⟩
  obtain ⟨π, hmoved, hπ⟩ := exists_renaming names.iri_injective hrenamed _ hblank
    fun q hq iri hiri => by
      obtain ⟨d, hd, rfl⟩ := List.mem_map.mp hq
      exact hinput iri (List.mem_flatMap.mpr ⟨d, hd, hiri⟩)
  refine ⟨π, hmoved, ?_⟩
  rw [hresults', hresults, draftsOf_rename, List.map_map, List.map_map]
  refine List.map_congr_left fun outcome houtcome => ?_
  cases outcome with
  | error f => rfl
  | ok ds =>
    refine congrArg Except.ok ?_
    show (ds.map (Draft.rename ρ)).map (Draft.statement names'.iri) =
      (ds.map (Draft.statement names.iri)).map (Statement.renameNodes π)
    rw [List.map_map, List.map_map]
    refine List.map_congr_left fun d hd => ?_
    have hsame := hπ _ (List.mem_map_of_mem (mem_allDrafts_iff.mpr ⟨ds, houtcome, hd⟩))
    exact (Draft.statement_rename ρ names'.iri d).trans hsame

/-- A node, a document that fails after it came to a label, and a node that shares both labels. -/
def shared : List Call :=
  [.node .empty [("@id", .string "_:a"), ("urn:p", .object [("@id", .string "_:b")]),
      ("urn:q", .object [("urn:r", .int 1)])],
    .document .empty (.array [.object [("@id", .string "_:c"), ("urn:p", .int 2)], .null]),
    .node .empty [("@id", .string "_:b"), ("urn:p", .object [("@id", .string "_:a")])]]

/-- The outcomes of the calls name the two labels alike, and the node without an IRI by itself. With
other labels and from another supply they are the same, up to a permutation of IRIs. -/
theorem blank_nodes_keep_identity_of_shared :
    let ρ : String → String := fun l => "x" ++ l
    Function.Injective ρ ∧
      (∀ iri ∈ inputIris shared, iri ∉ mintedBy shared 0 ∪ mintedBy (shared.map (.rename ρ)) 7) ∧
      (runCalls (.start 0) shared).1 =
        [.ok [.ofIri (Skolem.minted 0) "urn:p" (Skolem.minted 1) "",
            .ofLiteral (Skolem.minted 2) "urn:r" "1" "" (some Vocabulary.xsdInteger) none,
            .ofIri (Skolem.minted 0) "urn:q" (Skolem.minted 2) ""],
          .error (.notNode .null),
          .ok [.ofIri (Skolem.minted 1) "urn:p" (Skolem.minted 0) ""]] ∧
      ∃ π : Equiv.Perm String,
        (∀ iri, π iri ≠ iri → iri ∈ mintedBy shared 0 ∪ mintedBy (shared.map (.rename ρ)) 7) ∧
        (runCalls (.start 7) (shared.map (.rename ρ))).1 =
          (runCalls (.start 0) shared).1.map (Except.map (List.map (Statement.renameNodes π))) := by
  intro ρ
  have hρ : Function.Injective ρ := by
    intro l l' h
    have hlist := congrArg String.toList h
    rw [String.toList_append, String.toList_append] at hlist
    exact String.toList_inj.mp (List.append_cancel_left hlist)
  have hother : ∀ iri ∈ inputIris shared,
      ¬ Vocabulary.skolemStart.toList <+: iri.toList := by decide +kernel
  have hinput : ∀ iri ∈ inputIris shared,
      iri ∉ mintedBy shared 0 ∪ mintedBy (shared.map (.rename ρ)) 7 := by
    intro iri hiri hmem
    rcases hmem with hmem | hmem
    · exact not_mem_mintedIn (hother iri hiri) _ _ hmem
    · exact not_mem_mintedIn (hother iri hiri) _ _ hmem
  exact ⟨hρ, hinput, rfl, (blank_nodes_keep_identity shared 0).2 ρ 7 hρ hinput⟩

end GraphLedger.JsonLd
