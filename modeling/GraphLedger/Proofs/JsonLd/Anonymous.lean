import GraphLedger.Proofs.JsonLd.BlankNodes
import GraphLedger.Proofs.JsonLd.Linked
import GraphLedger.Proofs.JsonLd.Translation

/-! # Nested objects without an IRI

A nested object that has no `@id` is linked to by an IRI that is minted for it, whatever was
translated before with the same supply. That the IRI is new is seen from the drafts: they link to the
object by its path, no other node has this path, and in the numbering that the translation leaves
the numbers of the supply before it are all taken by others.

An object that has nothing but `@graph`, with or without `@context`, gets no IRI of its own: it
holds what is in the graph around it, and the link to it is to that graph. In the default graph this
is a link to the empty text.

* `Tells.fill`: a numbering in which all numbers before the next are taken.
* `LinksFresh`: a link to an IRI that is new.
* `anonymous_nodes_skolemized`: to what nested objects without an `@id` are linked.
* `graph_linked_as_node`: links to the default graph and to a named one. -/

namespace GraphLedger.JsonLd

/-! ### Numbers that are taken -/

section Fill
variable {low : Nat} {N : Numbering Blank} {s : Skolem}

open scoped Classical in
/-- A numbering of labels, in which nodes that are not in the first object take the numbers below
some number that no label has. -/
noncomputable def Numbering.filled (N : Numbering Blank) (next : Nat) : Numbering Blank
  | .label l => N (.label l)
  | .unnamed [m + 1] => if m < next ∧ ∀ l, N (.label l) ≠ some m then some m else none
  | .unnamed _ => none

theorem Numbering.filled_unnamed {next n : Nat} {path : List Nat}
    (h : N.filled next (.unnamed path) = some n) :
    path = [n + 1] ∧ n < next ∧ ∀ l, N (.label l) ≠ some n := by
  unfold filled at h
  split at h
  · rename_i hpath
    cases hpath
  · rename_i m hpath
    obtain ⟨hm, hn⟩ := Option.ite_none_right_eq_some.mp h
    cases hpath
    cases hn
    exact ⟨rfl, hm⟩
  · cases h

/-- **All numbers before the next may be taken**, by labels and by nodes that are not in the first
object. -/
theorem Tells.fill (h : Tells low N s) :
    ∃ M : Numbering Blank, Tells 0 M s ∧ Untold (below [0]) M ∧
      ∀ n < s.next, ∃ b, M b = some n := by
  refine ⟨N.filled s.next, ⟨⟨Nat.zero_le _, ?_, ?_⟩, h.labels⟩, ?_, ?_⟩
  · intro b n hb
    cases b with
    | label l => exact ⟨Nat.zero_le n, (h.bounds _ n hb).2⟩
    | unnamed path => exact ⟨Nat.zero_le n, (Numbering.filled_unnamed hb).2.1⟩
  · intro b b' n hb hb'
    cases b with
    | label l =>
      cases b' with
      | label l' => exact h.injective _ _ n hb hb'
      | unnamed path' => exact absurd hb ((Numbering.filled_unnamed hb').2.2 l)
    | unnamed path =>
      cases b' with
      | label l' => exact absurd hb' ((Numbering.filled_unnamed hb).2.2 l')
      | unnamed path' =>
        rw [(Numbering.filled_unnamed hb).1, (Numbering.filled_unnamed hb').1]
  · intro path hpath
    rw [Option.eq_none_iff_forall_ne_some]
    intro n hn
    rw [(Numbering.filled_unnamed hn).1] at hpath
    have heq := List.IsSuffix.eq_of_length hpath rfl
    cases heq
  · intro n hn
    by_cases hlabel : ∃ l, N (.label l) = some n
    · obtain ⟨l, hl⟩ := hlabel
      exact ⟨.label l, hl⟩
    · exact ⟨.unnamed [n + 1], if_pos ⟨hn, fun l hl => hlabel ⟨l, hl⟩⟩⟩

end Fill

/-! ### Links that are new -/

/-- The IRIs of the input that nodes have in the statements of a node in a context and graph. -/
def givenIn (c : Context) (graph : String) (fs : Json.Fields) : List String :=
  match draftChildren c (.given graph) [0] (.object fs) with
  | .ok ds => ds.flatMap Draft.givenIris
  | .error _ => []

/-- **A statement links to a new IRI**: one that is minted between two states of a supply, that no
label has, that is not empty and that is not the graph, unless it is in the input. -/
structure LinksFresh (s s' : Skolem) (given : List String) (st : Statement) (iri : String) :
    Prop where
  object : st.object = .iri iri
  minted : iri ∈ mintedIn s.next s'.next
  unlabelled : ∀ label other, s'.labels.lookup label = some other → other ≠ iri
  nonempty : iri ≠ ""
  graph : iri ∉ given → st.graph ≠ iri

theorem Skolem.minted_ne_empty (n : Nat) : minted n ≠ "" := by
  intro h
  have hlist := congrArg String.toList h
  rw [toList_minted] at hlist
  exact absurd hlist (by simp [Vocabulary.skolemStart])

section Numbered
variable {c : Context} {graph : String} {fs : Json.Fields} {s s' : Skolem} {sts : List Statement}

variable (c graph fs s s' sts) in
/-- **What a node was translated to**, with its drafts and a numbering: its own nodes have numbers
that the supply had not given before. -/
structure Numbered (ds : List Draft) (N : Numbering Blank) : Prop where
  drafts : draftChildren c (.given graph) [0] (.object fs) = .ok ds
  tells : Tells 0 N s'
  later : ∀ path ∈ below [0], ∀ n, N (.unnamed path) = some n → s.next ≤ n
  statements : ∀ ν, Agrees ν N → sts = Draft.statements ν ds

theorem exists_numbered {low : Nat} {N : Numbering Blank} (hs : Tells low N s)
    (h : Gives (ofNodeIn c graph fs) s sts s') :
    ∃ ds N', Numbered c graph fs s s' sts ds N' := by
  obtain ⟨M, hM, huntold, htaken⟩ := hs.fill
  have hG : Is M Ident.iri (.given graph) graph := fun _ _ => rfl
  obtain ⟨N', hgrows, htells, hresult⟩ := follows_children (.object fs) [0] hG s hM huntold
  rw [← ofChildren_object] at h
  rw [show (ofChildren c graph (.object fs)).run.run s = (.ok sts, s') from h] at htells hresult
  obtain ⟨ν₀, hν₀⟩ := exists_agrees N'
  cases hds : draftChildren c (.given graph) [0] (.object fs) with
  | error e =>
    rw [hds] at hresult
    cases hresult ν₀ hν₀
  | ok ds =>
    rw [hds] at hresult
    refine ⟨ds, N', hds, htells, fun path hpath n hn => ?_, fun ν hν => Except.ok.inj (hresult ν hν)⟩
    by_contra hlt
    obtain ⟨b, hb⟩ := htaken n (Nat.lt_of_not_le hlt)
    obtain rfl := htells.injective _ _ n (hgrows.kept b n hb) hn
    rw [huntold path hpath] at hb
    cases hb

namespace Numbered
variable {ds : List Draft} {N : Numbering Blank} {ν : Blank → String} {d e : Draft}
  {path path' : List Nat}

theorem object_eq (h : Numbered c graph fs s s' sts ds N) (hν : Agrees ν N) (hd : d ∈ ds)
    (hpath : d.linked? = some path) :
    ∃ n, N (.unnamed path) = some n ∧ (d.statement ν).object = .iri (Skolem.minted n) := by
  have hobject := Draft.linked?_eq_some.mp hpath
  have hmem : Blank.unnamed path ∈ d.blanks := by
    rw [Draft.mem_blanks_iff, Draft.idents, hobject]
    simp
  obtain ⟨n, hn⟩ := numbered_of_same h.statements hd hmem
  refine ⟨n, hn, ?_⟩
  rw [← hν _ n hn]
  show d.object.object ν = _
  rw [hobject]
  rfl

theorem graph_eq (h : Numbered c graph fs s s' sts ds N) (hν : Agrees ν N) (hd : d ∈ ds)
    (hgraph : ¬ d.graph.IsUnnamed) :
    (d.statement ν).graph ∈ givenIn c graph fs ∨
      ∃ l n, N (.label l) = some n ∧ (d.statement ν).graph = Skolem.minted n := by
  have hidents : d.graph ∈ d.idents := by simp [Draft.idents]
  have hiri : (d.statement ν).graph = d.graph.iri ν := rfl
  rw [hiri]
  cases hg : d.graph with
  | given iri =>
    have hgiven := Draft.mem_givenIris (hg ▸ hidents)
    rw [givenIn, h.drafts]
    exact Or.inl (List.mem_flatMap.mpr ⟨d, hd, hgiven⟩)
  | blank b =>
    cases b with
    | unnamed path => exact absurd ⟨path, hg⟩ hgraph
    | label l =>
      obtain ⟨n, hn⟩ := numbered_of_same h.statements hd (Draft.mem_blanks_iff.mpr (hg ▸ hidents))
      exact Or.inr ⟨l, n, hn, hν _ n hn⟩

/-- **What a draft links to by a path** is new. -/
theorem linksFresh (h : Numbered c graph fs s s' sts ds N) (hν : Agrees ν N) (hd : d ∈ ds)
    (hpath : d.linked? = some path) (hbelow : path ∈ below [0]) (hgraph : ¬ d.graph.IsUnnamed) :
    ∃ iri, LinksFresh s s' (givenIn c graph fs) (d.statement ν) iri := by
  obtain ⟨n, hn, hobject⟩ := h.object_eq hν hd hpath
  have hother : ∀ l m, N (.label l) = some m → Skolem.minted m ≠ Skolem.minted n := by
    intro l m hm hsame
    obtain rfl := Skolem.minted_injective hsame
    cases h.tells.injective _ _ m hm hn
  refine ⟨Skolem.minted n, hobject,
    ⟨n, h.later path hbelow n hn, (h.tells.bounds _ n hn).2, rfl⟩, fun l other hl => ?_,
    Skolem.minted_ne_empty n, fun hnot => ?_⟩
  · rw [h.tells.labels l] at hl
    obtain ⟨m, hm, rfl⟩ := Option.map_eq_some_iff.mp hl
    exact hother l m hm
  · rcases h.graph_eq hν hd hgraph with hgiven | ⟨l, m, hm, hgraph⟩
    · exact fun hsame => hnot (hsame ▸ hgiven)
    · rw [hgraph]
      exact hother l m hm

theorem object_ne (h : Numbered c graph fs s s' sts ds N) (hν : Agrees ν N) (hd : d ∈ ds)
    (he : e ∈ ds) (hpath : d.linked? = some path) (hpath' : e.linked? = some path')
    (hne : path ≠ path') : (d.statement ν).object ≠ (e.statement ν).object := by
  obtain ⟨n, hn, hobject⟩ := h.object_eq hν hd hpath
  obtain ⟨m, hm, hobject'⟩ := h.object_eq hν he hpath'
  rw [hobject, hobject']
  intro hsame
  obtain rfl := Skolem.minted_injective (Object.iri.inj hsame)
  cases h.tells.injective _ _ n hn hm
  exact hne rfl

end Numbered

end Numbered

/-! ### Links to nested objects -/

/-- **Nested objects without an `@id`** are linked to by new IRIs, each by its own, whatever the
context and the graph are and whatever was translated before. Only those with nothing but `@graph`
and `@context` are not: the link to such an object is to the graph that the link is in. -/
theorem anonymous_nodes_skolemized (calls : List Call) (next : Nat) {c : Context} {graph : String}
    {fs : Json.Fields} {s' : Skolem} {sts : List Statement}
    (h : Gives (ofNodeIn c graph fs) (runCalls (.start next) calls).2 sts s') :
    ∃ names : Names,
      List.Forall₂ (fun leaf st => leaf.Makes c graph s' st ∧
        (leaf.IsAnonymousNode → ∃ iri,
          LinksFresh (runCalls (.start next) calls).2 s' (givenIn c graph fs) st iri) ∧
        (leaf.IsAnonymousGraph → st.object = .iri st.graph)) (nodeLeaves names fs) sts ∧
      ((nodeLeaves names fs).zip sts).Pairwise fun x y =>
        x.1.IsAnonymousNode → y.1.IsAnonymousNode → x.2.object ≠ y.2.object := by
  obtain ⟨N₀, hs, -⟩ := runCalls_start calls next
  obtain ⟨names, -, hmade⟩ := (translates_node h).made
  obtain ⟨ds, N, hnumbered⟩ := exists_numbered hs h
  obtain ⟨ν, hν⟩ := exists_agrees N
  have hdrafts : LeafDrafts (below [0]) (childLeaves [] names (.object fs)) ds :=
    leafDrafts_children [] (.object fs) (not_isUnnamed_given graph) hnumbered.drafts
  obtain ⟨hlength, hlinked⟩ := List.forall₂_iff_zip.mp hdrafts.linked
  rw [childLeaves] at hlength hlinked
  have hpath : ∀ {leaf d}, (leaf, d) ∈ (nodeLeaves names fs).zip ds → leaf.IsAnonymousNode →
      ∃ path, d.linked? = some path := fun hmem hleaf =>
    Option.isSome_iff_exists.mp ((hlinked hmem).node hleaf)
  rw [hnumbered.statements ν hν, Draft.statements] at hmade ⊢
  refine ⟨names, ?_, ?_⟩
  · rw [List.forall₂_map_right_iff] at hmade ⊢
    refine List.forall₂_iff_zip.mpr ⟨hlength, fun {leaf d} hmem => ?_⟩
    have hd := (List.of_mem_zip hmem).2
    refine ⟨(List.forall₂_iff_zip.mp hmade).2 hmem, fun hleaf => ?_, fun hleaf => ?_⟩
    · obtain ⟨path, hlink⟩ := hpath hmem hleaf
      have hbelow := hdrafts.paths path (List.mem_filterMap.mpr ⟨d, hd, hlink⟩)
      exact hnumbered.linksFresh hν hd hlink hbelow (hdrafts.graphs d hd)
    · show d.object.object ν = .iri (d.graph.iri ν)
      rw [(hlinked hmem).graph hleaf]
      rfl
  · -- the paths that the drafts link to are all different
    have hpairs : ((nodeLeaves names fs).zip ds).Pairwise fun x y =>
        ∀ p, x.2.linked? = some p → ∀ q, y.2.linked? = some q → p ≠ q := by
      have hnodup := List.pairwise_filterMap.mp hdrafts.nodup
      rw [← List.map_snd_zip hlength.ge, List.pairwise_map] at hnodup
      exact hnodup
    rw [List.zip_map_right, List.pairwise_map]
    refine hpairs.imp_of_mem fun {x y} hx hy hne hx' hy' => ?_
    obtain ⟨p, hp⟩ := hpath hx hx'
    obtain ⟨q, hq⟩ := hpath hy hy'
    exact hnumbered.object_ne hν (List.of_mem_zip hx).2 (List.of_mem_zip hy).2 hp hq (hne p hp q hq)

/-- A call that comes to a label. -/
def labelledCall : Call := .node .empty [("@id", .string "_:a"), ("urn:p", .int 1)]

/-- A node with three nested objects, of which the first only holds what is in a graph. -/
def nesting : Json.Fields :=
  [("@id", .string "urn:s"),
    ("urn:p", .array [.object [("@graph", .array [])], .object [("urn:q", .object [])]])]

/-- The statements of the node. -/
def nestingStatements : List Statement :=
  [Statement.ofIri "urn:s" "urn:p" "" "",
    Statement.ofIri (Skolem.minted 1) "urn:q" (Skolem.minted 2) "",
    Statement.ofIri "urn:s" "urn:p" (Skolem.minted 1) ""]

theorem anonymous_nodes_skolemized_of_nesting :
    Gives (ofNodeIn .empty "" nesting) (runCalls (.start 0) [labelledCall]).2 nestingStatements
        ⟨3, [("a", Skolem.minted 0)]⟩ ∧
      ∃ names : Names,
        List.Forall₂ (fun leaf st =>
          leaf.Makes .empty "" ⟨3, [("a", Skolem.minted 0)]⟩ st ∧
          (leaf.IsAnonymousNode → ∃ iri, LinksFresh (runCalls (.start 0) [labelledCall]).2
            ⟨3, [("a", Skolem.minted 0)]⟩ (givenIn .empty "" nesting) st iri) ∧
          (leaf.IsAnonymousGraph → st.object = .iri st.graph))
          (nodeLeaves names nesting) nestingStatements ∧
        ((nodeLeaves names nesting).zip nestingStatements).Pairwise fun x y =>
          x.1.IsAnonymousNode → y.1.IsAnonymousNode → x.2.object ≠ y.2.object := by
  have h : Gives (ofNodeIn .empty "" nesting) (runCalls (.start 0) [labelledCall]).2
      nestingStatements ⟨3, [("a", Skolem.minted 0)]⟩ := rfl
  exact ⟨h, anonymous_nodes_skolemized [labelledCall] 0 h⟩

/-- A nested object that has nothing but `@graph` is linked to by the empty text in the default
graph, and by the IRI of the graph in a named one. No identifier is taken from the supply. -/
theorem graph_linked_as_node :
    let holder : Json.Fields :=
      [("@id", .string "urn:s"), ("urn:p", .object [("@graph", .array [])])]
    Gives (ofNodeIn .empty "" holder) (.start 0) [Statement.ofIri "urn:s" "urn:p" "" ""]
        (.start 0) ∧
      Gives (ofNodeIn .empty "urn:g" holder) (.start 0)
        [Statement.ofIri "urn:s" "urn:p" "urn:g" "urn:g"] (.start 0) :=
  ⟨rfl, rfl⟩

end GraphLedger.JsonLd
