import GraphLedger.Proofs.Config.Runnable
import GraphLedger.Proofs.JsonLd.Following
import GraphLedger.Proofs.JsonLd.Objects

/-! # The drafts of leaves

Drafts are made along the same walk on which the leaves of a node are listed, so that there is one
draft for each leaf. A nested object without an `@id` is linked to by its path, unless it has nothing
but `@graph` and `@context`: then it is linked to as the graph around it. No two nested objects have
the same path, and no graph is told by a path, if the outermost one is not.

* `Leaf.IsAnonymousNode`, `Leaf.IsAnonymousGraph`: nested objects without an `@id`.
* `Leaf.LinkedBy`: what the draft of a leaf links to.
* `LeafDrafts`: the drafts of leaves, with the paths that they link to.
* `leafDrafts_value`, `leafDrafts_fields`, `leafDrafts_children`: so it is for each part of a
  node. -/

namespace GraphLedger.JsonLd

/-! ### Links -/

namespace Leaf

/-- Whether a leaf is a nested node that has no `@id`. -/
def IsAnonymousNode : Leaf → Prop
  | .node _ _ nested =>
    Json.Fields.get? nested.fields "@id" = none ∧ isContainer nested.fields = false
  | _ => False

/-- Whether a leaf is a nested object that has no `@id` and only holds what is in a graph. -/
def IsAnonymousGraph : Leaf → Prop
  | .node _ _ nested =>
    Json.Fields.get? nested.fields "@id" = none ∧ isContainer nested.fields = true
  | _ => False

end Leaf

/-- The path to the node that a draft links to, if it is told by a path. -/
def Draft.linked? (d : Draft) : Option (List Nat) :=
  match d.object with
  | .node (.blank (.unnamed path)) => some path
  | _ => none

/-- Whether a node is told by a path. -/
def Ident.IsUnnamed (id : Ident) : Prop := ∃ path, id = .blank (.unnamed path)

/-- Whether a draft links to the object of a leaf as it should: by its path, or as the graph around
it if it only holds what is in a graph. -/
structure Leaf.LinkedBy (leaf : Leaf) (d : Draft) : Prop where
  node : leaf.IsAnonymousNode → d.linked?.isSome = true
  graph : leaf.IsAnonymousGraph → d.object = .node d.graph

theorem Draft.linked?_eq_some {d : Draft} {path : List Nat} :
    d.linked? = some path ↔ d.object = .node (.blank (.unnamed path)) := by
  unfold Draft.linked?
  constructor
  · intro h
    split at h
    · rename_i hobject
      cases h
      exact hobject
    · cases h
  · intro h
    rw [h]

theorem not_isUnnamed_given (iri : String) : ¬ (Ident.given iri).IsUnnamed := by
  rintro ⟨path, h⟩
  cases h

theorem not_isUnnamed_ident (c : Context) (id : String) : ¬ (ident c id).IsUnnamed := by
  rintro ⟨path, h⟩
  unfold ident at h
  split at h <;> cases h

/-! ### The drafts of leaves -/

/-- **The drafts of leaves**: one each, in which no path occurs twice and all are from a set, while
no graph is told by a path. -/
structure LeafDrafts (U : Set (List Nat)) (leaves : List Leaf) (ds : List Draft) : Prop where
  linked : List.Forall₂ Leaf.LinkedBy leaves ds
  paths : ∀ path ∈ ds.filterMap Draft.linked?, path ∈ U
  nodup : (ds.filterMap Draft.linked?).Nodup
  graphs : ∀ d ∈ ds, ¬ d.graph.IsUnnamed

namespace LeafDrafts
variable {U V W : Set (List Nat)} {leaves rest : List Leaf} {ds es : List Draft}

theorem nil (U : Set (List Nat)) : LeafDrafts U [] [] :=
  ⟨.nil, fun _ h => (List.not_mem_nil h).elim, .nil, fun _ h => (List.not_mem_nil h).elim⟩

theorem mono (h : LeafDrafts U leaves ds) (hU : U ⊆ V) : LeafDrafts V leaves ds :=
  ⟨h.linked, fun path hpath => hU (h.paths path hpath), h.nodup, h.graphs⟩

theorem single {leaf : Leaf} {d : Draft} (hlinked : leaf.LinkedBy d) (hd : d.linked? = none)
    (hgraph : ¬ d.graph.IsUnnamed) : LeafDrafts U [leaf] [d] := by
  refine ⟨.cons hlinked .nil, ?_, ?_, List.forall_mem_singleton.mpr hgraph⟩
  · rw [List.filterMap_cons_none hd]
    exact fun _ h => (List.not_mem_nil h).elim
  · rw [List.filterMap_cons_none hd]
    exact .nil

theorem path {leaf : Leaf} {d : Draft} {path : List Nat} (hlinked : leaf.LinkedBy d)
    (hd : d.linked? = some path) (hgraph : ¬ d.graph.IsUnnamed) :
    LeafDrafts {path} [leaf] [d] := by
  refine ⟨.cons hlinked .nil, ?_, ?_, List.forall_mem_singleton.mpr hgraph⟩
  · rw [List.filterMap_cons_some hd]
    exact fun q hq => List.mem_singleton.mp hq
  · rw [List.filterMap_cons_some hd]
    exact List.nodup_singleton path

theorem append (h : LeafDrafts U leaves ds) (h' : LeafDrafts V rest es) (hd : Disjoint U V)
    (hU : U ⊆ W) (hV : V ⊆ W) : LeafDrafts W (leaves ++ rest) (ds ++ es) := by
  refine ⟨List.rel_append h.linked h'.linked, fun q hq => ?_, ?_, fun d hd => ?_⟩
  · rw [List.filterMap_append] at hq
    rcases List.mem_append.mp hq with hq | hq
    · exact hU (h.paths q hq)
    · exact hV (h'.paths q hq)
  · rw [List.filterMap_append]
    exact List.nodup_append'.mpr ⟨h.nodup, h'.nodup, fun q hq hq' =>
      Set.disjoint_left.mp hd (h.paths q hq) (h'.paths q hq')⟩
  · rcases List.mem_append.mp hd with hd | hd
    · exact h.graphs d hd
    · exact h'.graphs d hd

theorem later {path : List Nat} {i : Nat} (h : LeafDrafts (below (i :: path)) leaves ds)
    (h' : LeafDrafts (behind path (i + 1)) rest es) :
    LeafDrafts (behind path i) (leaves ++ rest) (ds ++ es) :=
  h.append h' (disjoint_below_behind path i) (below_subset_behind path i)
    (behind_succ_subset path i)

end LeafDrafts

theorem append_eq_ok {t u : Except Fault (List Draft)} {ds : List Draft}
    (h : (do let first ← t; let rest ← u; return first ++ rest) = .ok ds) :
    ∃ first rest, t = .ok first ∧ u = .ok rest ∧ ds = first ++ rest := by
  obtain ⟨first, hfirst, hu⟩ := bind_eq_ok_iff.mp h
  obtain ⟨rest, hrest, hpure⟩ := bind_eq_ok_iff.mp hu
  cases hpure
  exact ⟨first, rest, hfirst, hrest, rfl⟩

/-! ### Headers -/

/-- **The draft of a header**: its graph is told by no path; an object without an `@id` stands for
the graph around it, or is told by its path. -/
theorem draftHeader_eq_ok {c : Context} {G : Ident} {path : List Nat} {fs : Json.Fields}
    {h : DraftHeader} (hG : ¬ G.IsUnnamed) (hh : draftHeader c G path fs = .ok h) :
    ¬ h.graph.IsUnnamed ∧
      match Json.Fields.get? fs "@id" with
      | some _ => ¬ h.id.IsUnnamed
      | none => h.id = if isContainer fs then G else .blank (.unnamed path) := by
  unfold draftHeader at hh
  obtain ⟨inner, -, hread⟩ := bind_eq_ok_iff.mp hh
  obtain ⟨found, hfound, hpure⟩ := bind_eq_ok_iff.mp hread
  cases found with
  | some id =>
    cases hpure
    rw [explicitId_eq_some hfound]
    refine ⟨?_, not_isUnnamed_ident inner id⟩
    dsimp only
    split
    · exact not_isUnnamed_ident inner id
    · exact hG
  | none =>
    cases hpure
    rw [explicitId_eq_none hfound]
    exact ⟨hG, rfl⟩

theorem linked?_link {P : DraftPlace} {id : Ident} (h : ¬ id.IsUnnamed) :
    (P.link id).linked? = none := by
  rw [Option.eq_none_iff_forall_ne_some]
  intro path hpath
  exact h ⟨path, DraftObject.node.inj (Draft.linked?_eq_some.mp hpath)⟩

namespace LeafDrafts
variable {U : Set (List Nat)} {P : DraftPlace} {path : List Nat} {leaves : List Leaf}
  {ds : List Draft}

theorem literal (hG : ¬ P.graph.IsUnnamed) (around : List Level) (key : String) (v : Json)
    (value : String) (dataType language : Option String) :
    LeafDrafts U [.value around key v] [P.literal value dataType language] :=
  .single ⟨fun h => h.elim, fun h => h.elim⟩ rfl hG

theorem reference (hG : ¬ P.graph.IsUnnamed) (around : List Level) (key : String) (v : Json)
    (c : Context) (id : String) : LeafDrafts U [.value around key v] [P.link (ident c id)] :=
  .single ⟨fun h => h.elim, fun h => h.elim⟩ (linked?_link (not_isUnnamed_ident c id)) hG

/-- **The draft of the link to a nested object**, after those of its fields. -/
theorem nested {c : Context} {fs : Json.Fields} {h : DraftHeader} (hG : ¬ P.graph.IsUnnamed)
    (hh : draftHeader c P.graph path fs = .ok h) (hfields : LeafDrafts (behind path 0) leaves ds)
    (around : List Level) (key : String) (name : Name) :
    LeafDrafts (below path) (leaves ++ [.node around key ⟨fs, name⟩]) (ds ++ [P.link h.id]) := by
  have hid := (draftHeader_eq_ok hG hh).2
  have hlink : LeafDrafts {path} [.node around key ⟨fs, name⟩] [P.link h.id] := by
    cases hget : Json.Fields.get? fs "@id" with
    | some v =>
      rw [hget] at hid
      refine .single ⟨fun hleaf => ?_, fun hleaf => ?_⟩ (linked?_link hid) hG
      · cases hget.symm.trans hleaf.1
      · cases hget.symm.trans hleaf.1
    | none =>
      rw [hget] at hid
      cases hcontainer : isContainer fs with
      | true =>
        have hself : h.id = P.graph := by rw [hid, hcontainer]; rfl
        rw [hself]
        refine .single ⟨fun hleaf => ?_, fun _ => rfl⟩ (linked?_link hG) hG
        cases hcontainer.symm.trans hleaf.2
      | false =>
        have hpath : h.id = .blank (.unnamed path) := by rw [hid, hcontainer]; rfl
        rw [hpath]
        refine .path ⟨fun _ => rfl, fun hleaf => ?_⟩ rfl hG
        cases hcontainer.symm.trans hleaf.2
  exact hfields.append hlink (disjoint_self_behind path 0).symm (behind_subset_below path 0)
    (self_subset_below path)

theorem types {c : Context} {S G : Ident} (hG : ¬ G.IsUnnamed) (around : List Level) :
    ∀ (vs : List Json) {ds : List Draft}, draftTypes c S G vs = .ok ds →
      LeafDrafts ∅ (vs.map (.type around)) ds
  | [], ds, h => by
    cases h
    exact .nil ∅
  | .string t :: vs, ds, h => by
    rw [draftTypes] at h
    cases hrest : draftTypes c S G vs with
    | error e => rw [hrest] at h; cases h
    | ok rest =>
      rw [hrest] at h
      cases h
      have hfirst : LeafDrafts ∅ [.type around (.string t)]
          [DraftPlace.link ⟨S, Vocabulary.rdfType, G⟩ (.given (c.expandTerm t))] :=
        .single ⟨fun h => h.elim, fun h => h.elim⟩ (linked?_link (not_isUnnamed_given _)) hG
      exact hfirst.append (types hG around vs hrest) (Set.disjoint_empty ∅) subset_rfl subset_rfl
  | .null :: vs, ds, h | .bool b :: vs, ds, h | .int n :: vs, ds, h | .float x :: vs, ds, h
  | .array items :: vs, ds, h | .object fs :: vs, ds, h => by cases h

end LeafDrafts

/-! ### Parts of a node -/

mutual

theorem leafDrafts_value (around : List Level) (key : String) : ∀ (v : Json) {c : Context}
    {P : DraftPlace} {coercion : Option Coercion} {path : List Nat} {names : Names}
    {ds : List Draft}, ¬ P.graph.IsUnnamed → draftValue c P coercion path v = .ok ds →
    LeafDrafts (below path) (valueLeaves around key names v) ds
  | .null, c, P, coercion, path, names, ds, hG, h => by
    rw [draftValue] at h
    cases h
    exact .nil _
  | .bool b, c, P, coercion, path, names, ds, hG, h
  | .int n, c, P, coercion, path, names, ds, hG, h
  | .float x, c, P, coercion, path, names, ds, hG, h => by
    rw [draftValue] at h
    cases h
    exact .literal hG around key _ _ _ _
  | .string x, c, P, coercion, path, names, ds, hG, h => by
    cases coercion with
    | none =>
      rw [draftValue] at h
      cases h
      exact .literal hG around key _ _ _ _
    | some co =>
      cases co with
      | id =>
        rw [draftValue] at h
        cases h
        exact .reference hG around key _ c x
      | datatype d =>
        rw [draftValue] at h
        cases h
        exact .literal hG around key _ _ _ _
  | .array items, c, P, coercion, path, names, ds, hG, h => by
    rw [draftValue] at h
    exact (leafDrafts_items around key items hG h).mono (behind_subset_below path 0)
  | .object fs, c, P, coercion, path, names, ds, hG, h => by
    rw [draftValue] at h
    rw [valueLeaves]
    cases hvalue : Json.Fields.get? fs "@value" with
    | some literal =>
      rw [hvalue] at h
      obtain ⟨d, hd, hpure⟩ := bind_eq_ok_iff.mp h
      cases hpure
      unfold draftLiteral at hd
      cases hst : valueObject c ⟨"", "", ""⟩ literal fs with
      | error e => rw [hst] at hd; cases hd
      | ok st =>
        rw [hst] at hd
        cases hd
        exact .literal hG around key _ _ _ _
    | none =>
      rw [hvalue] at h
      dsimp only at h ⊢
      by_cases hlist : Json.Fields.has fs "@list" = true
      · rw [if_pos hlist] at h ⊢
        exact leafDrafts_key around key "@list" fs hG h
      rw [if_neg hlist] at h ⊢
      by_cases hset : Json.Fields.has fs "@set" = true
      · rw [if_pos hset] at h ⊢
        exact leafDrafts_key around key "@set" fs hG h
      rw [if_neg hset] at h ⊢
      by_cases href : isReference fs = true
      · rw [if_pos href] at h ⊢
        cases h
        exact .reference hG around key _ c _
      · rw [if_neg href] at h ⊢
        obtain ⟨hd, hheader, hbody⟩ := bind_eq_ok_iff.mp h
        obtain ⟨inner, hfields, hpure⟩ := bind_eq_ok_iff.mp hbody
        cases hpure
        have hgraph := (draftHeader_eq_ok hG hheader).1
        exact .nested hG hheader (leafDrafts_fields _ fs hgraph hfields) around key _

theorem leafDrafts_items (around : List Level) (key : String) : ∀ (vs : List Json) {c : Context}
    {P : DraftPlace} {coercion : Option Coercion} {path : List Nat} {i : Nat} {names : Names}
    {ds : List Draft}, ¬ P.graph.IsUnnamed → draftItems c P coercion path i vs = .ok ds →
    LeafDrafts (behind path i) (itemLeaves around key names vs) ds
  | [], c, P, coercion, path, i, names, ds, hG, h => by
    rw [draftItems] at h
    cases h
    exact .nil _
  | v :: vs, c, P, coercion, path, i, names, ds, hG, h => by
    rw [draftItems] at h
    obtain ⟨first, rest, hfirst, hrest, rfl⟩ := append_eq_ok h
    exact (leafDrafts_value around key v hG hfirst).later (leafDrafts_items around key vs hG hrest)

theorem leafDrafts_key (around : List Level) (key keyword : String) :
    ∀ (fs : List (String × Json)) {c : Context} {P : DraftPlace} {coercion : Option Coercion}
    {path : List Nat} {names : Names} {ds : List Draft}, ¬ P.graph.IsUnnamed →
    draftKey c P coercion path keyword fs = .ok ds →
    LeafDrafts (below path) (keyLeaves around key names keyword fs) ds
  | [], c, P, coercion, path, names, ds, hG, h => by
    rw [draftKey] at h
    cases h
    exact .nil _
  | (k, v) :: fs, c, P, coercion, path, names, ds, hG, h => by
    rw [draftKey] at h
    rw [keyLeaves]
    by_cases hk : k = keyword
    · rw [if_pos hk] at h ⊢
      exact leafDrafts_value around key v hG h
    · rw [if_neg hk] at h ⊢
      exact leafDrafts_key around key keyword fs hG h

theorem leafDrafts_fields (around : List Level) : ∀ (fs : List (String × Json)) {c : Context}
    {S G : Ident} {path : List Nat} {i : Nat} {names : Names} {ds : List Draft},
    ¬ G.IsUnnamed → draftFields c S G path i fs = .ok ds →
    LeafDrafts (behind path i) (fieldLeaves around names fs) ds
  | [], c, S, G, path, i, names, ds, hG, h => by
    rw [draftFields] at h
    cases h
    exact .nil _
  | (k, v) :: fs, c, S, G, path, i, names, ds, hG, h => by
    rw [draftFields] at h
    rw [fieldLeaves]
    have happend : ∀ {d : Except Fault (List Draft)} {leaves : List Leaf},
        (∀ {first}, d = .ok first → LeafDrafts (below (i :: path)) leaves first) →
        (do let first ← d; let rest ← draftFields c S G path (i + 1) fs; return first ++ rest)
          = .ok ds →
        LeafDrafts (behind path i) (leaves ++ fieldLeaves around names.rest fs) ds := by
      intro d leaves hd hds
      obtain ⟨first, rest, hfirst, hrest, rfl⟩ := append_eq_ok hds
      exact (hd hfirst).later (leafDrafts_fields around fs hG hrest)
    by_cases htype : k = "@type"
    · rw [if_pos htype] at h ⊢
      exact happend (fun hd => (LeafDrafts.types hG around v.asItems hd).mono
        (Set.empty_subset _)) h
    rw [if_neg htype] at h ⊢
    by_cases hgraph : k = "@graph"
    · rw [if_pos hgraph] at h ⊢
      exact happend (leafDrafts_children around v hG) h
    rw [if_neg hgraph] at h ⊢
    by_cases hkeyword : isKeyword k = true
    · rw [if_pos hkeyword] at h ⊢
      exact happend (d := .ok []) (fun hd => by cases hd; exact .nil _) h
    · rw [if_neg hkeyword] at h ⊢
      exact happend (leafDrafts_value around k v hG) h

theorem leafDrafts_children (around : List Level) : ∀ (v : Json) {c : Context} {G : Ident}
    {path : List Nat} {names : Names} {ds : List Draft}, ¬ G.IsUnnamed →
    draftChildren c G path v = .ok ds → LeafDrafts (below path) (childLeaves around names v) ds
  | .array items, c, G, path, names, ds, hG, h => by
    rw [draftChildren] at h
    exact (leafDrafts_childList around items hG h).mono (behind_subset_below path 0)
  | .object fs, c, G, path, names, ds, hG, h => by
    rw [draftChildren] at h
    obtain ⟨hd, hheader, hfields⟩ := bind_eq_ok_iff.mp h
    exact (leafDrafts_fields _ fs (draftHeader_eq_ok hG hheader).1 hfields).mono
      (behind_subset_below path 0)
  | .null, c, G, path, names, ds, hG, h | .bool b, c, G, path, names, ds, hG, h
  | .int n, c, G, path, names, ds, hG, h | .float x, c, G, path, names, ds, hG, h
  | .string x, c, G, path, names, ds, hG, h => by cases h

theorem leafDrafts_childList (around : List Level) : ∀ (vs : List Json) {c : Context} {G : Ident}
    {path : List Nat} {i : Nat} {names : Names} {ds : List Draft}, ¬ G.IsUnnamed →
    draftChildList c G path i vs = .ok ds →
    LeafDrafts (behind path i) (childListLeaves around names vs) ds
  | [], c, G, path, i, names, ds, hG, h => by
    rw [draftChildList] at h
    cases h
    exact .nil _
  | .object fs :: vs, c, G, path, i, names, ds, hG, h => by
    rw [draftChildList] at h
    obtain ⟨hd, hheader, hbody⟩ := bind_eq_ok_iff.mp h
    obtain ⟨first, rest, hfirst, hrest, rfl⟩ := append_eq_ok hbody
    have hfields : LeafDrafts _ (fieldLeaves _ names.first.inside fs) first :=
      leafDrafts_fields (⟨fs, names.first.name⟩ :: around) fs (draftHeader_eq_ok hG hheader).1 hfirst
    exact (hfields.mono (behind_subset_below (i :: path) 0)).later
      (leafDrafts_childList around vs hG hrest)
  | .null :: vs, c, G, path, i, names, ds, hG, h | .bool b :: vs, c, G, path, i, names, ds, hG, h
  | .int n :: vs, c, G, path, i, names, ds, hG, h
  | .float x :: vs, c, G, path, i, names, ds, hG, h
  | .string x :: vs, c, G, path, i, names, ds, hG, h
  | .array items :: vs, c, G, path, i, names, ds, hG, h => by cases h

end

end GraphLedger.JsonLd
