import GraphLedger.Proofs.JsonLd.Draft
import GraphLedger.Proofs.JsonLd.Objects

/-! # Labels that are renamed

Labels stand in the `@id` of nodes and references, and in strings that are values of terms whose
values are identifiers. Which strings these are depends on the contexts inside objects, so labels
are renamed along the walk of a translation: what is no identifier there stays as it is, even if it
looks like a label. Renaming changes no key, and no context; so the drafts of what is renamed are
the drafts with their labels renamed, and what cannot be drafted fails in the same way.

* `renameValue`, `renameFields`, `renameNode`, `renameDocument`: labels of the input renamed.
* `Draft.rename`: labels of a draft renamed.
* `draftNode_rename`, `draftDocument_rename`: both come to the same. -/

namespace GraphLedger.JsonLd

section Rename
variable (ρ : String → String)

/-! ### In the input -/

/-- An identifier with its label renamed, if it is one. -/
def renameId (id : String) : String :=
  match id.toList with
  | '_' :: ':' :: label => "_:" ++ ρ (String.ofList label)
  | _ => id

/-- The value of `@id` with its label renamed. -/
def renameIdValue : Json → Json
  | .string id => .string (renameId ρ id)
  | v => v

mutual

/-- The value of a property with its labels renamed. -/
def renameValue (c : Context) (coercion : Option Coercion) : Json → Json
  | .string s => .string (if coercion = some .id then renameId ρ s else s)
  | .array items => .array (renameItems c coercion items)
  | .object fs =>
    .object <|
      if Json.Fields.has fs "@value" then fs
      else if Json.Fields.has fs "@list" then renameKey c coercion "@list" fs
      else if Json.Fields.has fs "@set" then renameKey c coercion "@set" fs
      else if isReference fs then renameFields c fs
      else
        match innerContext c fs with
        | .ok inner => renameFields inner fs
        | .error _ => fs
  | v => v

/-- Several values of a property with their labels renamed. -/
def renameItems (c : Context) (coercion : Option Coercion) : List Json → List Json
  | [] => []
  | v :: vs => renameValue c coercion v :: renameItems c coercion vs

/-- A list or set object with the labels in the value of its key renamed. -/
def renameKey (c : Context) (coercion : Option Coercion) (key : String) :
    List (String × Json) → List (String × Json)
  | [] => []
  | (k, v) :: fs =>
    (k, if k = key then renameValue c coercion v else v) :: renameKey c coercion key fs

/-- The fields of a node with their labels renamed, given the context inside the node. -/
def renameFields (c : Context) : List (String × Json) → List (String × Json)
  | [] => []
  | (k, v) :: fs =>
    (k, if k = "@id" then renameIdValue ρ v
      else if k = "@graph" then renameChildren c v
      else if isKeyword k then v
      else renameValue c (c.coercion? k) v) :: renameFields c fs

/-- What a graph holds with its labels renamed. -/
def renameChildren (c : Context) : Json → Json
  | .array items => .array (renameChildList c items)
  | .object fs =>
    .object <|
      match innerContext c fs with
      | .ok inner => renameFields inner fs
      | .error _ => fs
  | v => v

/-- Several objects in a graph with their labels renamed. -/
def renameChildList (c : Context) : List Json → List Json
  | [] => []
  | .object fs :: vs =>
    (.object <|
      match innerContext c fs with
      | .ok inner => renameFields inner fs
      | .error _ => fs) :: renameChildList c vs
  | v :: vs => v :: renameChildList c vs

end

/-- A node with its labels renamed. -/
def renameNode (c : Context) (fs : Json.Fields) : Json.Fields :=
  match innerContext c fs with
  | .ok inner => renameFields ρ inner fs
  | .error _ => fs

/-- A document with its labels renamed. -/
def renameDocument (c : Context) (v : Json) : Json := renameChildren ρ c v

/-! ### In drafts -/

/-- A blank node with its label renamed. -/
def Blank.rename : Blank → Blank
  | .label l => .label (ρ l)
  | .unnamed path => .unnamed path

/-- What stands for a node, with its label renamed. -/
def Ident.rename : Ident → Ident
  | .given iri => .given iri
  | .blank b => .blank (b.rename ρ)

/-- The object of a draft with its label renamed. -/
def DraftObject.rename : DraftObject → DraftObject
  | .node id => .node (id.rename ρ)
  | .literal value => .literal value

/-- A draft with its labels renamed. -/
def Draft.rename (d : Draft) : Draft :=
  ⟨d.subject.rename ρ, d.predicate, d.object.rename ρ, d.graph.rename ρ, d.dataType, d.language⟩

/-- A place with its labels renamed. -/
def DraftPlace.rename (p : DraftPlace) : DraftPlace :=
  ⟨p.subject.rename ρ, p.predicate, p.graph.rename ρ⟩

/-- A header with its labels renamed. -/
def DraftHeader.rename (h : DraftHeader) : DraftHeader :=
  ⟨h.context, h.graph.rename ρ, h.id.rename ρ⟩

theorem Draft.statement_rename (α : Blank → String) (d : Draft) :
    (d.rename ρ).statement α = d.statement fun b => α (b.rename ρ) := by
  have hiri : ∀ id : Ident, (id.rename ρ).iri α = id.iri fun b => α (b.rename ρ) := fun id => by
    cases id <;> rfl
  have hobject : (d.object.rename ρ).object α = d.object.object fun b => α (b.rename ρ) := by
    cases hd : d.object with
    | node id => exact congrArg Object.iri (hiri id)
    | literal value => rfl
  unfold Draft.statement Draft.rename
  rw [hiri, hiri, hobject]

theorem Blank.rename_injective (h : Function.Injective ρ) :
    Function.Injective (Blank.rename ρ) := by
  intro b b' hb
  cases b with
  | label l =>
    cases b' with
    | label l' => rw [h (Blank.label.inj hb)]
    | unnamed path => cases hb
  | unnamed path =>
    cases b' with
    | label l' => cases hb
    | unnamed path' => exact hb

theorem ident_renameId (c : Context) (id : String) :
    ident c (renameId ρ id) = (ident c id).rename ρ := by
  by_cases hlabel : ∃ label, id.toList = '_' :: ':' :: label
  · obtain ⟨label, hid⟩ := hlabel
    have hrename : renameId ρ id = "_:" ++ ρ (String.ofList label) := by
      rw [renameId, hid]
      rfl
    have hlist : (renameId ρ id).toList = '_' :: ':' :: (ρ (String.ofList label)).toList := by
      rw [hrename, String.toList_append]
      rfl
    rw [ident_of_label c hid, ident_of_label c hlist, String.ofList_toList]
    rfl
  · have hrename : renameId ρ id = id := by
      unfold renameId
      split
      · exact absurd ⟨_, ‹_›⟩ hlabel
      · rfl
    rw [hrename, ident_of_not_label c hlabel]
    rfl

/-! ### Keys and keywords stay -/

theorem keys_renameFields (c : Context) : ∀ fs : List (String × Json),
    (renameFields ρ c fs).map Prod.fst = fs.map Prod.fst
  | [] => by rw [renameFields]
  | (k, v) :: fs => by
    rw [renameFields, List.map_cons, keys_renameFields c fs]
    rfl

theorem keys_renameKey (c : Context) (coercion : Option Coercion) (key : String) :
    ∀ fs : List (String × Json), (renameKey ρ c coercion key fs).map Prod.fst = fs.map Prod.fst
  | [] => by rw [renameKey]
  | (k, v) :: fs => by
    rw [renameKey, List.map_cons, keys_renameKey c coercion key fs]
    rfl

section Keys
variable {fs fs' : Json.Fields} (h : fs'.map Prod.fst = fs.map Prod.fst)
include h

theorem has_congr (key : String) : Json.Fields.has fs' key = Json.Fields.has fs key := by
  have hany : ∀ l : Json.Fields, Json.Fields.has l key = (l.map Prod.fst).any (· == key) :=
    fun l => by rw [List.any_map]; rfl
  rw [hany, hany, h]

theorem all_congr (q : String → Bool) : (fs'.all fun f => q f.1) = fs.all fun f => q f.1 := by
  have hall : ∀ l : Json.Fields, (l.all fun f => q f.1) = (l.map Prod.fst).all q :=
    fun l => by rw [List.all_map]; rfl
  rw [hall, hall, h]

theorem isContainer_congr : isContainer fs' = isContainer fs := by
  rw [isContainer, isContainer, has_congr h, all_congr h]

theorem isReference_congr : isReference fs' = isReference fs := by
  rw [isReference, isReference, has_congr h, all_congr h fun k => k = "@id" || k = "@context"]

end Keys

theorem get?_renameFields (c : Context) {key : String} (hid : key ≠ "@id")
    (hgraph : key ≠ "@graph") (hkeyword : isKeyword key = true) (fs : List (String × Json)) :
    Json.Fields.get? (renameFields ρ c fs) key = Json.Fields.get? fs key := by
  unfold Json.Fields.get?
  induction fs with
  | nil => rw [renameFields]
  | cons f fs ih =>
    obtain ⟨k, v⟩ := f
    rw [renameFields, List.lookup_cons, List.lookup_cons, ih]
    by_cases hk : key = k
    · subst hk
      rw [if_neg hid, if_neg hgraph, if_pos hkeyword]
    · rw [beq_eq_false_iff_ne.mpr hk]

theorem get?_id_renameFields (c : Context) (fs : List (String × Json)) :
    Json.Fields.get? (renameFields ρ c fs) "@id" =
      (Json.Fields.get? fs "@id").map (renameIdValue ρ) := by
  unfold Json.Fields.get?
  induction fs with
  | nil => rw [renameFields]; rfl
  | cons f fs ih =>
    obtain ⟨k, v⟩ := f
    rw [renameFields, List.lookup_cons, List.lookup_cons, ih]
    by_cases hk : "@id" = k
    · subst hk
      rfl
    · rw [beq_eq_false_iff_ne.mpr hk]

theorem innerContext_renameFields (c inner : Context) (fs : List (String × Json)) :
    innerContext c (renameFields ρ inner fs) = innerContext c fs := by
  rw [innerContext, get?_renameFields ρ inner (by decide) (by decide) (by decide), innerContext]

theorem explicitId_renameFields (c : Context) (fs : List (String × Json)) :
    explicitId (renameFields ρ c fs) = (explicitId fs).map (Option.map (renameId ρ)) := by
  rw [explicitId, get?_id_renameFields, explicitId]
  cases Json.Fields.get? fs "@id" with
  | none => rfl
  | some v => cases v <;> rfl

/-! ### Drafts of what is renamed -/

/-- Drafts with their labels renamed. -/
def renameAll (ds : List Draft) : List Draft := ds.map (Draft.rename ρ)

theorem renameAll_append (ds es : List Draft) :
    renameAll ρ (ds ++ es) = renameAll ρ ds ++ renameAll ρ es := List.map_append

theorem map_append {d d' : Except Fault (List Draft)} :
    (do let ds ← d.map (renameAll ρ); let rest ← d'.map (renameAll ρ); return ds ++ rest) =
      (do let ds ← d; let rest ← d'; return ds ++ rest : Except Fault (List Draft)).map
        (renameAll ρ) := by
  cases d with
  | error f => rfl
  | ok ds =>
    cases d' with
    | error f => rfl
    | ok es => exact congrArg Except.ok (renameAll_append ρ ds es).symm

theorem draftTypes_rename (c : Context) (S G : Ident) (vs : List Json) :
    draftTypes c (S.rename ρ) (G.rename ρ) vs = (draftTypes c S G vs).map (renameAll ρ) := by
  induction vs with
  | nil => rfl
  | cons v vs ih =>
    cases v with
    | string t =>
      rw [draftTypes, draftTypes, ih]
      cases draftTypes c S G vs <;> rfl
    | _ => rfl

theorem draftHeader_rename {c inner : Context} {fs : Json.Fields}
    (hinner : innerContext c fs = .ok inner) (G : Ident) (path : List Nat) :
    draftHeader c (G.rename ρ) path (renameFields ρ inner fs) =
      (draftHeader c G path fs).map (DraftHeader.rename ρ) := by
  have hcontainer := isContainer_congr (keys_renameFields ρ inner fs)
  unfold draftHeader
  rw [innerContext_renameFields, hinner, explicitId_renameFields, hcontainer]
  cases explicitId fs with
  | error f => rfl
  | ok found =>
    cases found with
    | none =>
      show Except.ok _ = Except.ok _
      unfold DraftHeader.rename
      split <;> rfl
    | some id =>
      show Except.ok _ = Except.ok _
      rw [ident_renameId]
      unfold DraftHeader.rename
      split <;> rfl

theorem draftHeader_of_error {c : Context} {fs : Json.Fields} {f : Fault}
    (hinner : innerContext c fs = .error f) (G : Ident) (path : List Nat) :
    draftHeader c G path fs = .error f := by
  unfold draftHeader
  rw [hinner]
  rfl

theorem innerContext_of_draftHeader {c : Context} {fs : Json.Fields} {G : Ident} {path : List Nat}
    {h : DraftHeader} (hh : draftHeader c G path fs = .ok h) :
    innerContext c fs = .ok h.context := by
  unfold draftHeader at hh
  cases hinner : innerContext c fs with
  | error f => rw [hinner] at hh; cases hh
  | ok inner =>
    rw [hinner] at hh
    cases hid : explicitId fs with
    | error f => rw [hid] at hh; cases hh
    | ok found => rw [hid] at hh; cases found <;> cases hh <;> rfl

theorem renameNode_of_ok {c inner : Context} {fs : Json.Fields}
    (hinner : innerContext c fs = .ok inner) : renameNode ρ c fs = renameFields ρ inner fs := by
  rw [renameNode, hinner]

theorem keys_renameNode (c : Context) (fs : Json.Fields) :
    (renameNode ρ c fs).map Prod.fst = fs.map Prod.fst := by
  unfold renameNode
  split
  · exact keys_renameFields ρ _ fs
  · rfl

/-- **An object that is renamed** is drafted as before, with its labels renamed, if what is in it
is. -/
theorem object_rename {c : Context} {G : Ident} {path : List Nat} {fs : Json.Fields}
    {g g' : DraftHeader → Except Fault (List Draft)}
    (hg : ∀ inner G' S', renameNode ρ c fs = renameFields ρ inner fs →
      g' ⟨inner, G'.rename ρ, S'.rename ρ⟩ = (g ⟨inner, G', S'⟩).map (renameAll ρ)) :
    draftHeader c (G.rename ρ) path (renameNode ρ c fs) >>= g' =
      (draftHeader c G path fs >>= g).map (renameAll ρ) := by
  cases hinner : innerContext c fs with
  | error f =>
    have hnode : renameNode ρ c fs = fs := by rw [renameNode, hinner]
    rw [hnode, draftHeader_of_error hinner, draftHeader_of_error hinner]
    rfl
  | ok inner =>
    have hnode := renameNode_of_ok ρ hinner
    rw [hnode, draftHeader_rename ρ hinner]
    cases hh : draftHeader c G path fs with
    | error f => rfl
    | ok h =>
      have hcontext := innerContext_of_draftHeader hh
      rw [hinner] at hcontext
      obtain ⟨_, G', S'⟩ := h
      cases hcontext
      exact hg _ G' S' hnode

theorem get?_eq_none_congr {fs fs' : Json.Fields} (h : fs'.map Prod.fst = fs.map Prod.fst)
    {key : String} (hnone : Json.Fields.get? fs key = none) : Json.Fields.get? fs' key = none := by
  have hhas := has_congr h key
  rw [has_eq_isSome, has_eq_isSome, hnone] at hhas
  exact Option.isNone_iff_eq_none.mp (by simpa using hhas)

theorem draftLiteral_rename (c : Context) (P : DraftPlace) (literal : Json) (fs : Json.Fields) :
    draftLiteral c (P.rename ρ) literal fs =
      (draftLiteral c P literal fs).map (Draft.rename ρ) := by
  unfold draftLiteral
  cases valueObject c ⟨"", "", ""⟩ literal fs <;> rfl

theorem link_rename (c : Context) (P : DraftPlace) (id : String) :
    (Except.ok [(P.rename ρ).link (ident c (renameId ρ id))] : Except Fault (List Draft)) =
      (Except.ok [P.link (ident c id)]).map (renameAll ρ) := by
  rw [ident_renameId]
  rfl

mutual

theorem draftValue_rename : ∀ (v : Json) (c : Context) (P : DraftPlace)
    (coercion : Option Coercion) (path : List Nat),
    draftValue c (P.rename ρ) coercion path (renameValue ρ c coercion v) =
      (draftValue c P coercion path v).map (renameAll ρ)
  | .null, c, P, coercion, path | .bool b, c, P, coercion, path | .int n, c, P, coercion, path
  | .float x, c, P, coercion, path => by
    rw [renameValue, draftValue, draftValue]
    · rfl
    all_goals exact fun _ h => nomatch h
  | .string s, c, P, coercion, path => by
    rw [renameValue]
    cases coercion with
    | none =>
      rw [draftValue, draftValue]
      rfl
    | some co =>
      cases co with
      | id =>
        rw [if_pos rfl, draftValue, draftValue]
        exact link_rename ρ c P s
      | datatype d =>
        rw [draftValue, draftValue]
        rfl
  | .array items, c, P, coercion, path => by
    rw [renameValue, draftValue, draftValue]
    exact draftItems_rename items c P coercion path 0
  | .object fs, c, P, coercion, path => by
    rw [renameValue]
    by_cases hvalue : Json.Fields.has fs "@value" = true
    · obtain ⟨literal, hget⟩ := Option.isSome_iff_exists.mp (has_eq_isSome fs "@value" ▸ hvalue)
      rw [if_pos hvalue, draftValue, draftValue, hget]
      dsimp only
      rw [draftLiteral_rename]
      cases draftLiteral c P literal fs <;> rfl
    have hnone : Json.Fields.get? fs "@value" = none := by
      rw [has_eq_isSome] at hvalue
      simpa using hvalue
    rw [if_neg hvalue]
    by_cases hlist : Json.Fields.has fs "@list" = true
    · have hkeys := keys_renameKey ρ c coercion "@list" fs
      rw [if_pos hlist, draftValue, draftValue, hnone, get?_eq_none_congr hkeys hnone]
      dsimp only
      rw [has_congr hkeys, if_pos hlist, if_pos hlist]
      exact draftKey_rename "@list" fs c P coercion path
    rw [if_neg hlist]
    by_cases hset : Json.Fields.has fs "@set" = true
    · have hkeys := keys_renameKey ρ c coercion "@set" fs
      rw [if_pos hset, draftValue, draftValue, hnone, get?_eq_none_congr hkeys hnone]
      dsimp only
      rw [has_congr hkeys, if_neg hlist, has_congr hkeys, if_pos hset, if_neg hlist, if_pos hset]
      exact draftKey_rename "@set" fs c P coercion path
    rw [if_neg hset]
    by_cases href : isReference fs = true
    · have hkeys := keys_renameFields ρ c fs
      have hid : ((Json.Fields.get? (renameFields ρ c fs) "@id").bind Json.asString?).getD "" =
          renameId ρ (((Json.Fields.get? fs "@id").bind Json.asString?).getD "") := by
        rw [get?_id_renameFields]
        cases Json.Fields.get? fs "@id" with
        | none => rfl
        | some v => cases v <;> rfl
      rw [if_pos href, draftValue, draftValue, hnone, get?_eq_none_congr hkeys hnone]
      dsimp only
      rw [has_congr hkeys, if_neg hlist, has_congr hkeys, if_neg hset, isReference_congr hkeys,
        if_pos href, if_neg hlist, if_neg hset, if_pos href, hid]
      exact link_rename ρ c P _
    · have hkeys := keys_renameNode ρ c fs
      have hnode : (match innerContext c fs with
          | .ok inner => renameFields ρ inner fs
          | .error _ => fs) = renameNode ρ c fs := rfl
      rw [if_neg href, hnode, draftValue, draftValue, hnone, get?_eq_none_congr hkeys hnone]
      dsimp only
      rw [has_congr hkeys, if_neg hlist, has_congr hkeys, if_neg hset, isReference_congr hkeys,
        if_neg href, if_neg hlist, if_neg hset, if_neg href]
      refine object_rename ρ fun inner G' S' hnode => ?_
      dsimp only
      rw [hnode, draftFields_rename fs inner S' G' path 0]
      cases draftFields inner S' G' path 0 fs with
      | error f => rfl
      | ok ds => exact congrArg Except.ok (renameAll_append ρ ds [P.link S']).symm

theorem draftItems_rename : ∀ (vs : List Json) (c : Context) (P : DraftPlace)
    (coercion : Option Coercion) (path : List Nat) (i : Nat),
    draftItems c (P.rename ρ) coercion path i (renameItems ρ c coercion vs) =
      (draftItems c P coercion path i vs).map (renameAll ρ)
  | [], c, P, coercion, path, i => by
    rw [renameItems, draftItems]
    rfl
  | v :: vs, c, P, coercion, path, i => by
    rw [renameItems, draftItems, draftItems, draftValue_rename v c P coercion (i :: path),
      draftItems_rename vs c P coercion path (i + 1)]
    exact map_append ρ

theorem draftKey_rename (key : String) : ∀ (fs : List (String × Json)) (c : Context)
    (P : DraftPlace) (coercion : Option Coercion) (path : List Nat),
    draftKey c (P.rename ρ) coercion path key (renameKey ρ c coercion key fs) =
      (draftKey c P coercion path key fs).map (renameAll ρ)
  | [], c, P, coercion, path => by
    rw [renameKey, draftKey]
    rfl
  | (k, v) :: fs, c, P, coercion, path => by
    rw [renameKey, draftKey, draftKey]
    by_cases hk : k = key
    · rw [if_pos hk, if_pos hk, if_pos hk]
      exact draftValue_rename v c P coercion path
    · rw [if_neg hk, if_neg hk]
      exact draftKey_rename key fs c P coercion path

theorem draftFields_rename : ∀ (fs : List (String × Json)) (c : Context) (S G : Ident)
    (path : List Nat) (i : Nat),
    draftFields c (S.rename ρ) (G.rename ρ) path i (renameFields ρ c fs) =
      (draftFields c S G path i fs).map (renameAll ρ)
  | [], c, S, G, path, i => by
    rw [renameFields, draftFields]
    rfl
  | (k, v) :: fs, c, S, G, path, i => by
    rw [renameFields, draftFields, draftFields, draftFields_rename fs c S G path (i + 1)]
    by_cases htype : k = "@type"
    · subst htype
      rw [if_pos rfl, if_pos rfl, draftTypes_rename]
      exact map_append ρ
    rw [if_neg htype, if_neg htype]
    by_cases hgraph : k = "@graph"
    · subst hgraph
      rw [if_pos rfl, if_pos rfl]
      dsimp only
      rw [if_neg (by decide), if_pos rfl, draftChildren_rename v c G (i :: path)]
      exact map_append ρ
    rw [if_neg hgraph]
    by_cases hkeyword : isKeyword k = true
    · rw [if_pos hkeyword, if_neg hgraph, if_pos hkeyword]
      exact map_append ρ (d := .ok [])
    · have hid : k ≠ "@id" := by
        rintro rfl
        exact hkeyword (by decide)
      have hplace : (⟨S.rename ρ, c.expandTerm k, G.rename ρ⟩ : DraftPlace) =
          DraftPlace.rename ρ ⟨S, c.expandTerm k, G⟩ := rfl
      rw [if_neg hkeyword, if_neg hid, if_neg hgraph, if_neg hkeyword, if_neg hgraph,
        if_neg hkeyword, hplace, draftValue_rename v c _ (c.coercion? k) (i :: path)]
      exact map_append ρ

theorem draftChildren_rename : ∀ (v : Json) (c : Context) (G : Ident) (path : List Nat),
    draftChildren c (G.rename ρ) path (renameChildren ρ c v) =
      (draftChildren c G path v).map (renameAll ρ)
  | .array items, c, G, path => by
    rw [renameChildren, draftChildren, draftChildren]
    exact draftChildList_rename items c G path 0
  | .object fs, c, G, path => by
    rw [renameChildren, draftChildren, draftChildren]
    refine object_rename ρ fun inner G' S' hnode => ?_
    have hnode' : (match innerContext c fs with
        | .ok inner => renameFields ρ inner fs
        | .error _ => fs) = renameFields ρ inner fs := hnode
    dsimp only
    rw [hnode']
    exact draftFields_rename fs inner S' G' path 0
  | .null, c, G, path | .bool b, c, G, path | .int n, c, G, path | .float x, c, G, path
  | .string x, c, G, path => by
    rw [renameChildren, draftChildren]
    · rfl
    all_goals exact fun _ h => nomatch h

theorem draftChildList_rename : ∀ (vs : List Json) (c : Context) (G : Ident) (path : List Nat)
    (i : Nat), draftChildList c (G.rename ρ) path i (renameChildList ρ c vs) =
      (draftChildList c G path i vs).map (renameAll ρ)
  | [], c, G, path, i => by
    rw [renameChildList, draftChildList]
    rfl
  | .object fs :: vs, c, G, path, i => by
    rw [renameChildList, draftChildList, draftChildList, draftChildList_rename vs c G path (i + 1)]
    refine object_rename ρ (g := fun h => do
      let ds ← draftFields h.context h.id h.graph (i :: path) 0 fs
      let rest ← draftChildList c G path (i + 1) vs
      return ds ++ rest) fun inner G' S' hnode => ?_
    have hnode' : (match innerContext c fs with
        | .ok inner => renameFields ρ inner fs
        | .error _ => fs) = renameFields ρ inner fs := hnode
    dsimp only
    rw [hnode', draftFields_rename fs inner S' G' (i :: path) 0]
    exact map_append ρ
  | .null :: vs, c, G, path, i | .bool b :: vs, c, G, path, i | .int n :: vs, c, G, path, i
  | .float x :: vs, c, G, path, i | .string x :: vs, c, G, path, i
  | .array items :: vs, c, G, path, i => by
    rw [renameChildList, draftChildList, draftChildList]
    · rfl
    all_goals exact fun _ h => nomatch h

end

/-! ### Nodes and documents -/

/-- **A node that is renamed** has the drafts of the node with their labels renamed. -/
theorem draftNode_rename (c : Context) (path : List Nat) (fs : Json.Fields) :
    draftNode c path (renameNode ρ c fs) = (draftNode c path fs).map (renameAll ρ) := by
  refine object_rename ρ (G := .given Vocabulary.defaultGraph) fun inner G' S' hnode => ?_
  dsimp only
  rw [hnode]
  exact draftFields_rename ρ fs inner S' G' path 0

theorem draftTopLevel_rename (c : Context) (path : List Nat) : ∀ (vs : List Json) (i : Nat),
    draftTopLevel c path i (renameChildList ρ c vs) =
      (draftTopLevel c path i vs).map (renameAll ρ)
  | [], i => by
    rw [renameChildList, draftTopLevel]
    rfl
  | .object fs :: vs, i => by
    have hrest := draftTopLevel_rename c path vs (i + 1)
    have hnode : renameChildList ρ c (.object fs :: vs) =
        .object (renameNode ρ c fs) :: renameChildList ρ c vs := by
      rw [renameChildList]
      rfl
    have hfirst : ∀ (fs : Json.Fields) (vs : List Json),
        draftTopLevel c path i (.object fs :: vs) =
        (do let ds ← draftNode c (i :: path) fs
            let rest ← draftTopLevel c path (i + 1) vs
            return ds ++ rest) := fun _ _ => rfl
    rw [hnode, hfirst, hfirst, draftNode_rename, hrest]
    exact map_append ρ
  | .null :: vs, i | .bool b :: vs, i | .int n :: vs, i | .float x :: vs, i | .string x :: vs, i
  | .array items :: vs, i => by
    rw [renameChildList]
    · rfl
    all_goals exact fun _ h => nomatch h

/-- **A document that is renamed** has the drafts of the document with their labels renamed. -/
theorem draftDocument_rename (c : Context) (path : List Nat) (v : Json) :
    draftDocument c path (renameDocument ρ c v) =
      (draftDocument c path v).map (renameAll ρ) := by
  cases v with
  | array items =>
    rw [renameDocument, renameChildren]
    exact draftTopLevel_rename ρ c path items 0
  | object fs =>
    rw [renameDocument, renameChildren]
    exact draftNode_rename ρ c path fs
  | _ =>
    rw [renameDocument, renameChildren]
    · rfl
    all_goals exact fun _ h => nomatch h

end Rename

end GraphLedger.JsonLd
