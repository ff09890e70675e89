import GraphLedger.Proofs.JsonLd.Numbering

/-! # Translations follow their drafts

So it is for the two steps that touch the supply: a label gets its number at its first occurrence,
and a node without an IRI gets one of its own. By a mutual induction along the walk, each part of a
translation follows its part of the draft, since no two parts come to the same node.

* `follows_mint`, `follows_nodeIri`: names.
* `follows_header`: headers.
* `follows_value`, `follows_fields`, `follows_children`: the parts of a node.
* `follows_node`, `follows_document`: nodes and documents. -/

namespace GraphLedger.JsonLd

section Follows
variable {low : Nat} {U V W : Set (List Nat)} {N : Numbering Blank}

/-! ### Names -/

/-- **A node without an IRI** gets a number of its own. -/
theorem follows_mint (path : List Nat) :
    Follows low {path} N mint (.ok (.blank (.unnamed path))) Ident.iri := by
  intro s hs huntold
  have hnone := huntold path rfl
  refine ⟨N.give (.unnamed path) s.next,
    grows_give hnone (fun q hq => by cases hq; rfl) _,
    hs.give fun l => ?_, fun ν hν => ?_⟩
  · rw [N.give_of_ne _ fun h => by cases h]
    exact hs.labels l
  · have hnew := hν _ _ (N.give_self (.unnamed path) s.next)
    show Except.ok (Skolem.minted s.next) = .ok (ν (.unnamed path))
    rw [hnew]

/-- **A label** keeps its number, or gets one. -/
theorem follows_labelled (label : String) :
    Follows low ∅ N (labelled label) (.ok (.blank (.label label))) Ident.iri := by
  intro s hs _
  have hl := hs.labels label
  cases hnumber : N (.label label) with
  | some n =>
    rw [hnumber, Option.map_some] at hl
    have hrun : (labelled label).run.run s = (.ok (Skolem.minted n), s) := by
      refine gives_bind.mpr ⟨s, s, rfl, ?_⟩
      rw [hl]
      rfl
    rw [hrun]
    refine ⟨N, .refl ∅ N, hs, fun ν hν => ?_⟩
    show Except.ok (Skolem.minted n) = .ok (ν (.label label))
    rw [hν _ _ hnumber]
  | none =>
    rw [hnumber, Option.map_none] at hl
    have hrun : (labelled label).run.run s = (.ok (Skolem.minted s.next),
        ⟨s.next + 1, (label, Skolem.minted s.next) :: s.labels⟩) := by
      refine gives_bind.mpr ⟨s, s, rfl, ?_⟩
      rw [hl]
      rfl
    rw [hrun]
    refine ⟨N.give (.label label) s.next, grows_give hnumber (fun q hq => by cases hq) _,
      hs.give fun l => ?_, fun ν hν => ?_⟩
    · by_cases hlabel : l = label
      · rw [hlabel, List.lookup_cons_self, N.give_self]
        rfl
      · have hne : (l == label) = false := beq_eq_false_iff_ne.mpr hlabel
        rw [List.lookup_cons, hne, N.give_of_ne _ fun h => hlabel (by cases h; rfl)]
        exact hs.labels l
    · show Except.ok (Skolem.minted s.next) = .ok (ν (.label label))
      rw [hν _ _ (N.give_self (.label label) s.next)]

theorem follows_nodeIri (c : Context) (id : String) :
    Follows low ∅ N (nodeIri c id) (.ok (ident c id)) Ident.iri := by
  by_cases hlabel : ∃ label, id.toList = '_' :: ':' :: label
  · obtain ⟨label, hid⟩ := hlabel
    rw [nodeIri_of_label c hid, ident_of_label c hid]
    exact follows_labelled _
  · rw [nodeIri_of_not_label c hlabel, ident_of_not_label c hlabel]
    exact .pure fun ν hν => rfl

/-! ### Parts of a node -/

theorem follows_types {c : Context} {S G : Ident} {subject graph : String}
    (hS : Is N Ident.iri S subject) (hG : Is N Ident.iri G graph) (vs : List Json) :
    Follows low U N (liftM (typeStatements c subject graph vs) : Naming (List Statement))
      (draftTypes c S G vs) Draft.statements := by
  refine .lift fun ν hν => ?_
  have hsubject := hS ν hν
  have hgraph := hG ν hν
  induction vs with
  | nil => rfl
  | cons v vs ih =>
    cases v with
    | string t =>
      rw [typeStatements, draftTypes, ih, hsubject, hgraph]
      cases draftTypes c S G vs with
      | error f => rfl
      | ok ds => rfl
    | _ => rfl

theorem is_place {S G : Ident} {subject graph : String}
    (hS : Is N Ident.iri S subject) (hG : Is N Ident.iri G graph) (predicate : String) :
    Is N DraftPlace.place ⟨S, predicate, G⟩ ⟨subject, predicate, graph⟩ := fun ν hν => by
  rw [hS ν hν, hG ν hν]
  rfl

theorem self_subset_below (path : List Nat) : {path} ⊆ below path := by
  rintro q rfl
  exact List.suffix_refl _

theorem Is.header {hd : DraftHeader} {h : Header} (his : Is N DraftHeader.header hd h) :
    h.context = hd.context ∧ Is N Ident.iri hd.graph h.graph ∧ Is N Ident.iri hd.id h.iri := by
  obtain ⟨ν, hν⟩ := exists_agrees N
  refine ⟨by rw [his ν hν]; rfl, fun ν hν => by rw [his ν hν]; rfl,
    fun ν hν => by rw [his ν hν]; rfl⟩

theorem follows_literal {c : Context} {P : DraftPlace} {p : Place}
    (hp : Is N DraftPlace.place P p) (literal : Json) (fs : Json.Fields) :
    Follows low U N (liftM (valueObject c p literal fs) : Naming Statement)
      (draftLiteral c P literal fs) Draft.statement := by
  refine .lift fun ν hν => ?_
  rw [valueObject_place, draftLiteral, hp ν hν]
  cases valueObject c ⟨"", "", ""⟩ literal fs <;> rfl

theorem follows_link {c : Context} {P : DraftPlace} {p : Place} (hp : Is N DraftPlace.place P p)
    (path : List Nat) (id : String) :
    Follows low (below path) N (do return [p.link (← nodeIri c id)])
      (.ok [P.link (ident c id)]) Draft.statements := by
  show Follows low (below path) N _ (Except.ok (ident c id) >>= fun n => Except.ok [P.link n]) _
  refine (follows_nodeIri c id).bind_left fun N₁ n iri hg hn => .pure fun ν hν => ?_
  rw [hn ν hν, (hp.of_grows hg) ν hν]
  rfl

theorem follows_header {c : Context} {G : Ident} {graph : String} (hG : Is N Ident.iri G graph)
    (path : List Nat) (fs : Json.Fields) :
    Follows low {path} N (header c graph fs) (draftHeader c G path fs) DraftHeader.header := by
  unfold header draftHeader
  refine (Follows.lift_same _).bind_left fun N₁ inner _ hg his => ?_
  rw [his.eq]
  refine (Follows.lift_same _).bind_left fun N₂ found _ hg' his' => ?_
  rw [his'.eq]
  have hG' := (hG.of_grows hg).of_grows hg'
  cases found with
  | some id =>
    show Follows low {path} N₂ _ (Except.ok (ident inner id) >>= fun n =>
      Except.ok (DraftHeader.mk inner (if isContainer fs then n else G) n)) _
    refine (follows_nodeIri inner id).bind_left fun N₃ n iri hg₃ hn => .pure fun ν hν => ?_
    have hgraph := (hG'.of_grows hg₃) ν hν
    have hiri := hn ν hν
    unfold DraftHeader.header
    split
    · rw [hiri]
    · rw [hiri, hgraph]
  | none =>
    dsimp only
    split
    · exact .pure fun ν hν => by
        rw [hG' ν hν]
        rfl
    · show Follows low {path} N₂ _ (Except.ok (Ident.blank (.unnamed path)) >>= fun n =>
        Except.ok (DraftHeader.mk inner G n)) _
      refine (follows_mint path).bind_pure fun N₃ n iri hg₃ hn ν hν => ?_
      rw [(hG'.of_grows hg₃) ν hν, hn ν hν]
      rfl

theorem follows_object {A D : Type} {c : Context} {G : Ident} {graph : String}
    (hG : Is N Ident.iri G graph) (path : List Nat) (fs : Json.Fields) {f : Header → Naming A}
    {g : DraftHeader → Except Fault D} {real : (Blank → String) → D → A}
    (hf : ∀ N' hd h, Grows {path} N N' → h.context = hd.context →
      Is N' Ident.iri hd.graph h.graph → Is N' Ident.iri hd.id h.iri →
      Follows low (behind path 0) N' (f h) (g hd) real) :
    Follows low (below path) N (header c graph fs >>= f) (draftHeader c G path fs >>= g)
      real := by
  refine (follows_header hG path fs).bind (fun N₁ hd h hg _ his => ?_)
    (disjoint_self_behind path 0) (self_subset_below path) (behind_subset_below path 0)
  obtain ⟨hcontext, hgraph, hid⟩ := his.header
  exact hf N₁ hd h hg hcontext hgraph hid

mutual

theorem follows_value : ∀ (v : Json) {N : Numbering Blank} {c : Context} {P : DraftPlace}
    {p : Place} (coercion : Option Coercion) (path : List Nat), Is N DraftPlace.place P p →
    Follows low (below path) N (ofValue c p coercion v) (draftValue c P coercion path v)
      Draft.statements
  | .null, N, c, P, p, coercion, path, hp => by
    rw [ofValue, draftValue]
    exact .pure fun ν hν => rfl
  | .bool b, N, c, P, p, coercion, path, hp => by
    rw [ofValue, draftValue]
    exact .pure fun ν hν => by rw [hp ν hν]; rfl
  | .int n, N, c, P, p, coercion, path, hp => by
    rw [ofValue, draftValue]
    exact .pure fun ν hν => by rw [hp ν hν]; rfl
  | .float x, N, c, P, p, coercion, path, hp => by
    rw [ofValue, draftValue]
    exact .pure fun ν hν => by rw [hp ν hν]; rfl
  | .string s, N, c, P, p, coercion, path, hp => by
    cases coercion with
    | none =>
      rw [ofValue, draftValue]
      exact .pure fun ν hν => by rw [hp ν hν]; rfl
    | some co =>
      cases co with
      | id =>
        rw [ofValue, draftValue]
        exact follows_link hp path s
      | datatype d =>
        rw [ofValue, draftValue]
        exact .pure fun ν hν => by rw [hp ν hν]; rfl
  | .array items, N, c, P, p, coercion, path, hp => by
    rw [ofValue, draftValue]
    exact (follows_items items coercion path 0 hp).mono (behind_subset_below path 0)
  | .object fs, N, c, P, p, coercion, path, hp => by
    rw [ofValue, draftValue]
    cases hvalue : Json.Fields.get? fs "@value" with
    | some literal =>
      dsimp only
      refine (follows_literal hp literal fs).bind_pure fun N₁ d st hg hst ν hν => ?_
      rw [hst ν hν]
      rfl
    | none =>
      dsimp only
      split
      · exact follows_key fs coercion path "@list" hp
      split
      · exact follows_key fs coercion path "@set" hp
      split
      · exact follows_link hp path _
      have hG : Is N Ident.iri P.graph p.graph := fun ν hν => by rw [hp ν hν]; rfl
      refine follows_object hG path fs fun N₁ hd h hg hcontext hgraph hid => ?_
      rw [hcontext]
      refine (follows_fields fs path 0 hid hgraph).bind_pure fun N₂ ds sts hg' hsts ν hν => ?_
      rw [hsts ν hν, (hid.of_grows hg') ν hν, ((hp.of_grows hg).of_grows hg') ν hν,
        Draft.statements_append]
      rfl

theorem follows_items : ∀ (vs : List Json) {N : Numbering Blank} {c : Context} {P : DraftPlace}
    {p : Place} (coercion : Option Coercion) (path : List Nat) (i : Nat),
    Is N DraftPlace.place P p →
    Follows low (behind path i) N (ofItems c p coercion vs) (draftItems c P coercion path i vs)
      Draft.statements
  | [], N, c, P, p, coercion, path, i, hp => by
    rw [ofItems, draftItems]
    exact .pure fun ν hν => rfl
  | v :: vs, N, c, P, p, coercion, path, i, hp => by
    rw [ofItems, draftItems]
    exact (follows_value v coercion (i :: path) hp).append
      (fun N₁ hg => follows_items vs coercion path (i + 1) (hp.of_grows hg))
      (disjoint_below_behind path i) (below_subset_behind path i) (behind_succ_subset path i)

theorem follows_key : ∀ (fs : List (String × Json)) {N : Numbering Blank} {c : Context}
    {P : DraftPlace} {p : Place} (coercion : Option Coercion) (path : List Nat) (key : String),
    Is N DraftPlace.place P p →
    Follows low (below path) N (ofKey c p coercion key fs) (draftKey c P coercion path key fs)
      Draft.statements
  | [], N, c, P, p, coercion, path, key, hp => by
    rw [ofKey, draftKey]
    exact .pure fun ν hν => rfl
  | (k, v) :: fs, N, c, P, p, coercion, path, key, hp => by
    rw [ofKey, draftKey]
    split
    · exact follows_value v coercion path hp
    · exact follows_key fs coercion path key hp

theorem follows_fields : ∀ (fs : List (String × Json)) {N : Numbering Blank} {c : Context}
    {S G : Ident} {subject graph : String} (path : List Nat) (i : Nat),
    Is N Ident.iri S subject → Is N Ident.iri G graph →
    Follows low (behind path i) N (ofFields c subject graph fs) (draftFields c S G path i fs)
      Draft.statements
  | [], N, c, S, G, subject, graph, path, i, hS, hG => by
    rw [ofFields, draftFields]
    exact .pure fun ν hν => rfl
  | (k, v) :: fs, N, c, S, G, subject, graph, path, i, hS, hG => by
    have hrest : ∀ {t : Naming (List Statement)} {d : Except Fault (List Draft)},
        Follows low (below (i :: path)) N t d Draft.statements →
        Follows low (behind path i) N
          (do let sts ← t; let rest ← ofFields c subject graph fs; return sts ++ rest)
          (do let ds ← d; let rest ← draftFields c S G path (i + 1) fs; return ds ++ rest)
          Draft.statements := fun h =>
      h.append
        (fun N₁ hg => follows_fields fs path (i + 1) (hS.of_grows hg) (hG.of_grows hg))
        (disjoint_below_behind path i) (below_subset_behind path i) (behind_succ_subset path i)
    rw [ofFields, draftFields]
    split
    · exact hrest (follows_types hS hG _)
    split
    · exact hrest (follows_children v (i :: path) hG)
    split
    · exact hrest (.pure fun ν hν => rfl)
    · exact hrest (follows_value v _ (i :: path) (is_place hS hG _))

theorem follows_children : ∀ (v : Json) {N : Numbering Blank} {c : Context} {G : Ident}
    {graph : String} (path : List Nat), Is N Ident.iri G graph →
    Follows low (below path) N (ofChildren c graph v) (draftChildren c G path v)
      Draft.statements
  | .array items, N, c, G, graph, path, hG => by
    rw [ofChildren, draftChildren]
    exact (follows_childList items path 0 hG).mono (behind_subset_below path 0)
  | .object fs, N, c, G, graph, path, hG => by
    rw [ofChildren, draftChildren]
    refine follows_object hG path fs fun N₁ hd h hg hcontext hgraph hid => ?_
    rw [hcontext]
    exact follows_fields fs path 0 hid hgraph
  | .null, N, c, G, graph, path, hG | .bool b, N, c, G, graph, path, hG
  | .int n, N, c, G, graph, path, hG | .float x, N, c, G, graph, path, hG
  | .string x, N, c, G, graph, path, hG => by
    rw [ofChildren, draftChildren]
    · exact .fail _
    all_goals exact fun _ h => nomatch h

theorem follows_childList : ∀ (vs : List Json) {N : Numbering Blank} {c : Context} {G : Ident}
    {graph : String} (path : List Nat) (i : Nat), Is N Ident.iri G graph →
    Follows low (behind path i) N (ofChildList c graph vs) (draftChildList c G path i vs)
      Draft.statements
  | [], N, c, G, graph, path, i, hG => by
    rw [ofChildList, draftChildList]
    exact .pure fun ν hν => rfl
  | .object fs :: vs, N, c, G, graph, path, i, hG => by
    rw [ofChildList, draftChildList]
    refine (follows_header hG (i :: path) fs).bind
      (V := behind (i :: path) 0 ∪ behind path (i + 1)) (fun N₁ hd h hg _ his => ?_) ?_ ?_ ?_
    · obtain ⟨hcontext, hgraph, hid⟩ := his.header
      rw [hcontext]
      exact (follows_fields fs (i :: path) 0 hid hgraph).append
        (fun N₂ hg' => follows_childList vs path (i + 1) ((hG.of_grows hg).of_grows hg'))
        ((disjoint_below_behind path i).mono_left (behind_subset_below _ 0))
        Set.subset_union_left Set.subset_union_right
    · exact (disjoint_self_behind (i :: path) 0).union_right
        ((disjoint_below_behind path i).mono_left (self_subset_below _))
    · exact (self_subset_below _).trans (below_subset_behind path i)
    · exact Set.union_subset ((behind_subset_below _ 0).trans (below_subset_behind path i))
        (behind_succ_subset path i)
  | .null :: vs, N, c, G, graph, path, i, hG | .bool b :: vs, N, c, G, graph, path, i, hG
  | .int n :: vs, N, c, G, graph, path, i, hG | .float x :: vs, N, c, G, graph, path, i, hG
  | .string x :: vs, N, c, G, graph, path, i, hG
  | .array items :: vs, N, c, G, graph, path, i, hG => by
    rw [ofChildList, draftChildList]
    · exact .fail _
    all_goals exact fun _ h => nomatch h

end

/-! ### Nodes and documents -/

/-- **A node** follows its draft. -/
theorem follows_node (c : Context) (path : List Nat) (fs : Json.Fields) :
    Follows low (below path) N (ofNode c fs) (draftNode c path fs) Draft.statements := by
  have hG : Is N Ident.iri (.given Vocabulary.defaultGraph) Vocabulary.defaultGraph :=
    fun _ _ => rfl
  refine follows_object hG path fs fun N₁ hd h hg hcontext hgraph hid => ?_
  rw [hcontext]
  exact follows_fields fs path 0 hid hgraph

theorem follows_topLevel (c : Context) (path : List Nat) : ∀ (vs : List Json) (i : Nat)
    {N : Numbering Blank}, Follows low (behind path i) N (ofTopLevel c vs)
      (draftTopLevel c path i vs) Draft.statements
  | [], i, N => .pure fun _ _ => rfl
  | v :: vs, i, N => by
    unfold ofTopLevel draftTopLevel
    refine (Follows.lift_same _).bind_left fun N₁ fs _ hg his => ?_
    rw [his.eq]
    exact (follows_node c (i :: path) fs).append (fun N₂ _ => follows_topLevel c path vs (i + 1))
      (disjoint_below_behind path i) (below_subset_behind path i) (behind_succ_subset path i)

/-- **A document** follows its draft. -/
theorem follows_document (c : Context) (path : List Nat) (v : Json) :
    Follows low (below path) N (ofDocument c v) (draftDocument c path v) Draft.statements := by
  cases v with
  | array items => exact (follows_topLevel c path items 0).mono (behind_subset_below path 0)
  | object fs => exact follows_node c path fs
  | _ => exact .fail _

end Follows

end GraphLedger.JsonLd
