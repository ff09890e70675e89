import GraphLedger.Proofs.JsonLd.Objects

/-! # The shortcut for references

An object with an `@id` and no other key than `@context` refers to a node. As the value of a
property it is not translated like other nested objects: its link is made at once, without a header.
The shortcut never fails, and it reads the `@id` in the context around the object, while the header
reads it in the context inside. The two agree exactly if the `@id` is a text, the `@context` can be
merged, and the text is expanded alike in both contexts.

* `ofNested`: a nested object translated through its header.
* `ofValue_reference`, `ofNested_reference`: what the two make of a reference.
* `reference_shortcut`: where they agree.
* `shortcut_skips_header`: references for which they do not. -/

namespace GraphLedger.JsonLd

/-! ### Nested objects -/

/-- The statements of an object under a property: those of its fields, in the context and graph that
its header tells, and the link to it. -/
def ofNested (c : Context) (p : Place) (fs : Json.Fields) : Naming (List Statement) := do
  let h ← header c p.graph fs
  let sts ← ofFields h.context h.iri h.graph fs
  return sts ++ [p.link h.iri]

/-- The `@id` of an object as a text, which is empty if it is none. -/
def idText (fs : Json.Fields) : String :=
  ((Json.Fields.get? fs "@id").bind Json.asString?).getD ""

section Reference
variable {fs : Json.Fields}

/-! ### The keys of a reference -/

theorem has_id_of_isReference (h : isReference fs = true) : Json.Fields.has fs "@id" = true :=
  (Bool.and_eq_true_iff.mp h).1

theorem key_of_isReference (h : isReference fs = true) {f : String × Json} (hf : f ∈ fs) :
    f.1 = "@id" ∨ f.1 = "@context" := by
  have hkey := List.all_eq_true.mp (Bool.and_eq_true_iff.mp h).2 f hf
  simpa using hkey

theorem not_has_of_isReference (h : isReference fs = true) {key : String} (hid : key ≠ "@id")
    (hcontext : key ≠ "@context") : Json.Fields.has fs key = false := by
  rw [Json.Fields.has, List.any_eq_false]
  intro f hf hkey
  rcases key_of_isReference h hf with hf | hf
  · exact hid ((eq_of_beq hkey).symm.trans hf)
  · exact hcontext ((eq_of_beq hkey).symm.trans hf)

theorem get?_of_isReference (h : isReference fs = true) {key : String} (hid : key ≠ "@id")
    (hcontext : key ≠ "@context") : Json.Fields.get? fs key = none := by
  have hhas := not_has_of_isReference h hid hcontext
  rwa [has_eq_isSome, Option.isSome_eq_false_iff, Option.isNone_iff_eq_none] at hhas

theorem not_isContainer_of_isReference (h : isReference fs = true) : isContainer fs = false := by
  rw [isContainer, not_has_of_isReference h (by decide) (by decide), Bool.false_and]

theorem explicitId_of_isReference (h : isReference fs = true) {found : Option String} :
    explicitId fs = .ok found ↔ ∃ id, found = some id ∧
      Json.Fields.get? fs "@id" = some (.string id) := by
  constructor
  · intro hid
    cases found with
    | none =>
      have hhas := has_id_of_isReference h
      rw [has_eq_isSome, explicitId_eq_none hid] at hhas
      cases hhas
    | some id => exact ⟨id, rfl, explicitId_eq_some hid⟩
  · rintro ⟨id, rfl, hget⟩
    rw [explicitId, hget]

theorem idText_of_get? {id : String} (h : Json.Fields.get? fs "@id" = some (.string id)) :
    idText fs = id := by
  rw [idText, h]
  rfl

theorem ofFields_keywords (c : Context) (subject graph : String) :
    ∀ {fs : List (String × Json)}, (∀ f ∈ fs, f.1 = "@id" ∨ f.1 = "@context") →
      ofFields c subject graph fs = pure []
  | [], _ => by rw [ofFields]
  | (k, v) :: fs, h => by
    obtain ⟨hk, hrest⟩ := List.forall_mem_cons.mp h
    rw [ofFields, ofFields_keywords c subject graph hrest]
    rcases hk with rfl | rfl <;> rfl

/-! ### The two ways -/

/-- **The shortcut** links to the IRI of the `@id` in the context around the object. -/
theorem ofValue_reference (h : isReference fs = true) (c : Context) (p : Place)
    (coercion : Option Coercion) :
    ofValue c p coercion (.object fs) = do return [p.link (← nodeIri c (idText fs))] := by
  have hlist : Json.Fields.has fs "@list" = false :=
    not_has_of_isReference h (by decide) (by decide)
  have hset : Json.Fields.has fs "@set" = false :=
    not_has_of_isReference h (by decide) (by decide)
  rw [ofValue, get?_of_isReference h (by decide) (by decide)]
  dsimp only
  rw [hlist, hset, h]
  rfl

/-- **Through the header** a reference links to the IRI of its `@id` in the context inside, if
there is such a context and the `@id` is a text. -/
theorem ofNested_reference (h : isReference fs = true) (c : Context) (p : Place) :
    ofNested c p fs = do
      let inner ← innerContext c fs
      let id ← explicitId fs
      return [p.link (← nodeIri inner (id.getD ""))] := by
  have hfields : ∀ hd : Header, ofFields hd.context hd.iri hd.graph fs = pure [] :=
    fun hd => ofFields_keywords _ _ _ fun _ hf => key_of_isReference h hf
  have hcontainer := not_isContainer_of_isReference h
  unfold ofNested header
  cases innerContext c fs with
  | error e => rfl
  | ok inner =>
    cases hid : explicitId fs with
    | error e => rfl
    | ok found =>
      cases found with
      | none =>
        obtain ⟨id, hfound, -⟩ := (explicitId_of_isReference h).mp hid
        cases hfound
      | some id =>
        simp only [hfields, hcontainer, liftM_ok, pure_bind, bind_assoc]
        rfl

end Reference

/-! ### Where they agree -/

theorem nodeIri_congr {c c' : Context} {id : String}
    (h : c.expandReference id = c'.expandReference id) : nodeIri c id = nodeIri c' id := by
  unfold nodeIri
  rw [h]

theorem expandReference_eq_of_run {c c' : Context} {id : String} {s : Skolem}
    (h : (nodeIri c id).run.run s = (nodeIri c' id).run.run s) :
    c.expandReference id = c'.expandReference id := by
  by_cases hlabel : ∃ label, id.toList = '_' :: ':' :: label
  · -- labels are never expanded
    obtain ⟨label, hid⟩ := hlabel
    have hreserved : Context.isReserved id = true := by rw [Context.isReserved, hid]; rfl
    rw [Context.expandReference, Context.expandReference, if_pos hreserved, if_pos hreserved]
  · rw [nodeIri_of_not_label c hlabel, nodeIri_of_not_label c' hlabel] at h
    have hsame : Gives (pure (c.expandReference id)) s (c'.expandReference id) s := h
    exact (gives_pure.mp hsame).1.symm

theorem exists_gives_nodeIri (c : Context) (id : String) (s : Skolem) :
    ∃ iri s', Gives (nodeIri c id) s iri s' := by
  by_cases hlabel : ∃ label, id.toList = '_' :: ':' :: label
  · obtain ⟨label, hid⟩ := hlabel
    rw [nodeIri_of_label c hid, labelled]
    cases hl : s.labels.lookup (String.ofList label) with
    | some iri => exact ⟨iri, s, gives_bind.mpr ⟨s, s, rfl, by rw [hl]; rfl⟩⟩
    | none => exact ⟨_, _, gives_bind.mpr ⟨s, s, rfl, by rw [hl]; rfl⟩⟩
  · rw [nodeIri_of_not_label c hlabel]
    exact ⟨_, s, gives_pure.mpr ⟨rfl, rfl⟩⟩

/-- **The shortcut for references** makes one link, whatever the `@id` and the `@context` are. It
does what the header of the object would do exactly if the `@id` is a text, the `@context` can be
merged, and it leaves open what the text is expanded to. -/
theorem reference_shortcut {fs : Json.Fields} (h : isReference fs = true) (c : Context) (p : Place)
    (coercion : Option Coercion) (s : Skolem) :
    (∃ iri s', Gives (ofValue c p coercion (.object fs)) s [p.link iri] s') ∧
      ((ofValue c p coercion (.object fs)).run.run s = (ofNested c p fs).run.run s ↔
        ∃ id inner, Json.Fields.get? fs "@id" = some (.string id) ∧
          innerContext c fs = .ok inner ∧ inner.expandReference id = c.expandReference id) := by
  obtain ⟨iri, s', hiri⟩ := exists_gives_nodeIri c (idText fs) s
  have hlink : Gives (ofValue c p coercion (.object fs)) s [p.link iri] s' := by
    rw [ofValue_reference h]
    exact gives_bind.mpr ⟨iri, s', hiri, gives_pure.mpr ⟨rfl, rfl⟩⟩
  refine ⟨⟨iri, s', hlink⟩, fun hsame => ?_, ?_⟩
  · -- as the shortcut gives a link, so does the header, and it links to the same IRI
    have hnested : Gives (ofNested c p fs) s [p.link iri] s' := hsame.symm.trans hlink
    rw [ofNested_reference h] at hnested
    obtain ⟨inner, s₁, hmerge, hread⟩ := gives_bind.mp hnested
    obtain ⟨hinner, rfl⟩ := gives_lift.mp hmerge
    obtain ⟨found, s₂, hid, hname⟩ := gives_bind.mp hread
    obtain ⟨hfound, rfl⟩ := gives_lift.mp hid
    obtain ⟨id, rfl, hget⟩ := (explicitId_of_isReference h).mp hfound
    obtain ⟨other, s₃, hother, hpure⟩ := gives_bind.mp hname
    obtain ⟨hlinks, rfl⟩ := gives_pure.mp hpure
    obtain rfl : iri = other :=
      Object.iri.inj (congrArg Statement.object (List.singleton_inj.mp hlinks))
    rw [idText_of_get? hget] at hiri
    exact ⟨id, inner, hget, hinner, expandReference_eq_of_run (hother.trans hiri.symm)⟩
  · rintro ⟨id, inner, hget, hinner, hexpand⟩
    have hfound : explicitId fs = .ok (some id) :=
      (explicitId_of_isReference h).mpr ⟨id, rfl, hget⟩
    rw [ofValue_reference h, ofNested_reference h, idText_of_get? hget, hinner, hfound]
    simp only [liftM_ok, pure_bind, Option.getD_some]
    rw [nodeIri_congr hexpand]

/-- A reference with a context that says nothing about its `@id`. -/
def harmless : Json.Fields :=
  [("@context", .object [("ex", .string "http://e.org/")]), ("@id", .string "urn:a")]

theorem reference_shortcut_of_harmless :
    isReference harmless = true ∧
      (ofValue .empty ⟨"urn:s", "urn:p", ""⟩ none (.object harmless)).run.run (.start 0) =
        (ofNested .empty ⟨"urn:s", "urn:p", ""⟩ harmless).run.run (.start 0) := by
  have h : isReference harmless = true := by decide
  refine ⟨h, (reference_shortcut h .empty ⟨"urn:s", "urn:p", ""⟩ none (.start 0)).2.mpr ?_⟩
  exact ⟨"urn:a", _, rfl, rfl, by decide⟩

/-- The shortcut leaves a prefix that the `@context` of the reference defines unexpanded, and takes
an `@id` that is a number for an empty text; the header expands the one and rejects the other. -/
theorem shortcut_skips_header :
    let p : Place := ⟨"urn:s", "urn:p", ""⟩
    let prefixed : Json.Fields :=
      [("@context", .object [("ex", .string "http://e.org/")]), ("@id", .string "ex:1")]
    let numbered : Json.Fields := [("@id", .int 1)]
    isReference prefixed = true ∧ isReference numbered = true ∧
      Gives (ofValue .empty p none (.object prefixed)) (.start 0) [p.link "ex:1"] (.start 0) ∧
      Gives (ofNested .empty p prefixed) (.start 0) [p.link "http://e.org/1"] (.start 0) ∧
      Gives (ofValue .empty p none (.object numbered)) (.start 0) [p.link ""] (.start 0) ∧
      (ofNested .empty p numbered).run.run (.start 0) = (.error (.badId (.int 1)), .start 0) :=
  ⟨by decide, by decide, rfl, rfl, rfl, rfl⟩

end GraphLedger.JsonLd
