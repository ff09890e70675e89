import GraphLedger.Proofs.JsonLd.Expansion
import GraphLedger.Proofs.JsonLd.Shortcut

/-! # Contexts that agree

What a term stands for is asked in two places: for a whole name, if it is not reserved, and for what
stands before the first colon of a name. So a term whose name is the label of a blank node may be
stored, but all that is ever asked about it is how its values are read. Contexts agree if they
differ at most in what such terms stand for. They expand all names alike, they still agree after a
value of `@context` is merged into both, and a node makes the same statements in both.

* `Agrees`: contexts that agree; `Agrees.expandTerm`, `Agrees.expandReference`, `Agrees.coercions`.
* `Agrees.merge`: they still do after a merge, or the merge fails in both.
* `ofValue_congr`, `ofFields_congr`, `ofNode_congr`: so a value or node makes the same statements.
* `ofNode_withoutContext`, `ofValue_withoutContext`: a context inside an object can be left out if
  it leaves one that agrees. -/

namespace GraphLedger.JsonLd

namespace Context

/-- **Contexts that agree**: what is ever asked about a name has the same answer in both. -/
structure Agrees (c c' : Context) : Prop where
  terms : ∀ name, ¬ Iri.IsBlankLabel name → c.term? name = c'.term? name
  coercions : ∀ name, c.coercion? name = c'.coercion? name
  vocab : c.vocab = c'.vocab
  base : c.base = c'.base

namespace Agrees
variable {c c' : Context} (h : c.Agrees c')

theorem refl (c : Context) : c.Agrees c :=
  ⟨fun _ _ => rfl, fun _ => rfl, rfl, rfl⟩

include h

theorem expandPrefixed? (value : String) : c.expandPrefixed? value = c'.expandPrefixed? value := by
  unfold Context.expandPrefixed?
  split
  · rfl
  · rename_i name rest hsplit
    rw [h.terms _ (not_isBlankLabel_before_colon hsplit)]

theorem expandTerm (value : String) : c.expandTerm value = c'.expandTerm value := by
  unfold Context.expandTerm
  cases hreserved : isReserved value with
  | true => rfl
  | false =>
    have hterm := h.terms value (isReserved_eq_false_iff.mp hreserved).1
    rw [hterm, h.expandPrefixed?, h.vocab]

theorem expandReference (value : String) : c.expandReference value = c'.expandReference value := by
  unfold Context.expandReference
  rw [h.expandPrefixed?, h.base]

/-! ### Merging -/

theorem define (name : String) (t : Term) : (c.define name t).Agrees (c'.define name t) := by
  refine ⟨fun other hother => ?_, fun other => ?_, h.vocab, h.base⟩
  · rw [term?_define, term?_define, h.terms other hother]
  · have hcoercion := h.coercions other
    unfold Context.coercion? at hcoercion ⊢
    rw [term?_define, term?_define]
    split
    · rfl
    · exact hcoercion

theorem undefine (name : String) : (c.undefine name).Agrees (c'.undefine name) := by
  refine ⟨fun other hother => ?_, fun other => ?_, h.vocab, h.base⟩
  · rw [term?_undefine, term?_undefine, h.terms other hother]
  · have hcoercion := h.coercions other
    unfold Context.coercion? at hcoercion ⊢
    rw [term?_undefine, term?_undefine]
    split
    · rfl
    · exact hcoercion

theorem withKeywords (fs : Json.Fields) : (c.withKeywords fs).Agrees (c'.withKeywords fs) := by
  have hreference : c.expandReference = c'.expandReference := funext h.expandReference
  unfold Context.withKeywords
  rw [hreference]
  cases Json.Fields.get? fs "@vocab" <;> cases Json.Fields.get? fs "@base"
  · exact h
  · exact ⟨h.terms, h.coercions, h.vocab, rfl⟩
  · exact ⟨h.terms, h.coercions, rfl, h.base⟩
  · exact ⟨h.terms, h.coercions, rfl, rfl⟩

end Agrees

/-- A coercion with its datatype expanded. -/
def resolveCoercion (c : Context) : Coercion → Coercion
  | .datatype d => .datatype (c.expandTerm d)
  | .id => .id

theorem coercion_resolveTerm (c : Context) (t : Term) :
    (c.resolveTerm t).coercion = t.coercion.map c.resolveCoercion := by
  unfold resolveTerm
  cases t.coercion with
  | none => rfl
  | some co => cases co <;> rfl

theorem coercion?_resolved (c : Context) (name : String) :
    c.resolved.coercion? name = (c.coercion? name).map c.resolveCoercion := by
  unfold coercion?
  rw [term?_resolved]
  cases c.term? name with
  | none => rfl
  | some t => exact coercion_resolveTerm c t

theorem Agrees.resolved {c c' : Context} (h : c.Agrees c') : c.resolved.Agrees c'.resolved := by
  have hterm : c.resolveTerm = c'.resolveTerm := by
    funext t
    unfold resolveTerm
    rw [h.expandPrefixed?, funext h.expandTerm]
  have hcoercion : c.resolveCoercion = c'.resolveCoercion := by
    funext co
    cases co with
    | id => rfl
    | datatype d => exact congrArg Coercion.datatype (h.expandTerm d)
  refine ⟨fun name hname => ?_, fun name => ?_, h.vocab, h.base⟩
  · rw [term?_resolved, term?_resolved, h.terms name hname, hterm]
  · rw [coercion?_resolved, coercion?_resolved, h.coercions name, hcoercion]

/-- Results that agree: contexts that do, or the same fault. -/
inductive ResultsAgree : Except Fault Context → Except Fault Context → Prop
  | ok {c c' : Context} : c.Agrees c' → ResultsAgree (.ok c) (.ok c')
  | error (e : Fault) : ResultsAgree (.error e) (.error e)

namespace Agrees

theorem withDefinition {c c' : Context} (h : c.Agrees c') (name : String) (v : Json) :
    ResultsAgree (c.withDefinition name v) (c'.withDefinition name v) := by
  cases v with
  | null => exact .ok (h.undefine name)
  | string iri => exact .ok (h.define name _)
  | object fs => exact .ok (h.define name _)
  | bool b => exact .error _
  | int n => exact .error _
  | float x => exact .error _
  | array items => exact .error _

theorem withDefinitions : ∀ (fs : Json.Fields) {c c' : Context}, c.Agrees c' →
    ResultsAgree (c.withDefinitions fs) (c'.withDefinitions fs)
  | [], _, _, h => .ok h
  | (name, v) :: fs, c, c', h => by
    unfold Context.withDefinitions
    cases isKeyword name with
    | true => exact withDefinitions fs h
    | false =>
      have hdefinition := h.withDefinition name v
      revert hdefinition
      generalize c.withDefinition name v = x
      generalize c'.withDefinition name v = x'
      rintro (hagree | e)
      · exact withDefinitions fs hagree
      · exact .error e

theorem apply {c c' : Context} (h : c.Agrees c') (fs : Json.Fields) :
    ResultsAgree (c.apply fs) (c'.apply fs) := by
  have hdefinitions := withDefinitions fs (h.withKeywords fs)
  unfold Context.apply
  revert hdefinitions
  generalize (c.withKeywords fs).withDefinitions fs = x
  generalize (c'.withKeywords fs).withDefinitions fs = x'
  rintro (hagree | e)
  · exact .ok hagree.resolved
  · exact .error e

mutual

/-- **A merge** leaves contexts that agree, or fails in both. -/
theorem merge : ∀ (v : Json) {c c' : Context}, c.Agrees c' →
    ResultsAgree (c.merge v) (c'.merge v)
  | .null, _, _, _ => by
    rw [Context.merge, Context.merge]
    exact .ok (.refl _)
  | .array items, _, _, h => by
    rw [Context.merge, Context.merge]
    exact mergeAll items h
  | .object fs, _, _, h => by
    rw [Context.merge, Context.merge]
    exact h.apply fs
  | .string iri, _, _, _ | .bool b, _, _, _ | .int n, _, _, _ | .float x, _, _, _ => by
    rw [Context.merge, Context.merge]
    exact .error _

theorem mergeAll : ∀ (vs : List Json) {c c' : Context}, c.Agrees c' →
    ResultsAgree (c.mergeAll vs) (c'.mergeAll vs)
  | [], _, _, h => by
    rw [Context.mergeAll, Context.mergeAll]
    exact .ok h
  | v :: vs, c, c', h => by
    have hmerge := merge v h
    rw [Context.mergeAll, Context.mergeAll]
    revert hmerge
    generalize c.merge v = x
    generalize c'.merge v = x'
    rintro (hagree | e)
    · exact mergeAll vs hagree
    · exact .error e

end

end Agrees

end Context

/-! ### Nodes -/

section Nodes
variable {c c' : Context}

theorem valueObject_congr (h : c.Agrees c') (p : Place) (literal : Json) (fs : Json.Fields) :
    valueObject c p literal fs = valueObject c' p literal fs := by
  unfold valueObject
  rw [funext h.expandTerm]

theorem typeStatements_congr (h : c.Agrees c') (subject graph : String) : ∀ vs : List Json,
    typeStatements c subject graph vs = typeStatements c' subject graph vs
  | [] => rfl
  | .string t :: vs => by
    rw [typeStatements, typeStatements, typeStatements_congr h subject graph vs, h.expandTerm]
  | .null :: _ | .bool _ :: _ | .int _ :: _ | .float _ :: _ | .array _ :: _ | .object _ :: _ => rfl

theorem innerContext_congr (h : c.Agrees c') (fs : Json.Fields) :
    Context.ResultsAgree (innerContext c fs) (innerContext c' fs) := by
  unfold innerContext
  cases Json.Fields.get? fs "@context" with
  | some v => exact h.merge v
  | none => exact .ok h

theorem header_bind_congr (h : c.Agrees c') (graph : String) (fs : Json.Fields) {α : Type}
    {k k' : Header → Naming α} (hk : ∀ {inner inner' : Context}, inner.Agrees inner' →
      ∀ graph iri, k ⟨inner, graph, iri⟩ = k' ⟨inner', graph, iri⟩) :
    (header c graph fs >>= k) = header c' graph fs >>= k' := by
  have hinner := innerContext_congr h fs
  unfold header
  revert hinner
  generalize innerContext c fs = x
  generalize innerContext c' fs = x'
  rintro (hagree | e)
  · simp only [liftM_ok, pure_bind, bind_assoc]
    congr 1
    funext found
    cases found with
    | some id =>
      simp only [bind_assoc, pure_bind, nodeIri_congr (hagree.expandReference id), hk hagree]
    | none =>
      dsimp only
      split
      · simp only [pure_bind, hk hagree]
      · simp only [bind_assoc, pure_bind, hk hagree]
  · rfl

mutual

theorem ofValue_congr : ∀ (v : Json) {c c' : Context}, c.Agrees c' → ∀ (p : Place)
    (coercion : Option Coercion), ofValue c p coercion v = ofValue c' p coercion v
  | .null, _, _, _, p, coercion | .bool b, _, _, _, p, coercion | .int n, _, _, _, p, coercion
  | .float x, _, _, _, p, coercion => by
    rw [ofValue, ofValue]
  | .string s, c, c', h, p, coercion => by
    cases coercion with
    | none => rw [ofValue, ofValue]
    | some co =>
      cases co with
      | id => rw [ofValue, ofValue, nodeIri_congr (h.expandReference s)]
      | datatype d => rw [ofValue, ofValue]
  | .array items, c, c', h, p, coercion => by
    rw [ofValue, ofValue]
    exact ofItems_congr items h p coercion
  | .object fs, c, c', h, p, coercion => by
    rw [ofValue, ofValue]
    cases Json.Fields.get? fs "@value" with
    | some literal =>
      dsimp only
      rw [valueObject_congr h]
    | none =>
      dsimp only
      rw [ofKey_congr fs h p coercion "@list", ofKey_congr fs h p coercion "@set",
        nodeIri_congr (h.expandReference _)]
      split
      · rfl
      split
      · rfl
      split
      · rfl
      exact header_bind_congr h p.graph fs fun hinner graph iri => by
        rw [ofFields_congr fs hinner]

theorem ofItems_congr : ∀ (vs : List Json) {c c' : Context}, c.Agrees c' → ∀ (p : Place)
    (coercion : Option Coercion), ofItems c p coercion vs = ofItems c' p coercion vs
  | [], _, _, _, p, coercion => by rw [ofItems, ofItems]
  | v :: vs, c, c', h, p, coercion => by
    rw [ofItems, ofItems, ofValue_congr v h, ofItems_congr vs h]

theorem ofKey_congr : ∀ (fs : List (String × Json)) {c c' : Context}, c.Agrees c' → ∀ (p : Place)
    (coercion : Option Coercion) (key : String),
    ofKey c p coercion key fs = ofKey c' p coercion key fs
  | [], _, _, _, p, coercion, key => by rw [ofKey, ofKey]
  | (k, v) :: fs, c, c', h, p, coercion, key => by
    rw [ofKey, ofKey, ofValue_congr v h, ofKey_congr fs h]

theorem ofFields_congr : ∀ (fs : List (String × Json)) {c c' : Context}, c.Agrees c' →
    ∀ subject graph : String, ofFields c subject graph fs = ofFields c' subject graph fs
  | [], _, _, _, subject, graph => by rw [ofFields, ofFields]
  | (k, v) :: fs, c, c', h, subject, graph => by
    rw [ofFields, ofFields, typeStatements_congr h, ofChildren_congr v h, h.expandTerm,
      h.coercions, ofValue_congr v h, ofFields_congr fs h]

theorem ofChildren_congr : ∀ (v : Json) {c c' : Context}, c.Agrees c' → ∀ graph : String,
    ofChildren c graph v = ofChildren c' graph v
  | .null, _, _, _, graph | .bool b, _, _, _, graph | .int n, _, _, _, graph
  | .float x, _, _, _, graph | .string s, _, _, _, graph => by
    rw [ofChildren, ofChildren] <;> exact fun _ h => nomatch h
  | .array items, c, c', h, graph => by
    rw [ofChildren, ofChildren]
    exact ofChildList_congr items h graph
  | .object fs, c, c', h, graph => by
    rw [ofChildren, ofChildren]
    exact header_bind_congr h graph fs fun hinner graph iri => ofFields_congr fs hinner iri graph

theorem ofChildList_congr : ∀ (vs : List Json) {c c' : Context}, c.Agrees c' → ∀ graph : String,
    ofChildList c graph vs = ofChildList c' graph vs
  | [], _, _, _, graph => by rw [ofChildList, ofChildList]
  | .object fs :: vs, c, c', h, graph => by
    rw [ofChildList, ofChildList, ofChildList_congr vs h]
    exact header_bind_congr h graph fs fun hinner graph' iri => by
      rw [ofFields_congr fs hinner]
  | .null :: _, _, _, _, graph | .bool b :: _, _, _, _, graph | .int n :: _, _, _, _, graph
  | .float x :: _, _, _, _, graph | .string s :: _, _, _, _, graph
  | .array items :: _, _, _, _, graph => by
    rw [ofChildList, ofChildList] <;> exact fun _ h => nomatch h

end

/-- **A node** makes the same statements in contexts that agree. -/
theorem ofNode_congr (h : c.Agrees c') (fs : Json.Fields) : ofNode c fs = ofNode c' fs :=
  header_bind_congr h Vocabulary.defaultGraph fs fun hinner graph iri =>
    ofFields_congr fs hinner iri graph

/-! ### A context inside that changes nothing -/

/-- The fields of an object without its context. -/
def withoutContext (fs : Json.Fields) : Json.Fields := fs.filter fun f => f.1 != "@context"

section Without
variable (fs : Json.Fields)

theorem get?_withoutContext {key : String} (hkey : key ≠ "@context") :
    Json.Fields.get? (withoutContext fs) key = Json.Fields.get? fs key := by
  unfold Json.Fields.get? withoutContext
  rw [Context.lookup_filter_ne, if_neg hkey]

theorem has_withoutContext {key : String} (hkey : key ≠ "@context") :
    Json.Fields.has (withoutContext fs) key = Json.Fields.has fs key := by
  rw [has_eq_isSome, has_eq_isSome, get?_withoutContext fs hkey]

theorem all_withoutContext {q : String → Bool} (hq : q "@context" = true) :
    ((withoutContext fs).all fun f => q f.1) = fs.all fun f => q f.1 := by
  rw [withoutContext, List.all_filter]
  refine congrArg fs.all (funext fun f => ?_)
  by_cases hf : f.1 = "@context"
  · simp [hf, hq]
  · simp [hf]

theorem isContainer_withoutContext : isContainer (withoutContext fs) = isContainer fs := by
  rw [isContainer, isContainer, has_withoutContext fs (by decide), all_withoutContext fs rfl]

theorem isReference_withoutContext : isReference (withoutContext fs) = isReference fs := by
  have hall := all_withoutContext fs (q := fun k => k = "@id" || k = "@context") (by decide)
  rw [isReference, isReference, has_withoutContext fs (by decide), hall]

theorem valueObject_withoutContext (c : Context) (p : Place) (literal : Json) :
    valueObject c p literal (withoutContext fs) = valueObject c p literal fs := by
  unfold valueObject
  rw [get?_withoutContext fs (by decide), get?_withoutContext fs (by decide)]

theorem ofKey_withoutContext (c : Context) (p : Place) (coercion : Option Coercion) {key : String}
    (hkey : key ≠ "@context") :
    ofKey c p coercion key (withoutContext fs) = ofKey c p coercion key fs := by
  induction fs with
  | nil => rfl
  | cons f fs ih =>
    obtain ⟨k, v⟩ := f
    unfold withoutContext at ih ⊢
    by_cases hk : k = "@context"
    · rw [List.filter_cons_of_neg (by simp [hk]), ih, ofKey, if_neg (by rw [hk]; exact hkey.symm)]
    · rw [List.filter_cons_of_pos (by simp [hk]), ofKey, ofKey, ih]

theorem ofFields_withoutContext (c : Context) (subject graph : String) :
    ofFields c subject graph (withoutContext fs) = ofFields c subject graph fs := by
  induction fs with
  | nil => rfl
  | cons f fs ih =>
    obtain ⟨k, v⟩ := f
    unfold withoutContext at ih ⊢
    by_cases hk : k = "@context"
    · subst hk
      have hkeyword : isKeyword "@context" = true := by decide
      rw [List.filter_cons_of_neg (by simp), ih, ofFields, if_neg (by decide), if_neg (by decide),
        if_pos hkeyword]
      simp
    · rw [List.filter_cons_of_pos (by simp [hk]), ofFields, ofFields, ih]

theorem header_withoutContext {v : Json} (hv : Json.Fields.get? fs "@context" = some v)
    (hmerge : c.merge v = .ok c') (graph : String) :
    header c' graph (withoutContext fs) = header c graph fs := by
  have hinner : innerContext c fs = .ok c' := by
    rw [innerContext, hv]
    exact hmerge
  have hnone : innerContext c' (withoutContext fs) = .ok c' := by
    unfold innerContext Json.Fields.get? withoutContext
    rw [Context.lookup_filter_ne, if_pos rfl]
  have hid : explicitId (withoutContext fs) = explicitId fs := by
    unfold explicitId
    rw [get?_withoutContext fs (by decide)]
  unfold header
  rw [hinner, hnone, hid, isContainer_withoutContext]

end Without

section Inside
variable {fs : Json.Fields} {v : Json} (hv : Json.Fields.get? fs "@context" = some v)
  (hmerge : c.merge v = .ok c') (h : c.Agrees c')
include hv hmerge h

/-- **A context inside** a node that leaves one that agrees changes no statement of the node. -/
theorem ofNode_withoutContext : ofNode c (withoutContext fs) = ofNode c fs := by
  rw [ofNode_congr h]
  unfold ofNode
  rw [header_withoutContext fs hv hmerge]
  simp only [ofFields_withoutContext]

theorem ofValue_withoutContext (p : Place) (coercion : Option Coercion) :
    ofValue c p coercion (.object (withoutContext fs)) = ofValue c p coercion (.object fs) := by
  have hnested : ofNested c p (withoutContext fs) = ofNested c p fs := calc
    ofNested c p (withoutContext fs) = ofNested c' p (withoutContext fs) := by
      unfold ofNested
      exact header_bind_congr h p.graph _ fun hinner graph iri => by rw [ofFields_congr _ hinner]
    _ = ofNested c p fs := by
      unfold ofNested
      rw [header_withoutContext fs hv hmerge]
      simp only [ofFields_withoutContext]
  rw [ofValue, ofValue, get?_withoutContext fs (by decide), has_withoutContext fs (by decide),
    has_withoutContext fs (by decide), isReference_withoutContext,
    get?_withoutContext fs (by decide), ofKey_withoutContext fs c p coercion (by decide),
    ofKey_withoutContext fs c p coercion (by decide)]
  cases Json.Fields.get? fs "@value" with
  | some literal =>
    dsimp only
    rw [valueObject_withoutContext]
  | none =>
    dsimp only
    split
    · rfl
    split
    · rfl
    split
    · rfl
    exact hnested

end Inside

end Nodes

end GraphLedger.JsonLd
