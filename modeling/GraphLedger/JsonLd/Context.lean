import GraphLedger.Iri
import GraphLedger.Failure

/-!
# Contexts

A context says what the names in a JSON-LD object stand for: terms and prefixes with their IRIs, the
vocabulary that other property names are in, and the base of relative references. A term may also
tell how its values are to be read. Contexts are merged one after the other; the definitions of a
merged context are expanded once against all definitions known by then.
-/

namespace GraphLedger.JsonLd

/-- What is wrong with an object that cannot be turned into statements. -/
inductive Fault where
  | remoteContext (iri : String)
  | badContext (value : Json)
  | badTerm (term : String) (value : Json)
  | badId (value : Json)
  | badType (value : Json)
  | badGraphEntry (value : Json)
  | typedLanguage
  | nullValue
  | notDocument (value : Json)
  | notNode (value : Json)
  deriving DecidableEq, Inhabited

/-- The wording of a fault. -/
def Fault.message : Fault → String
  | .remoteContext iri => "remote context '" ++ iri ++ "' is not supported"
  | .badContext v => "invalid @context value: " ++ v.compact
  | .badTerm t v => "invalid definition for term '" ++ t ++ "': " ++ v.compact
  | .badId v => "@id must be a string, found " ++ v.compact
  | .badType v => "@type must be a string, found " ++ v.compact
  | .badGraphEntry v => "@graph entries must be objects, found " ++ v.compact
  | .typedLanguage => "@language cannot be used for values with a specified @type"
  | .nullValue => "@value must not be null"
  | .notDocument v => "expected a JSON-LD object or array, found " ++ v.compact
  | .notNode v => "expected a JSON-LD node object, found " ++ v.compact

/-- A fault as the failure of a step. -/
def Fault.toFailure (e : Fault) : Failure := .validation e.message

/-- How the strings that are values of a term are read. -/
inductive Coercion where
  | id
  | datatype (iri : String)
  deriving DecidableEq, Inhabited, Repr

/-- What a term stands for. -/
structure Term where
  iri : String
  coercion : Option Coercion
  deriving DecidableEq, Inhabited, Repr

/-- The meaning of the names in an object. -/
structure Context where
  terms : List (String × Term)
  vocab : Option String
  base : Option String
  deriving DecidableEq, Inhabited, Repr

namespace Context

/-- The context that defines nothing. -/
def empty : Context := ⟨[], none, none⟩

/-- What a name stands for. -/
def term? (c : Context) (name : String) : Option Term := c.terms.lookup name

/-- How the values of a name are read. -/
def coercion? (c : Context) (name : String) : Option Coercion :=
  (c.term? name).bind Term.coercion

/-- Gives a name a meaning. -/
def define (c : Context) (name : String) (t : Term) : Context :=
  { c with terms := (name, t) :: c.terms.filter fun p => p.1 != name }

/-- Takes the meaning of a name away. -/
def undefine (c : Context) (name : String) : Context :=
  { c with terms := c.terms.filter fun p => p.1 != name }

/-! ### Expansion -/

/-- Whether a text begins with two slashes. -/
def isHierarchical : List Char → Bool
  | '/' :: '/' :: _ => true
  | _ => false

/-- The IRI of a name that begins with a term and a colon. What follows the colon of an IRI with an
authority is no local name. -/
def expandPrefixed? (c : Context) (value : String) : Option String :=
  match Text.splitAtFirst ':' value.toList with
  | none => none
  | some (name, rest) =>
    if isHierarchical rest then none
    else (c.term? (String.ofList name)).map fun t => t.iri ++ String.ofList rest

/-- Whether a name is a blank node label or a keyword, which are never expanded. -/
def isReserved (value : String) : Bool :=
  match value.toList with
  | '_' :: ':' :: _ => true
  | '@' :: _ => true
  | _ => false

/-- The IRI of a name as a property or a type. -/
def expandTerm (c : Context) (value : String) : String :=
  if isReserved value then value
  else
    match c.term? value with
    | some t => t.iri
    | none =>
      match c.expandPrefixed? value with
      | some iri => iri
      | none =>
        if (Iri.scheme? value).isSome then value
        else
          match c.vocab with
          | some v => v ++ value
          | none => value

/-- The IRI of a name as a reference to a node. -/
def expandReference (c : Context) (value : String) : String :=
  if isReserved value then value
  else
    match c.expandPrefixed? value with
    | some iri => iri
    | none =>
      if (Iri.scheme? value).isSome then value
      else
        match c.base with
        | some b => b ++ value
        | none => value

/-! ### Merging -/

/-- The keywords of a context object, applied before its terms. -/
def withKeywords (c : Context) (fs : Json.Fields) : Context :=
  let c := match Json.Fields.get? fs "@vocab" with
    | some v => { c with vocab := v.asString?.map c.expandReference }
    | none => c
  match Json.Fields.get? fs "@base" with
  | some v => { c with base := v.asString? }
  | none => c

/-- How a type in the definition of a term makes its values read. -/
def coercionOf (type : String) : Coercion :=
  if type = "@id" || type = "@vocab" then .id else .datatype type

/-- Whether a key of a context object is a keyword. -/
def isKeyword (key : String) : Bool :=
  match key.toList with
  | '@' :: _ => true
  | _ => false

/-- Applies one definition, as it is written. -/
def withDefinition (c : Context) (name : String) : Json → Except Fault Context
  | .null => .ok (c.undefine name)
  | .string iri => .ok (c.define name ⟨iri, none⟩)
  | .object fs =>
    let iri := ((Json.Fields.get? fs "@id").bind Json.asString?).getD name
    let type := (Json.Fields.get? fs "@type").bind Json.asString?
    .ok (c.define name ⟨iri, type.map coercionOf⟩)
  | v => .error (.badTerm name v)

/-- Applies the definitions of a context object in the order of their names. -/
def withDefinitions (c : Context) : Json.Fields → Except Fault Context
  | [] => .ok c
  | (name, v) :: fs =>
    if isKeyword name then withDefinitions c fs
    else
      match withDefinition c name v with
      | .ok c => withDefinitions c fs
      | .error e => .error e

/-- A definition expanded against a context. -/
def resolveTerm (c : Context) (t : Term) : Term :=
  ⟨(c.expandPrefixed? t.iri).getD t.iri,
    match t.coercion with
    | some (.datatype d) => some (.datatype (c.expandTerm d))
    | other => other⟩

/-- Every definition expanded once against the context as it stands. -/
def resolved (c : Context) : Context :=
  { c with terms := c.terms.map fun p => (p.1, c.resolveTerm p.2) }

/-- The context with a context object applied. -/
def apply (c : Context) (fs : Json.Fields) : Except Fault Context :=
  ((c.withKeywords fs).withDefinitions fs).map resolved

mutual

/-- The context with a value of `@context` merged into it. -/
def merge (c : Context) : Json → Except Fault Context
  | .null => .ok empty
  | .array items => mergeAll c items
  | .object fs => c.apply fs
  | .string iri => .error (.remoteContext iri)
  | .bool b => .error (.badContext (.bool b))
  | .int n => .error (.badContext (.int n))
  | .float x => .error (.badContext (.float x))

/-- Merges values one after the other. -/
def mergeAll (c : Context) : List Json → Except Fault Context
  | [] => .ok c
  | v :: vs =>
    match merge c v with
    | .ok c => mergeAll c vs
    | .error e => .error e

end

/-- The context that a value of `@context` defines. -/
def parse (v : Json) : Except Fault Context := empty.merge v

end Context

end GraphLedger.JsonLd
