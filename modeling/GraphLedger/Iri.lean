import GraphLedger.Text.Blank

/-!
# Absolute IRIs

An IRI has a scheme if a colon follows a letter and then letters, digits and the signs `+`, `-` and
`.`; it is absolute if something follows the colon and no blank occurs in it.
-/

namespace GraphLedger.Iri

/-- Whether a character may stand in a scheme after its first letter. -/
def isSchemePart (c : Char) : Bool :=
  c.isAlphanum || c == '+' || c == '-' || c == '.'

/-- Whether what stands before the first colon is a scheme. -/
def isScheme : List Char → Bool
  | [] => false
  | c :: cs => c.isAlpha && cs.all isSchemePart

/-- The scheme of an IRI and what follows its colon. -/
def splitScheme? (iri : String) : Option (List Char × List Char) :=
  match Text.splitAtFirst ':' iri.toList with
  | some (scheme, rest) => if isScheme scheme then some (scheme, rest) else none
  | none => none

/-- The scheme of an IRI. -/
def scheme? (iri : String) : Option String := (splitScheme? iri).map fun p => String.ofList p.1

/-- Whether an IRI is absolute. -/
def isAbsolute (iri : String) : Bool :=
  match splitScheme? iri with
  | some (_, rest) => !rest.isEmpty && !iri.toList.any Text.isBlank
  | none => false

end GraphLedger.Iri
