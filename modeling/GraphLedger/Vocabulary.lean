/-!
# Vocabulary

The IRIs that the library itself knows: the property that gives a node its type, and the datatypes
that literals get without being told.
-/

namespace GraphLedger.Vocabulary

/-- The property from a node to its type. -/
def rdfType : String := "http://www.w3.org/1999/02/22-rdf-syntax-ns#type"

/-- The datatype of literals with a language. -/
def langString : String := "http://www.w3.org/1999/02/22-rdf-syntax-ns#langString"

/-- The datatype of texts, which is the one of literals that name none. -/
def xsdString : String := "http://www.w3.org/2001/XMLSchema#string"

/-- The datatype of whole numbers. -/
def xsdInteger : String := "http://www.w3.org/2001/XMLSchema#integer"

/-- The datatype of floating point numbers. -/
def xsdDouble : String := "http://www.w3.org/2001/XMLSchema#double"

/-- The datatype of truth values. -/
def xsdBoolean : String := "http://www.w3.org/2001/XMLSchema#boolean"

/-- What the IRIs begin with that stand for blank nodes. -/
def skolemStart : String := "urn:podgraph:skolem:"

/-- The graph of statements that name none. -/
def defaultGraph : String := ""

end GraphLedger.Vocabulary
