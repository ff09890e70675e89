import GraphLedger.JsonLd.Node
import GraphLedger.Json.Reader
import GraphLedger.Reference.FilePath

/-!
# Loading references

A reference names a document outside of a request. Loaders claim the references that they
understand, and exactly one loader must claim a reference. What is loaded is a stream of statements,
in which a failure may stand for one. Loaders that read documents draw on the supply of
identifiers.
-/

namespace GraphLedger

/-- How a reference is shown. -/
def Reference.display (r : Reference) : String := r.uri

/-- Why a reference cannot be resolved or loaded. -/
inductive ReferenceFault where
  | unsupported (uri : String)
  | ambiguous (uri first second : String)
  | unknown (uri : String)
  | badFormat (format uri : String)
  | notFile (uri : String)
  | goesUp (uri : String)
  | outside (uri root : String)
  | unreadable (path : String)
  | notJson (path : String) (error : Json.ReadError)
  deriving Repr

namespace ReferenceFault

/-- The wording of a fault. -/
def message : ReferenceFault → String
  | .unsupported uri => "no loader supports reference '" ++ uri ++ "'"
  | .ambiguous uri first second =>
    "reference '" ++ uri ++ "' is supported by both '" ++ first ++ "' and '" ++ second ++ "'"
  | .unknown uri => "unknown reference '" ++ uri ++ "'"
  | .badFormat format uri =>
    "unsupported format '" ++ format ++ "' for reference '" ++ uri ++ "'"
  | .notFile uri => "not a file URI: '" ++ uri ++ "'"
  | .goesUp uri => "file reference '" ++ uri ++ "' must not contain '..'"
  | .outside uri root => "file reference '" ++ uri ++ "' is outside " ++ root
  | .unreadable path => "cannot read " ++ path ++ ": the file cannot be read"
  | .notJson path e => path ++ " is not valid JSON-LD: " ++ e.message

/-- The fault as the failure of a step. -/
def toFailure (e : ReferenceFault) : Failure := .reference e.message

end ReferenceFault

/-- What is loaded: statements, or failures in their place. -/
abbrev StatementStream := List (Except Failure Statement)

/-- The stream of statements. -/
def StatementStream.ofList (sts : List Statement) : StatementStream := sts.map .ok

/-- A source of statements for some references. Loading takes the supply of identifiers and leaves
what is left of it. -/
structure Loader where
  name : String
  supports : Reference → Bool
  load : Reference → Nat → Except Failure StatementStream × Nat

namespace Loader

/-! ### Documents in memory -/

/-- The scheme of documents in memory. -/
def memoryScheme : List Char := "mem://".toList

/-- A text without all repetitions of something at its beginning. -/
def trimRepeated (start : List Char) : Nat → List Char → List Char
  | 0, cs => cs
  | fuel + 1, cs =>
    match Text.afterStart? start cs with
    | some rest => trimRepeated start fuel rest
    | none => cs

/-- The key of a document in memory. -/
def memoryKey (uri : String) : String :=
  String.ofList (trimRepeated memoryScheme uri.length uri.toList)

/-- Documents in memory by their keys. -/
abbrev Documents := List (String × List Statement)

/-- Keeps statements under a key. -/
def Documents.insert (d : Documents) (key : String) (sts : List Statement) : Documents :=
  (key, sts) :: d.filter fun p => p.1 != key

/-- Loads from memory. -/
def loadMemory (d : Documents) (r : Reference) : Except ReferenceFault StatementStream :=
  match d.lookup (memoryKey r.uri) with
  | some sts => .ok (.ofList sts)
  | none => .error (.unknown r.uri)

/-- The loader for documents in memory. -/
def memory (d : Documents) : Loader where
  name := "memory"
  supports r := (Text.afterStart? memoryScheme r.uri.toList).isSome
  load r next := ((loadMemory d r).mapError ReferenceFault.toFailure, next)

/-! ### Files -/

/-- The names of the format of documents. -/
def formats : List String := ["application/ld+json", "application/json", "jsonld", "json"]

/-- Checks that the format is one of documents, if it is given. -/
def checkFormat (r : Reference) : Except ReferenceFault Unit :=
  match r.format with
  | none => .ok ()
  | some f => if formats.contains f then .ok () else .error (.badFormat f r.uri)

/-- The path that a reference means, below the root if there is one. -/
def pathOf (root : Option String) (r : Reference) : Except ReferenceFault String :=
  match Text.stripStart? "file://" r.uri with
  | none => .error (.notFile r.uri)
  | some path =>
    if FilePath.goesUp path then .error (.goesUp r.uri)
    else
      match root with
      | none => .ok path
      | some root =>
        if !FilePath.isAbsolute path then .ok (FilePath.join root path)
        else if FilePath.isBelow root path then .ok path
        else .error (.outside r.uri root)

/-- The document in a file, given the texts of files. -/
def readFile (root : Option String) (read : String → Option String) (r : Reference) :
    Except ReferenceFault Json := do
  checkFormat r
  let path ← pathOf root r
  match read path with
  | none => throw (.unreadable path)
  | some text =>
    match Json.read text with
    | .ok v => return v
    | .error e => throw (.notJson path e)

/-- Loads a file. -/
def loadFile (root : Option String) (read : String → Option String) (r : Reference) (next : Nat) :
    Except Failure StatementStream × Nat :=
  match readFile root read r with
  | .error e => (.error e.toFailure, next)
  | .ok v =>
    match JsonLd.readDocument next v with
    | (.ok sts, next) => (.ok (.ofList sts), next)
    | (.error e, next) => (.error e.toFailure, next)

/-- The loader for files, which are found below the root if there is one. -/
def file (root : Option String) (read : String → Option String) : Loader where
  name := "file"
  supports r := Iri.scheme? r.uri = some "file"
  load := loadFile root read

/-! ### Fixed streams -/

/-- The loader that has one stream for all references that begin in a certain way. -/
def fixed (name start : String) (items : StatementStream) : Loader where
  name := name
  supports r := (Text.stripStart? start r.uri).isSome
  load _ next := (.ok items, next)

end Loader

/-! ### Resolving -/

/-- The only loader that supports a reference. -/
def resolveLoader (loaders : List Loader) (r : Reference) : Except ReferenceFault Loader :=
  match loaders.filter fun l => l.supports r with
  | [] => .error (.unsupported r.uri)
  | [l] => .ok l
  | l :: l' :: _ => .error (.ambiguous r.uri l.name l'.name)

/-- Loads a reference by the loader that supports it. -/
def loadReference (loaders : List Loader) (r : Reference) (next : Nat) :
    Except Failure StatementStream × Nat :=
  match resolveLoader loaders r with
  | .ok l => l.load r next
  | .error e => (.error e.toFailure, next)

end GraphLedger
