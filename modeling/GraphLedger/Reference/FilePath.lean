import GraphLedger.Text.Blank

/-!
# File paths

A path is a text in which slashes separate names. Its components are the names in it, where repeated
slashes and names of a single dot do not count, but for a dot at the beginning of a relative path. A
path is below another if it begins with the components of the other.
-/

namespace GraphLedger.FilePath

/-- A component of a path. -/
inductive Component where
  | root
  | here
  | parent
  | name (s : String)
  deriving DecidableEq, Inhabited, Repr

/-- The parts of a text between slashes, the part under way given in reverse. -/
def splitFrom (part : List Char) : List Char → List (List Char)
  | [] => [part.reverse]
  | c :: cs => if c = '/' then part.reverse :: splitFrom [] cs else splitFrom (c :: part) cs

/-- The parts of a text between slashes. -/
def split (cs : List Char) : List (List Char) := splitFrom [] cs

/-- The component that a part between slashes is, if it counts. -/
def component? (part : List Char) : Option Component :=
  if part = [] || part = ['.'] then none
  else if part = ['.', '.'] then some .parent
  else some (.name (String.ofList part))

/-- Whether a path begins at the root. -/
def isAbsolute (path : String) : Bool := path.toList.head? = some '/'

/-- The components of a path. -/
def components (path : String) : List Component :=
  let parts := split path.toList
  let start :=
    if isAbsolute path then [Component.root]
    else if parts.head? = some ['.'] then [.here]
    else []
  start ++ parts.filterMap component?

/-- Whether a path goes up somewhere. -/
def goesUp (path : String) : Bool := (components path).contains .parent

/-- A path seen from another one. -/
def join (base path : String) : String :=
  if isAbsolute path then path
  else if base.isEmpty || base.toList.getLast? = some '/' then base ++ path
  else base ++ "/" ++ path

/-- Whether a path is another one or lies below it. -/
def isBelow (base path : String) : Bool := (components base).isPrefixOf (components path)

/-- The last name of a path. -/
def fileName? (path : String) : Option String :=
  match (components path).getLast? with
  | some (.name s) => some s
  | _ => none

/-- What follows the last dot in the last name of a path, unless the name begins with that dot. -/
def extension? (path : String) : Option String := do
  let name ← fileName? path
  let (after, before) ← Text.splitAtFirst '.' name.toList.reverse
  if before.isEmpty then none else some (String.ofList after.reverse)

end GraphLedger.FilePath
