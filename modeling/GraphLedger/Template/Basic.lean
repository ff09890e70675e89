import GraphLedger.Json.Basic

/-!
# Templates

A template is text with tags in double braces. A tag shows a value, calls a helper, or opens or
closes a block, whose contents a helper shows once, many times or not at all. A decoration gives a
name to its contents, and a partial shows the contents of a name for another value. Values are named
by paths into the data for which the template is rendered.
-/

namespace GraphLedger.Template

/-- Why a template cannot be read or rendered. -/
inductive Fault where
  | badTag
  | badLiteral (text : String)
  | strayTag
  | unclosedBlock (name : String)
  | wrongClose (name close : String)
  | unknownHelper (name : String)
  | missingParameter (helper : String) (index : Nat)
  | badIndex (name : String)
  | badLogLevel (level : String)
  | unknownPartial (name : String)
  | unknownDecorator (name : String)
  | badPartialName
  | noContents (decorator : String)
  | tooDeep
  deriving DecidableEq, Inhabited, Repr

/-- The wording of a fault. -/
def Fault.message : Fault → String
  | .badTag => "a tag is not well formed"
  | .badLiteral text => "the literal " ++ text ++ " is not well formed"
  | .strayTag => "a tag stands outside of a block"
  | .unclosedBlock name => "the block '" ++ name ++ "' is not closed"
  | .wrongClose name close => "the block '" ++ name ++ "' is closed by '" ++ close ++ "'"
  | .unknownHelper name => "the helper '" ++ name ++ "' is not known"
  | .missingParameter helper index =>
    "the helper '" ++ helper ++ "' has no parameter " ++ toString index
  | .badIndex name => "'" ++ name ++ "' is no index of an array"
  | .badLogLevel level => "the log level '" ++ level ++ "' is not known"
  | .unknownPartial name => "the partial '" ++ name ++ "' is not known"
  | .unknownDecorator name => "the decorator '" ++ name ++ "' is not known"
  | .badPartialName => "the name of a partial is not a string"
  | .noContents decorator => "the decorator '" ++ decorator ++ "' has no contents"
  | .tooDeep => "partials are nested too deeply"

/-! ### Paths -/

/-- Where a path begins: at the value of a block, at the data, or at the variables of a block. -/
inductive Origin where
  | block
  | root
  | variable
  deriving DecidableEq, Inhabited, Repr

/-- A path: where it begins, how many blocks it goes up, and the names it follows; and how it is
written. -/
structure Path where
  text : String
  origin : Origin
  up : Nat
  names : List String
  deriving DecidableEq, Inhabited, Repr

/-! ### Tags -/

/-- A parameter: a literal, a path, or what a helper answers. -/
inductive Param where
  | literal (value : Json)
  | path (p : Path)
  | call (helper : String) (params : List Param) (options : List (String × Param))
  deriving Inhabited

/-- A call of a helper, with the names that it gives to the values it goes through. -/
structure Call where
  helper : String
  params : List Param
  options : List (String × Param)
  names : List String
  deriving Inhabited

/-- A part of a template. -/
inductive Element where
  | text (s : String)
  | value (p : Param)
  | call (c : Call)
  | block (c : Call) (body inverse : List Element)
  | piece (name : Param) (params : List Param) (options : List (String × Param))
      (contents : Option (List Element))
  | decoration (c : Call) (contents : Option (List Element))
  deriving Inhabited

end GraphLedger.Template
