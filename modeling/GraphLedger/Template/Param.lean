import GraphLedger.Template.Scan
import GraphLedger.Json.Reader

/-!
# Reading parameters

The parameters of a tag are literals in the manner of JSON, paths, and calls of helpers in
parentheses. A parameter may be given a name.
-/

namespace GraphLedger.Template.Scan

/-- Whether a character may stand in a name. -/
def isSymbol (c : Char) : Bool :=
  c.isAlphanum || c == '_' || c == '-' || c == '$' || c == ':' || 0x80 ≤ c.toNat

/-- A name. -/
def name : Scan String := do return String.ofList (← takeRun isSymbol)

/-! ### Literals -/

/-- What follows a string that is open, with the quote that closes it. -/
def afterString? (quote : Char) : List Char → Option (List Char)
  | [] => none
  | '\\' :: 'u' :: a :: b :: c :: d :: cs =>
    if [a, b, c, d].all fun x => (Json.hexValue? x).isSome then afterString? quote cs else none
  | '\\' :: c :: cs =>
    if c == quote || ['\\', '/', 'b', 'f', 'n', 'r', 't'].contains c then afterString? quote cs
    else none
  | c :: cs =>
    if c == '\\' then none
    else if c == quote then some cs
    else afterString? quote cs

/-- A string in either kind of quotes. -/
def string : Scan Unit := do
  match ← rest with
  | c :: cs =>
    if c == '"' || c == '\'' then
      match afterString? c cs with
      | some after => set after
      | none => failure
    else failure
  | [] => failure

/-- A number that is not the beginning of a longer name. -/
def number : Scan Unit := do
  let _ ← optional ['-']
  let _ ← takeRun Char.isDigit
  let _ ← optional ['.']
  modify fun cs => cs.dropWhile Char.isDigit
  (do
    word ['E']
    let _ ← optional ['-']
    let _ ← takeRun Char.isDigit) <|> return
  refuse (do let _ ← takeRun isSymbol)

/-- A word that is not the beginning of a longer name. -/
def keyword (w : List Char) : Scan Unit := do
  word w
  refuse (do let _ ← takeRun isSymbol)

/-- Items with commas between them up to a closing bracket. -/
def listed (item : Scan Unit) (close : Char) : Scan Unit := do
  let n := (← rest).length
  space
  item <|> return
  let _ ← many (do word [',']; space; item) n
  space
  word [close]

/-- A literal. -/
def literal : Nat → Scan Unit
  | 0 => failure
  | fuel + 1 =>
    string
      <|> (do word ['[']; listed (literal fuel) ']')
      <|> (do
        word ['\x7b']
        listed (do string; space; word [':']; space; literal fuel) '\x7d')
      <|> number
      <|> keyword "null".toList
      <|> keyword "true".toList
      <|> keyword "false".toList

/-- The contents of a string in single quotes as they stand in double ones. -/
def requote : List Char → List Char
  | [] => []
  | '\\' :: '\'' :: cs => '\'' :: requote cs
  | '"' :: cs => '\\' :: '"' :: requote cs
  | c :: cs => c :: requote cs

/-- The value of a literal. -/
def literalValue (text : List Char) : Scan Param := do
  let written := match text with
    | '\'' :: cs => '"' :: (requote cs.dropLast ++ ['"'])
    | cs => cs
  match Json.read (String.ofList written) with
  | .ok v => return .literal v
  | .error _ => fault (.badLiteral (String.ofList text))

/-! ### Paths -/

/-- What separates names in a path. -/
def separator : Scan Unit := word ['.'] <|> word ['/']

/-- A name in a path, which may stand in brackets. -/
def pathName : Scan String :=
  name <|> (do
    word ['[']
    match Text.splitAtFirst ']' (← rest) with
    | some (inner, after) =>
      set after
      return String.ofList inner
    | none => failure)

/-- So many times as a scanner applies, without blanks. -/
def times (x : Scan Unit) : Nat → Scan Nat
  | 0 => return 0
  | fuel + 1 => (do
      x
      let n ← times x fuel
      return n + 1) <|> return 0

/-- The names of a path after the first. -/
def moreNames : Nat → Scan (List String)
  | 0 => return []
  | fuel + 1 => (do
      separator
      let n ← pathName
      let ns ← moreNames fuel
      return n :: ns) <|> return []

/-- A path. The name `this` means the value where the path stands. -/
def path : Scan Path := do
  let n := (← rest).length
  let ((origin, up, names), text) ← withText do
    (do word "this".toList; separator) <|> word "./".toList <|> return
    let root ← (do word "@root".toList; separator; return true) <|> return false
    let isVariable ← optional ['@']
    let up ← times (do word "..".toList; separator) n
    let first ← pathName
    let others ← moreNames n
    let names := (first :: others).filter (· != "this")
    let origin :=
      if root then Origin.root
      else if isVariable && !names.isEmpty then Origin.variable
      else Origin.block
    return (origin, if isVariable && names.isEmpty then 0 else up, names)
  return ⟨String.ofList text, origin, up, names⟩

/-! ### Parameters -/

/-- The words that cannot be parameters. -/
def reserved : Scan Unit := keyword "as".toList <|> keyword "else".toList

/-- The parameters without names among arguments. -/
def paramsOf (args : List (Option String × Param)) : List Param :=
  args.filterMap fun a => if a.1.isNone then some a.2 else none

/-- The parameters with names among arguments. -/
def optionsOf (args : List (Option String × Param)) : List (String × Param) :=
  args.filterMap fun a => a.1.map fun n => (n, a.2)

/-- An argument: a parameter, with or without a name. -/
def argumentOf (param : Scan Param) : Scan (Option String × Param) :=
  (do
    let n ← name
    space
    word ['=']
    space
    let p ← param
    return (some n, p)) <|> (do
    let p ← param
    return (none, p))

/-- A call in parentheses after the opening one, of a helper alone or with arguments. -/
def callOf (param : Scan Param) : Scan Param := do
  let n := (← rest).length
  space
  let call ← (do
      let helper ← name
      let args ← many (argumentOf param) n
      if args.isEmpty then failure
      return Param.call helper (paramsOf args) (optionsOf args)) <|> (do
      let p ← path
      return Param.call p.text [] [])
  space
  word [')']
  return call

/-- A parameter. -/
def param : Nat → Scan Param
  | 0 => failure
  | fuel + 1 => do
    refuse reserved
    (do
      let (_, text) ← withText (literal fuel)
      literalValue text)
      <|> (do return .path (← path))
      <|> (do word ['(']; callOf (param fuel))

/-- Arguments as far as there are any. -/
def arguments : Scan (List (Option String × Param)) := do
  let n := (← rest).length
  many (argumentOf (param (n + 1))) n

end GraphLedger.Template.Scan
