import GraphLedger.Text.Blank

/-!
# Arguments

A command line gives a command, options and operands. The options that every command knows may stand
before the command and after it; what stands after it counts more. An option is given once, but for
those that make a list, and its value stands behind an equals sign or is the next argument. After
two dashes there are only operands.
-/

namespace GraphLedger.CommandLine

/-- Why a command line is refused. -/
inductive UsageFault where
  | noCommand
  | unknownCommand (name : String)
  | unknownOption (name : String)
  | repeatedOption (name : String)
  | missingValue (name : String)
  | unwantedValue (name : String)
  | exclusive (first second : String)
  | missingOperand (name : String)
  | unexpectedOperand (text : String)
  deriving DecidableEq, Inhabited, Repr

/-- The wording of a fault. -/
def UsageFault.message : UsageFault → String
  | .noCommand => "a command is required"
  | .unknownCommand name => "unrecognized command '" ++ name ++ "'"
  | .unknownOption name => "unexpected option '" ++ name ++ "'"
  | .repeatedOption name => "option '" ++ name ++ "' cannot be used multiple times"
  | .missingValue name => "a value is required for '" ++ name ++ "'"
  | .unwantedValue name => "unexpected value for option '" ++ name ++ "'"
  | .exclusive first second => "option '" ++ first ++ "' cannot be used with '" ++ second ++ "'"
  | .missingOperand name => "the operand " ++ name ++ " is required"
  | .unexpectedOperand text => "unexpected argument '" ++ text ++ "'"

/-- Why a command line leads to no invocation: it is refused, or only asks about the program. -/
inductive Interruption where
  | refused (fault : UsageFault)
  | help
  | version
  deriving DecidableEq, Inhabited, Repr

/-! ### Single arguments -/

/-- What an argument is by its form. -/
inductive Argument where
  | endOfOptions
  | long (name : String) (value : Option String)
  | letters (cs : List Char)
  | operand
  deriving DecidableEq, Repr

/-- An option with a long name, after the two dashes. -/
def longOf (cs : List Char) : Argument :=
  match Text.splitAtFirst '=' cs with
  | some (name, value) => .long (String.ofList name) (some (String.ofList value))
  | none => .long (String.ofList cs) none

/-- What an argument is; a single dash is an operand. -/
def Argument.ofText (text : String) : Argument :=
  match text.toList with
  | ['-', '-'] => .endOfOptions
  | '-' :: '-' :: cs => longOf cs
  | '-' :: c :: cs => .letters (c :: cs)
  | _ => .operand

/-! ### Options and operands -/

/-- What may be given: flags with their letters, options with values, those of them that make a
list, and the greatest number of operands. -/
structure Grammar where
  flags : List (String × Option Char)
  valued : List String
  lists : List String
  operands : Nat

namespace Grammar

/-- Whether a name is that of a flag. -/
def isFlag (g : Grammar) (name : String) : Bool := g.flags.any fun f => f.1 == name

/-- The flag of a letter. -/
def ofLetter? (g : Grammar) (c : Char) : Option String :=
  (g.flags.find? fun f => f.2 == some c).map Prod.fst

/-- What every command knows. -/
def general : Grammar :=
  ⟨[("verbose", some 'v'), ("quiet", some 'q'), ("no-color", none), ("help", some 'h')],
    ["config"], [], 0⟩

/-- What may stand before the command. -/
def beforeCommand : Grammar :=
  { general with flags := general.flags ++ [("version", some 'V')] }

/-- What may stand after the command that applies a request. -/
def afterApply : Grammar where
  flags := general.flags ++ [("show-records", none)]
  valued := general.valued ++ ["query-fixtures", "refs-root", "slice-schema"]
  lists := ["slice-schema"]
  operands := 1

end Grammar

/-- What is given. -/
structure Given where
  flags : List String
  values : List (String × String)
  operands : List String
  deriving DecidableEq, Inhabited, Repr

namespace Given

/-- What is given before the first argument is read. -/
def empty : Given := ⟨[], [], []⟩

/-- Whether a flag is given. -/
def has (g : Given) (name : String) : Bool := g.flags.contains name

/-- The value of an option. -/
def value? (g : Given) (name : String) : Option String := g.values.lookup name

/-- The values of an option in their order. -/
def valuesOf (g : Given) (name : String) : List String :=
  (g.values.filter fun v => v.1 == name).map Prod.snd

/-- Adds a flag; the flags that ask about the program end everything. -/
def addFlag (g : Given) (name : String) : Except Interruption Given :=
  if name = "help" then .error .help
  else if name = "version" then .error .version
  else if g.has name then .error (.refused (.repeatedOption name))
  else .ok { g with flags := g.flags ++ [name] }

/-- Adds the flags of letters. -/
def addLetters (grammar : Grammar) : Given → List Char → Except Interruption Given
  | g, [] => .ok g
  | g, c :: cs =>
    match grammar.ofLetter? c with
    | some name => do addLetters grammar (← g.addFlag name) cs
    | none => .error (.refused (.unknownOption (String.ofList ['-', c])))

/-- Adds an option with its value, which must not be empty. -/
def addValue (grammar : Grammar) (g : Given) (name value : String) : Except Interruption Given :=
  if value.isEmpty then .error (.refused (.missingValue name))
  else if (g.value? name).isSome && !grammar.lists.contains name then
    .error (.refused (.repeatedOption name))
  else .ok { g with values := g.values ++ [(name, value)] }

/-- Adds an operand, which must not be empty. -/
def addOperand (grammar : Grammar) (g : Given) (text : String) : Except Interruption Given :=
  if grammar.operands ≤ g.operands.length then .error (.refused (.unexpectedOperand text))
  else if text.isEmpty then .error (.refused (.missingValue text))
  else .ok { g with operands := g.operands ++ [text] }

end Given

/-! ### Sequences of arguments -/

/-- Reads arguments, up to the first operand if that is the command; what is left of them then. -/
def scan (grammar : Grammar) (untilCommand : Bool) :
    List String → Given → Except Interruption (Given × List String)
  | [], g => .ok (g, [])
  | arg :: rest, g =>
    match Argument.ofText arg with
    | .endOfOptions => do return (← rest.foldlM (Given.addOperand grammar) g, [])
    | .letters cs => do scan grammar untilCommand rest (← g.addLetters grammar cs)
    | .operand =>
      if untilCommand then .ok (g, arg :: rest)
      else do scan grammar untilCommand rest (← g.addOperand grammar arg)
    | .long name value? =>
      if grammar.isFlag name then
        if value?.isSome then .error (.refused (.unwantedValue name))
        else do scan grammar untilCommand rest (← g.addFlag name)
      else if grammar.valued.contains name then
        match value?, rest with
        | some value, rest => do scan grammar untilCommand rest (← g.addValue grammar name value)
        | none, value :: rest =>
          if Argument.ofText value = .operand then do
            scan grammar untilCommand rest (← g.addValue grammar name value)
          else .error (.refused (.missingValue name))
        | none, [] => .error (.refused (.missingValue name))
      else .error (.refused (.unknownOption name))

/-! ### Invocations -/

/-- The options that every command knows. How much is logged changes nothing in the output. -/
structure Options where
  noColor : Bool
  config : Option String
  deriving DecidableEq, Inhabited, Repr

/-- What a request is applied with. -/
structure ApplyArguments where
  request : String
  queryFixtures : Option String
  refsRoot : Option String
  sliceSchemas : List String
  showRecords : Bool
  deriving DecidableEq, Inhabited, Repr

/-- A command. -/
inductive Command where
  | apply (args : ApplyArguments)
  | check
  deriving DecidableEq, Inhabited, Repr

/-- A command with its options. -/
structure Invocation where
  options : Options
  command : Command
  deriving DecidableEq, Inhabited, Repr

/-- Checks that flags do not exclude each other. -/
def checkExclusive (g : Given) : Except Interruption Unit :=
  if g.has "verbose" && g.has "quiet" then .error (.refused (.exclusive "verbose" "quiet"))
  else .ok ()

/-- The configuration that is used: the one given after the command, before it, or else by the
environment, which must not be empty if it is looked at. -/
def configOf (environment : Option String) (before after : Given) :
    Except Interruption (Option String) :=
  match environment, before.value? "config", after.value? "config" with
  | _, some _, some config => .ok (some config)
  | some "", _, _ => .error (.refused (.missingValue "config"))
  | _, _, some config => .ok (some config)
  | _, some config, none => .ok (some config)
  | environment, none, none => .ok environment

/-- The options of an invocation. -/
def optionsOf (environment : Option String) (before after : Given) :
    Except Interruption Options := do
  checkExclusive before
  checkExclusive after
  let config ← configOf environment before after
  return ⟨before.has "no-color" || after.has "no-color", config⟩

/-- The command that applies a request. -/
def applyOf (g : Given) : Except Interruption Command :=
  match g.operands with
  | request :: _ =>
    .ok (.apply ⟨request, g.value? "query-fixtures", g.value? "refs-root",
      g.valuesOf "slice-schema", g.has "show-records"⟩)
  | [] => .error (.refused (.missingOperand "REQUEST"))

/-- What is asked for with the command for help. -/
def helpOn : List String → Interruption
  | [] => .help
  | ["apply"] => .help
  | ["check"] => .help
  | ["help"] => .help
  | name :: _ => .refused (.unknownCommand name)

/-- The invocation of a command line, given the name of a configuration in the environment. -/
def Invocation.parse (environment : Option String) (args : List String) :
    Except Interruption Invocation := do
  let (before, rest) ← scan .beforeCommand true args .empty
  match rest with
  | [] => throw (.refused .noCommand)
  | "apply" :: rest =>
    let (after, _) ← scan .afterApply false rest .empty
    let command ← applyOf after
    return ⟨← optionsOf environment before after, command⟩
  | "check" :: rest =>
    let (after, _) ← scan .general false rest .empty
    return ⟨← optionsOf environment before after, .check⟩
  | "help" :: rest => throw (helpOn rest)
  | name :: _ => throw (.refused (.unknownCommand name))

end GraphLedger.CommandLine
