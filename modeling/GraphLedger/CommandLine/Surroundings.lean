import GraphLedger.Failure

/-!
# Surroundings

What a command sees of its surroundings, and what it leaves: lines on its two outputs and an exit
code. Some words are painted, if the surroundings want colors.
-/

namespace GraphLedger.CommandLine

/-- What a command sees: the texts of files, the standard input unless it is a terminal, the wishes
about colors, the time, and the supply of identifiers. -/
structure Surroundings where
  read : String → Option String
  input : Option String
  noColor : Bool
  color : Option String
  forceColor : Option String
  terminal : Bool
  now : Instant
  supply : Nat

/-! ### Colors -/

/-- Whether words are painted. -/
def Surroundings.isColored (s : Surroundings) (noColor : Bool) : Bool :=
  if noColor || s.noColor then false
  else if s.forceColor.any (· != "0") then true
  else s.terminal && s.color.all (· != "0")

/-- How a word is painted. -/
inductive Tone where
  | error
  | help
  | success
  | warning
  | strong
  deriving DecidableEq, Repr

/-- The code of a tone. -/
def Tone.code : Tone → String
  | .error => "1;31"
  | .help => "1;36"
  | .success => "1;32"
  | .warning => "1;33"
  | .strong => "1"

/-- A word painted, if words are. -/
def paint (colored : Bool) (tone : Tone) (word : String) : String :=
  if colored then "\x1b[" ++ tone.code ++ "m" ++ word ++ "\x1b[0m" else word

/-! ### Outcomes -/

/-- What a command leaves. -/
structure Outcome where
  exitCode : Nat
  output : List String
  errors : List String
  deriving DecidableEq, Inhabited, Repr

/-- Why a command fails before there is a report. -/
inductive RunFault where
  | failure (f : Failure)
  | config (message : String)
  | input (message : String)
  | terminal
  deriving DecidableEq, Inhabited

namespace RunFault

/-- The fault of a failure, where those of the configuration are told apart. -/
def ofFailure : Failure → RunFault
  | .config m => .config m
  | f => .failure f

/-- The exit code: a request cannot be typed in, which is a wrong use of the program. -/
def exitCode : RunFault → Nat
  | .terminal => 2
  | _ => 1

/-- The lines that tell of a fault. -/
def lines (colored : Bool) (e : RunFault) : List String :=
  let error := paint colored .error "error:"
  let help := paint colored .help "help:"
  match e with
  | .failure f => [error ++ " " ++ f.message]
  | .config m =>
    [error ++ " " ++ m, "  " ++ help ++ " run 'podgraph check' to validate a config file"]
  | .input m => [error ++ " " ++ m]
  | .terminal =>
    [error ++ " '-' reads the request from stdin, but nothing is piped",
      "  " ++ help ++ " pass a file path instead"]

/-- The outcome of a fault. -/
def toOutcome (colored : Bool) (e : RunFault) : Outcome := ⟨e.exitCode, [], e.lines colored⟩

end RunFault

end GraphLedger.CommandLine
