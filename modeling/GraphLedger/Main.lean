import GraphLedger.CommandLine.Run
import Std.Time.DateTime

/-!
# The program

The program reads what a command line may need, runs it, and prints the outcome.
-/

open GraphLedger GraphLedger.CommandLine

namespace GraphLedger.Program

/-- Texts of files by their paths. -/
abbrev Files := List (String × String)

/-- The text of a file, if it can be read. -/
def readFile? (path : String) : IO (Option String) :=
  try
    return some (← IO.FS.readFile path)
  catch _ => return none

/-- The texts of the files that can be read. -/
def readFiles (paths : List String) : IO Files :=
  paths.filterMapM fun path => do return (← readFile? path).map fun text => (path, text)

/-- The text of the standard input if it is wanted, unless it is a terminal. -/
def readInput (wanted : Bool) : IO (Option String) := do
  let stdin ← IO.getStdin
  if ← stdin.isTty then return none
  if wanted then return some (← stdin.readToEnd) else return some ""

/-- The time. -/
def readClock : IO Instant := do
  let nanos := (← Std.Time.Timestamp.now).toNanosecondsSinceUnixEpoch.val
  return ⟨Int.fdiv nanos 1000000000, (Int.fmod nanos 1000000000).toNat⟩

/-- The number of the first identifier: the time and then random bits. -/
def firstIdentifier (now : Instant) : IO Nat := do
  let random := (← IO.getRandomBytes 10).foldl (fun n b => n * 256 + b.toNat) 0
  return (now.seconds.toNat * 1000 + now.nanos / 1000000) * 0x100000000000000000000
    + random

/-- What an invocation sees: the files that it names, and those that its request refers to. -/
def surroundings (i : Invocation) : IO Surroundings := do
  let input ← readInput i.readsInput
  let files ← readFiles i.paths
  let referenced := match i.command with
    | .check => []
    | .apply args =>
      let text := if isStandardInput args.request then input else files.lookup args.request
      match (text.map readRequest) with
      | some (.ok r) => referencePaths args.refsRoot r
      | _ => []
  let files := files ++ (← readFiles referenced)
  let stdout ← IO.getStdout
  let now ← readClock
  return {
    read := fun path => files.lookup path
    input := input
    noColor := (← IO.getEnv "NO_COLOR").isSome
    color := ← IO.getEnv "CLICOLOR"
    forceColor := ← IO.getEnv "CLICOLOR_FORCE"
    terminal := ← stdout.isTty
    now := now
    supply := ← firstIdentifier now }

/-- Prints an outcome. -/
def print (o : Outcome) : IO UInt32 := do
  for line in o.output do IO.println line
  for line in o.errors do IO.eprintln line
  return o.exitCode.toUInt32

end GraphLedger.Program

/-- Runs the command line. -/
def main (args : List String) : IO UInt32 := do
  match Invocation.parse (← IO.getEnv "PODGRAPH_CONFIG") args with
  | .ok i => Program.print (i.run (← Program.surroundings i))
  | .error e => Program.print e.toOutcome
