/-!
# Faults of configuration texts

What is wrong with a text that is no TOML.
-/

namespace GraphLedger.Toml

/-- Why a text is no TOML. -/
inductive Fault where
  | endOfText
  | unexpected (c : Char)
  | badScalar (word : String)
  | badEscape
  | duplicateKey (key : String)
  | notTable (key : String)
  | tooDeep
  deriving DecidableEq, Repr

/-- The wording of a fault. -/
def Fault.message : Fault → String
  | .endOfText => "the text ends inside an expression"
  | .unexpected c => "unexpected character " ++ String.ofList [c]
  | .badScalar word => "no number, truth value or time is written " ++ word
  | .badEscape => "an escape is malformed"
  | .duplicateKey _ => "a key is defined twice"
  | .notTable _ => "a key on the way does not name a table"
  | .tooDeep => "values are nested too deeply"

/-- The fault of a text that goes on where it must not, or ends. -/
def Fault.at : List Char → Fault
  | [] => .endOfText
  | c :: _ => .unexpected c

end GraphLedger.Toml
