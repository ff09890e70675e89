import GraphLedger.Template.Value

/-!
# Helpers

The helpers that work on the values of their parameters alone. Some answer a value, others write a
text, which as a parameter is a string. The helpers for blocks write nothing when they have no
block.
-/

namespace GraphLedger.Template.Helper

/-- The value of a parameter. -/
def param (helper : String) (params : List Json) (index : Nat) : Except Fault Json :=
  match params[index]? with
  | some v => .ok v
  | none => .error (.missingParameter helper index)

/-- The value of an option. -/
def option? (options : List (String × Json)) (name : String) : Option Json :=
  options.reverse.lookup name

/-- What a comparison answers that holds for some outcomes. -/
def compared (helper : String) (params : List Json) (holds : Ordering → Bool) :
    Except Fault Json := do
  let a ← param helper params 0
  let b ← param helper params 1
  return .bool ((Value.compare? a b).any holds)

/-- What a helper answers that has a value; none if the helper has no value. -/
def value? (helper : String) (params : List Json) : Option (Except Fault Json) :=
  let first := param helper params 0
  let second := param helper params 1
  match helper with
  | "lookup" => some do return Value.lookup (← first) (← second)
  | "eq" => some do return .bool (Value.same (← first) (← second))
  | "ne" => some do return .bool (!Value.same (← first) (← second))
  | "gt" => some (compared helper params (· == .gt))
  | "gte" => some (compared helper params (· != .lt))
  | "lt" => some (compared helper params (· == .lt))
  | "lte" => some (compared helper params (· != .gt))
  | "and" => some (.ok (.bool (params.all (Value.isTrue false))))
  | "or" => some (.ok (.bool (params.any (Value.isTrue false))))
  | "not" => some do return .bool (!Value.isTrue false (← first))
  | "len" => some do return .int (Value.size (← first))
  | _ => none

/-- The helpers that answer a truth value, whose blocks show their contents or their alternative. -/
def tests : List String := ["eq", "ne", "gt", "gte", "lt", "lte", "and", "or", "not"]

/-- The levels of log messages. -/
def logLevels : List String := ["error", "warn", "info", "debug", "trace"]

/-- What a log message writes, which is nothing; its level must be known. -/
def log (options : List (String × Json)) : Except Fault String :=
  match option? options "level" with
  | some (.string level) =>
    if logLevels.contains level.toLower then .ok "" else .error (.badLogLevel level)
  | _ => .ok ""

/-- What a helper writes that has no value; none if the helper is not known. -/
def text? (helper : String) (params : List Json) (options : List (String × Json)) :
    Option (Except Fault String) :=
  match helper with
  | "json" => some (.ok ((params.head?.map Json.compact).getD ""))
  | "log" => some (log options)
  | "raw" => some (.ok "")
  | "if" => some do
    let _ ← param helper params 0
    return ""
  | "unless" => some do
    let _ ← param helper params 0
    return ""
  | "each" => some do
    let _ ← param helper params 0
    return ""
  | "with" => some do
    let _ ← param helper params 0
    return ""
  | _ => none

/-- The helpers. -/
def names : List String :=
  ["lookup", "eq", "ne", "gt", "gte", "lt", "lte", "and", "or", "not", "len", "json", "log", "raw",
    "if", "unless", "each", "with"]

/-- What a helper answers as a parameter. -/
def answer (helper : String) (params : List Json) (options : List (String × Json)) :
    Except Fault Json :=
  match value? helper params with
  | some r => r
  | none =>
    match text? helper params options with
    | some r => r.map Json.string
    | none => .error (.unknownHelper helper)

/-- What a helper writes. -/
def write (helper : String) (params : List Json) (options : List (String × Json)) :
    Except Fault String :=
  (answer helper params options).map Value.toText

end GraphLedger.Template.Helper
