import GraphLedger.Template.Render
import GraphLedger.Failure

/-!
# Templates for nodes

The text of a template writes node objects in JSON: one object, or a list of them.
-/

namespace GraphLedger.Template

/-- The object that an item of a list is. -/
def nodeOfItem : Json → Except Failure Json.Fields
  | .object fs => .ok fs
  | v => .error (.validation ("template list items must be objects, found " ++ v.compact))

/-- The objects that a value is. -/
def nodesOfValue : Json → Except Failure (List Json.Fields)
  | .object fs => .ok [fs]
  | .array items => items.mapM nodeOfItem
  | v => .error (.validation ("template must evaluate to a list or a map, found " ++ v.compact))

/-- The node objects that a template makes of data. -/
def nodes (template : String) (data : Json) : Except Failure (List Json.Fields) :=
  match render template data with
  | .error e => .error (.template e.message)
  | .ok text =>
    match Json.read text with
    | .error e => .error (.template ("template output is not valid JSON: " ++ e.message))
    | .ok v => nodesOfValue v

end GraphLedger.Template
