import KitchenFlow.Config.Palette
import KitchenFlow.Payload.Lookup
import KitchenFlow.Run.Event
import KitchenFlow.Run.Result
import KitchenFlow.Text.Case

/-!
# What is printed

Runs, events and kinds of nodes as lines for a reader at a terminal.
-/

namespace KitchenFlow

/-- The name of something as a title: every part of it begins with a capital. -/
def Text.title (name : String) : String :=
  Text.join "" ((Text.splitAt '-' name).map fun part =>
    match part.toList with
    | [] => ""
    | c :: rest => String.ofList (c.toUpper :: rest))

/-- An event as a line. -/
def RunEvent.line : RunEvent → String
  | .runStarted flowId _ mode =>
    "> run started: " ++ flowId ++ " (" ++ Text.title mode.name ++ ")"
  | .nodeEntered nodeId kind => "  > " ++ nodeId ++ " (" ++ kind.name ++ ")"
  | .demoFallback nodeId reason => "    demo [" ++ nodeId ++ "]: " ++ reason
  | .actionDispatched nodeId => "    dispatched [" ++ nodeId ++ "]"
  | .actionFailed nodeId error => "    failed [" ++ nodeId ++ "]: " ++ error
  | .actionSkipped nodeId => "    duplicate [" ++ nodeId ++ "]"
  | .runCompleted visited durationMs =>
    "> run completed: " ++ toString visited ++ " nodes in " ++ toString durationMs ++ "ms"

/-- The result of a run in lines. -/
def RunResult.lines (r : RunResult) : List String :=
  let related := r.payload.relatedData.map fun (key, value) => "  " ++ key ++ ": " ++ value.display
  ["", "Trace: " ++ Text.join " -> " r.trace, "Log:"] ++ r.log.map ("  " ++ ·)
    ++ if related.isEmpty then [] else "Related data:" :: related

/-- A field of a configuration as a line. -/
def FieldSpec.line (f : FieldSpec) : String :=
  "    - " ++ f.key ++ " [" ++ Text.title f.type.name ++ ", "
    ++ (if f.required then "required" else "optional") ++ "]"
    ++ if f.options.isEmpty then "" else " one of: " ++ Text.join ", " f.options

/-- What is registered for a kind, in lines. -/
def NodeMetadata.lines (m : NodeMetadata) : List String :=
  ["", "  " ++ m.kind.name ++ " (" ++ Text.title m.capability.name ++ ")", "    " ++ m.description]
    ++ m.fields.map (·.line)

/-- The kinds in use in lines. -/
def Registry.lines (r : Registry) : List String :=
  "Available node kinds:" :: r.listing.flatMap (·.lines)

end KitchenFlow
