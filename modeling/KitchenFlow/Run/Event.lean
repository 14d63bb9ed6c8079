import KitchenFlow.Flow.Wire
import KitchenFlow.Run.Identity

/-!
# Events of a run

While a flow runs it tells its observers what happens. On the wire an event is an object whose
`type` says which of the seven it is; the other fields depend on it.
-/

namespace KitchenFlow

/-- What happens in a run. -/
inductive RunEvent where
  | runStarted (flowId : String) (event : TriggerEvent) (mode : RunMode)
  | nodeEntered (nodeId : String) (kind : NodeKind)
  | demoFallback (nodeId reason : String)
  | actionDispatched (nodeId : String)
  | actionFailed (nodeId error : String)
  | actionSkipped (nodeId : String)
  | runCompleted (visited durationMs : Nat)
deriving DecidableEq, Repr, Inhabited

/-- An event with the run it belongs to and the time it happened. -/
structure EventRecord where
  runId : RunId
  event : RunEvent
  timestamp : Instant
deriving DecidableEq, Repr, Inhabited

/-- Which of the events it is. -/
inductive EventType where
  | runStarted
  | nodeEntered
  | demoFallback
  | actionDispatched
  | actionFailed
  | actionSkipped
  | runCompleted
deriving DecidableEq, Repr, Inhabited

namespace EventType

def all : List EventType :=
  [.runStarted, .nodeEntered, .demoFallback, .actionDispatched, .actionFailed, .actionSkipped,
    .runCompleted]

def name : EventType → String
  | .runStarted => "RunStarted"
  | .nodeEntered => "NodeEntered"
  | .demoFallback => "DemoFallback"
  | .actionDispatched => "ActionDispatched"
  | .actionFailed => "ActionFailed"
  | .actionSkipped => "ActionSkipped"
  | .runCompleted => "RunCompleted"

def ofName? (s : String) : Option EventType := all.find? (·.name == s)

@[simp] theorem ofName?_name (t : EventType) : ofName? t.name = some t := by
  cases t <;> rfl

end EventType

namespace RunEvent

/-- Which of the events it is. -/
def type : RunEvent → EventType
  | .runStarted .. => .runStarted
  | .nodeEntered .. => .nodeEntered
  | .demoFallback .. => .demoFallback
  | .actionDispatched .. => .actionDispatched
  | .actionFailed .. => .actionFailed
  | .actionSkipped .. => .actionSkipped
  | .runCompleted .. => .runCompleted

/-- The fields of an event. -/
def fields : RunEvent → List (String × Json)
  | .runStarted flowId event mode =>
    [("flow_id", .string flowId), ("trigger_event", event.toJson), ("mode", mode.toJson)]
  | .nodeEntered nodeId kind => [("node_id", .string nodeId), ("kind", kind.toJson)]
  | .demoFallback nodeId reason => [("node_id", .string nodeId), ("reason", .string reason)]
  | .actionDispatched nodeId => [("node_id", .string nodeId)]
  | .actionFailed nodeId error => [("node_id", .string nodeId), ("error", .string error)]
  | .actionSkipped nodeId => [("node_id", .string nodeId)]
  | .runCompleted visited durationMs =>
    [("visited", .ofNat visited), ("duration_ms", .ofNat durationMs)]

end RunEvent

namespace EventRecord

/-- The key that says which event it is. -/
def typeKey : String := "type"

def toJson (r : EventRecord) : Json :=
  .object <|
    [(typeKey, .string r.event.type.name), ("run_id", r.runId.toJson)] ++ r.event.fields
      ++ [("timestamp", r.timestamp.toJson)]

/-- A count of 64 bits. -/
def count (name : String) : Decoder Nat := fun d =>
  (Decoder.integer 0 (Int.pow 2 64 - 1) name d).map Int.toNat

/-- A name inside an event. -/
def named (names : List String) (ofName : String → Option α) : Decoder α :=
  Decoder.variantOf Decoder.isVoid names ofName

/-- The field that names a node. -/
def nodeField : Record String := .required "node_id" Decoder.string

/-- The field that says when. -/
def timeField : Record Instant := .required "timestamp" Decoder.timestamp

/-- The field that says in which run. -/
def runField : Record RunId := .required "run_id" RunId.decoder

/-- The fields of an event of each type. -/
def record : EventType → Record EventRecord
  | .runStarted =>
    (fun r f e m t => ⟨r, .runStarted f e m, t⟩) <$> runField <*> .required "flow_id" Decoder.string
      <*> .required "trigger_event"
        (named (TriggerEvent.all.map TriggerEvent.name) TriggerEvent.ofName?)
      <*> .required "mode" (named (RunMode.all.map RunMode.name) RunMode.ofName?) <*> timeField
  | .nodeEntered =>
    (fun r n k t => ⟨r, .nodeEntered n k, t⟩) <$> runField <*> nodeField
      <*> .required "kind" (named (NodeKind.all.map NodeKind.name) NodeKind.ofName?) <*> timeField
  | .demoFallback =>
    (fun r n s t => ⟨r, .demoFallback n s, t⟩) <$> runField <*> nodeField
      <*> .required "reason" Decoder.string <*> timeField
  | .actionDispatched =>
    (fun r n t => ⟨r, .actionDispatched n, t⟩) <$> runField <*> nodeField <*> timeField
  | .actionFailed =>
    (fun r n e t => ⟨r, .actionFailed n e, t⟩) <$> runField <*> nodeField
      <*> .required "error" Decoder.string <*> timeField
  | .actionSkipped =>
    (fun r n t => ⟨r, .actionSkipped n, t⟩) <$> runField <*> nodeField <*> timeField
  | .runCompleted =>
    (fun r v d t => ⟨r, .runCompleted v d, t⟩) <$> runField <*> .required "visited" (count "usize")
      <*> .required "duration_ms" (count "u64") <*> timeField

/-- Reads what says which event it is. -/
def typeOf : Json → Except DecodeError EventType
  | .string s =>
    match EventType.ofName? s with
    | some t => .ok t
    | none => .error ⟨.unknownVariant s (EventType.all.map EventType.name), none⟩
  | v => .error (Decoder.wrongType "variant identifier" (.ofJson v))

/-- Reads the fields of an event of a known type. -/
def ofType (t : EventType) (rest : Json) : Except DecodeError EventRecord :=
  let r := record t
  Decoder.ofJson
    (r.decodeAs ("struct variant FlowEvent::" ++ t.name)
      (Record.elements r.fields.length ++ " in sequence")) rest

/-- Reads an event. As a list, it begins with its type. -/
def ofJson : Json → Except DecodeError EventRecord
  | .object entries =>
    match Fields.get? entries typeKey with
    | none => .error ⟨.missingField typeKey, none⟩
    | some v => do ofType (← typeOf v) (.object (entries.filter fun e => e.1 ≠ typeKey))
  | .array [] => .error ⟨.missingField typeKey, none⟩
  | .array (v :: rest) => do ofType (← typeOf v) (.array rest)
  | v => .error (Decoder.wrongType "internally tagged enum FlowEvent" (.ofJson v))

end EventRecord
end KitchenFlow
