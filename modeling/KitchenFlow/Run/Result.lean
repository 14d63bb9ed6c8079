import KitchenFlow.Payload.Wire

/-!
# Results of runs

What is left of a run when it is over: the nodes it entered, what it noted, the payload it ended
with, and counts of what happened. The counts are not part of the wire form.
-/

namespace KitchenFlow

/-- Counts of what happened in a run. -/
structure RunStats where
  triggersMatched : Nat
  actionsDispatched : Nat
  actionsFailed : Nat
  duplicatesSkipped : Nat
  demoFallbacks : Nat
deriving DecidableEq, Repr, Inhabited

/-- The counts of a run in which nothing happened. -/
def RunStats.none : RunStats := ⟨0, 0, 0, 0, 0⟩

/-- The counts by name. -/
def RunStats.toJson (s : RunStats) : Json :=
  .object
    [("triggers_matched", .ofNat s.triggersMatched),
      ("actions_dispatched", .ofNat s.actionsDispatched),
      ("actions_failed", .ofNat s.actionsFailed),
      ("duplicates_skipped", .ofNat s.duplicatesSkipped),
      ("demo_fallbacks", .ofNat s.demoFallbacks)]

/-- What is left of a run. -/
structure RunResult where
  trace : List String
  log : List String
  payload : Payload
  stats : RunStats
deriving Repr, Inhabited

namespace RunResult

def toJson (r : RunResult) : Json :=
  .object
    [("trace", .array (r.trace.map .string)), ("log", .array (r.log.map .string)),
      ("finalPayload", r.payload.toJson)]

def record : Record RunResult :=
  (fun trace log payload => ⟨trace, log, payload, .none⟩)
    <$> .required "trace" (Decoder.list Decoder.string)
    <*> .required "log" (Decoder.list Decoder.string)
    <*> .required "finalPayload" Payload.decoder

def decoder : Decoder RunResult := record.decode "ExecutionResult"

end RunResult
end KitchenFlow
