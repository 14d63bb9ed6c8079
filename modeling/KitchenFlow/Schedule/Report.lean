import KitchenFlow.Flow.Wire
import KitchenFlow.Run.Result

/-!
# Reports of ticks

What a tick has to tell: how much it looked at, what came of it, and what went wrong. A tick never
fails as a whole.
-/

namespace KitchenFlow

/-- Something that went wrong in a tick; `*` stands for any flow or item. -/
structure TickError where
  flowId : String
  itemId : String
  message : String
deriving DecidableEq, Repr, Inhabited

/-- The report of a tick. -/
structure TickReport where
  startedAt : Option Instant
  flowsEvaluated : Nat
  pairsEvaluated : Nat
  triggersMatched : Nat
  actionsDispatched : Nat
  actionsFailed : Nat
  duplicatesSkipped : Nat
  demoFallbacks : Nat
  ledgerPruned : Nat
  errors : List TickError
  overlapped : Bool
deriving DecidableEq, Repr, Inhabited

namespace TickError

def toJson (e : TickError) : Json :=
  .object
    [("flow_id", .string e.flowId), ("item_id", .string e.itemId), ("message", .string e.message)]

end TickError

namespace TickReport

/-- The report of a tick that has just begun. -/
def start (now : Instant) : TickReport := ⟨some now, 0, 0, 0, 0, 0, 0, 0, 0, [], false⟩

/-- Adds the counts of a run. -/
def absorb (r : TickReport) (s : RunStats) : TickReport :=
  { r with
    triggersMatched := r.triggersMatched + s.triggersMatched
    actionsDispatched := r.actionsDispatched + s.actionsDispatched
    actionsFailed := r.actionsFailed + s.actionsFailed
    duplicatesSkipped := r.duplicatesSkipped + s.duplicatesSkipped
    demoFallbacks := r.demoFallbacks + s.demoFallbacks }

/-- Adds an error. -/
def fail (r : TickReport) (e : TickError) : TickReport := { r with errors := r.errors ++ [e] }

def toJson (r : TickReport) : Json :=
  .object
    [("started_at", .ofOption Instant.toJson r.startedAt),
      ("flows_evaluated", .ofNat r.flowsEvaluated), ("pairs_evaluated", .ofNat r.pairsEvaluated),
      ("matches", .ofNat r.triggersMatched), ("actions_dispatched", .ofNat r.actionsDispatched),
      ("actions_failed", .ofNat r.actionsFailed),
      ("duplicates_skipped", .ofNat r.duplicatesSkipped),
      ("demo_fallbacks", .ofNat r.demoFallbacks), ("ledger_pruned", .ofNat r.ledgerPruned),
      ("errors", .array (r.errors.map TickError.toJson)), ("overlapped", .bool r.overlapped)]

end TickReport
end KitchenFlow
