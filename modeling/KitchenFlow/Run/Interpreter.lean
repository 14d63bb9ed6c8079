import KitchenFlow.Graph.Validation
import KitchenFlow.Run.Walk

/-!
# Runs

A run starts at the triggers that listen for the event of its payload. It returns the records that
it has kept, unless a collaborator broke down.
-/

namespace KitchenFlow

/-- A run that is over. -/
structure RunOutcome where
  /-- The events told, in order. -/
  events : List RunEvent
  /-- The result, or what broke the run off. -/
  result : Except String RunResult
  /-- The world after the run. -/
  world : World

namespace FlowGraph

/-- The triggers that listen for an event. -/
def listeners (g : FlowGraph) (event : TriggerEvent) : List GraphNode :=
  g.roots.filter fun n => n.kind.triggerEvent? == some event

/-- Runs a graph on a payload, from the first event to the last. -/
def conduct (g : FlowGraph) (e : Engine) (x : RunContext) (p : Payload) : RunM RunResult := do
  let started := (← get).world.clock
  RunM.emit (.runStarted g.flowId p.triggerEvent x.mode)
  let roots := g.listeners p.triggerEvent
  if roots.isEmpty then
    RunM.note
      ("No trigger in flow " ++ g.flowId ++ " listens for " ++ p.triggerEvent.name ++ " events")
  let final ← g.traverseAll e x roots p
  RunM.emit (.runCompleted (← get).trace.length ((← get).world.clock - started))
  let s ← get
  return ⟨s.trace, s.log, final, s.stats⟩

/-- Runs a graph on a payload. -/
def run (g : FlowGraph) (e : Engine) (mode : RunMode) (guard : Option Guard) (p : Payload)
    (w : World) : RunOutcome :=
  let (result, s) := (g.conduct e ⟨g.flowId, mode, guard⟩ p).runFrom (.start w)
  ⟨s.events, result, s.world⟩

end FlowGraph

/-- Validates a flow and runs it. -/
def Flow.run (f : Flow) (e : Engine) (mode : RunMode) (guard : Option Guard) (p : Payload)
    (w : World) : Except FlowError RunOutcome :=
  (f.validate e.registry).map fun g => g.run e mode guard p w

end KitchenFlow
