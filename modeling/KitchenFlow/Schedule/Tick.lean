import KitchenFlow.Run.Interpreter
import KitchenFlow.Schedule.Report
import KitchenFlow.Store.Memory

/-!
# Ticks

A tick goes through the organizations and evaluates every active flow on every item near expiry,
once for each event the flow listens for. Evaluations are guarded by the ledger, which is pruned at
the beginning. What goes wrong with one organization, one flow or one evaluation is reported and
does not touch the others.

Evaluations are made in the order flow, item, event, each to its end. Several may go on at a time;
what is followed of that here is how long the tick takes.
-/

namespace KitchenFlow

/-- What ticks are made with. -/
structure Scheduler where
  engine : Engine
  organizations : List String
  /-- For how long an action counts as done. -/
  window : Span
  /-- How many evaluations go on at a time. -/
  maxConcurrency : Nat

/-- A flow to be evaluated on a payload. -/
structure Evaluation where
  graph : FlowGraph
  payload : Payload
deriving Repr, Inhabited

/-- An evaluation that is over. -/
structure EvaluationResult where
  evaluation : Evaluation
  outcome : RunOutcome
  /-- The milliseconds it took. -/
  duration : Nat

/-- How far a tick has come. -/
structure TickProgress where
  report : TickReport
  /-- The evaluations made, in order. -/
  results : List EvaluationResult
  world : World

/-- The events told, in order. -/
def TickProgress.events (t : TickProgress) : List RunEvent :=
  t.results.flatMap fun r => r.outcome.events

/-! ### How long evaluations take -/

/-- When the running evaluations end, after one more is begun as soon as fewer than `slots` are
running. The ends are in ascending order. -/
def occupy (slots : Nat) (running : List Nat) (duration : Nat) : List Nat :=
  let insert (e : Nat) (l : List Nat) := l.takeWhile (· ≤ e) ++ e :: l.dropWhile (· ≤ e)
  match running with
  | [] => [duration]
  | first :: rest =>
    if running.length < slots then insert duration running else insert (first + duration) rest

/-- How long evaluations take that are begun in order, at most so many at a time. -/
def makespan (slots : Nat) (durations : List Nat) : Nat :=
  ((durations.foldl (occupy slots) []).getLast?).getD 0

namespace Scheduler

/-! ### Evaluations -/

/-- The payload for an item of an organization. -/
def payloadFor (org : String) (item : InventoryItem) (event : TriggerEvent) (now : Instant) :
    Payload :=
  (Payload.ofItem event item now).withUser org

/-- The evaluations of a flow. -/
def evaluationsOf (org : String) (now : Instant) (items : List InventoryItem) (f : Flow)
    (g : FlowGraph) : List Evaluation :=
  items.flatMap fun item => f.triggerEvents.map fun event => ⟨g, payloadFor org item event now⟩

/-- Says that an evaluation was broken off. -/
def abortMessage (message : String) : String :=
  "evaluation aborted: task N panicked with message " ++ Text.quoted message

/-- Makes an evaluation. -/
def evaluate (s : Scheduler) (now : Instant) (ev : Evaluation) (w : World) : RunOutcome :=
  ev.graph.run s.engine .live (some ⟨now, s.window⟩) ev.payload w

/-- Makes evaluations in order. -/
def evaluateAll (s : Scheduler) (now : Instant) :
    List Evaluation → World → List EvaluationResult × World
  | [], w => ([], w)
  | ev :: rest, w =>
    let o := s.evaluate now ev w
    let (results, after) := evaluateAll s now rest o.world
    (⟨ev, o, o.world.clock - w.clock⟩ :: results, after)

/-- Reports an evaluation that is over. -/
def note (report : TickReport) (r : EvaluationResult) : TickReport :=
  match r.outcome.result with
  | .ok result => report.absorb result.stats
  | .error message =>
    report.fail ⟨r.evaluation.graph.flowId, r.evaluation.payload.item.id, abortMessage message⟩

/-- Makes evaluations, as many at a time as are allowed. -/
def evaluateTogether (s : Scheduler) (now : Instant) (evs : List Evaluation) (t : TickProgress) :
    TickProgress :=
  let (results, after) := s.evaluateAll now evs t.world
  let durations := results.map EvaluationResult.duration
  let clock := t.world.clock + makespan (max 1 s.maxConcurrency) durations
  ⟨results.foldl note t.report, t.results ++ results, { after with clock }⟩

/-! ### Organizations -/

/-- Validates the flows of an organization: the evaluations to make, and a report of the flows that
are not valid. -/
def plan (s : Scheduler) (org : String) (now : Instant) (items : List InventoryItem) :
    List Flow → TickReport → List Evaluation × TickReport
  | [], r => ([], r)
  | f :: rest, r =>
    let r := { r with flowsEvaluated := r.flowsEvaluated + 1 }
    match f.validate s.engine.registry with
    | .error e => plan s org now items rest (r.fail ⟨f.id, "*", e.message⟩)
    | .ok g =>
      let (evs, r) := plan s org now items rest r
      (evaluationsOf org now items f g ++ evs, r)

/-- Says that an organization could not be loaded. -/
def loadError (org : String) (e : StoreError) : TickError :=
  ⟨"*", "*", "org " ++ org ++ ": " ++ e.message⟩

/-- What is loaded of an organization. -/
def load (src : FlowSource) (org : String) :
    Except StoreError (List Flow × List InventoryItem) := do
  let flows ← src.flows org
  let items ← src.items org
  .ok (flows, items)

/-- Evaluates the flows of an organization. -/
def tickOrganization (s : Scheduler) (src : FlowSource) (now : Instant) (t : TickProgress)
    (org : String) : TickProgress :=
  match load src org with
  | .error e => { t with report := t.report.fail (loadError org e) }
  | .ok (flows, items) =>
    let (evs, report) := s.plan org now items flows t.report
    let report := { report with pairsEvaluated := report.pairsEvaluated + evs.length }
    s.evaluateTogether now evs { t with report }

/-! ### Ticks -/

/-- Makes a tick. -/
def tick (s : Scheduler) (src : FlowSource) (now : Instant) (w : World) : TickProgress :=
  let (pruned, ledger) := w.ledger.prune now s.window
  let report := { TickReport.start now with ledgerPruned := pruned }
  s.organizations.foldl (s.tickOrganization src now) ⟨report, [], { w with ledger }⟩

/-- What is reported instead of a tick while another one is going on: nothing is done. -/
def overlapped (now : Instant) (w : World) : TickProgress :=
  ⟨{ TickReport.start now with overlapped := true }, [], w⟩

/-- Makes a tick unless another one is going on. -/
def tickUnless (s : Scheduler) (busy : Bool) (src : FlowSource) (now : Instant) (w : World) :
    TickProgress :=
  if busy then overlapped now w else s.tick src now w

end Scheduler
end KitchenFlow
