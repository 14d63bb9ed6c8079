import KitchenFlow.Proofs.Run.Moves
import KitchenFlow.Proofs.Run.Narration
import KitchenFlow.Proofs.Schedule.Turns
import KitchenFlow.Schedule.Tick

/-!
# Evaluations that take turns

The evaluations that a tick makes for an organization can be under way at the same time, and they
share the ledger. So they are not one computation but any in which they take turns, in whatever
order and however many at once: this is what `Evaluates` says. That each is made to its end before
the next one begins is one way of doing it:

    evaluates_evaluateAll   `evaluateAll` makes the evaluations
    Evaluates.serves        evaluations serve the keys of the actions carried out in them

The keys are read off the events that the evaluations tell.
-/

namespace KitchenFlow

/-! ## What is dispatched -/

/-- An attempt is a success exactly if the collaborator was called, with the secret of the action,
and answered in time. -/
theorem Action.attempt_eq_sent_iff {e : Engine} {p : Payload} {a : Action} {w w' : World} :
    a.attempt e p w = (.sent, w') ↔
      ∃ responder secret w₁ text, e.services.get? a.service = some responder ∧
        a.secret e w = (.ok secret, w₁) ∧
        w₁.perform e.timeout responder (a.call p secret) = (.answered (.ok text), w') := by
  unfold Action.attempt
  constructor
  · intro h
    split at h
    · cases h
    · next responder hr =>
      split at h
      · cases h
      · next secret w₁ hs =>
        split at h
        · next result w₂ hp =>
          obtain ⟨ho, rfl⟩ := Prod.mk.inj h
          cases result with
          | ok text => exact ⟨responder, secret, w₁, text, hr, hs, hp⟩
          | error err => cases err <;> cases ho
        · cases h
  · rintro ⟨responder, secret, w₁, text, hr, hs, hp⟩
    simp only [hr, hs, hp, Action.settle]

/-- The node whose action was carried out, if that is what an event tells. -/
def RunEvent.dispatched? : RunEvent → Option String
  | .actionDispatched id => some id
  | _ => none

/-- The nodes whose actions were carried out in a run, in order. -/
def RunOutcome.dispatched (o : RunOutcome) : List String := o.events.filterMap RunEvent.dispatched?

/-- The keys of the actions carried out in an evaluation, in order. -/
def EvaluationResult.dispatched (r : EvaluationResult) : List ActionKey :=
  r.outcome.dispatched.map fun id =>
    ⟨r.evaluation.graph.flowId, r.evaluation.payload.item.id, id⟩

/-- What is told of a moment about dispatches. -/
theorem Moment.filterMap_dispatched? (n : GraphNode) (e : NodeEffect) :
    (Moment.visit n e).events.filterMap RunEvent.dispatched? =
      if e.outcome? = some .dispatched then [n.id] else [] := by
  cases e with
  | acted d i o => cases o <;> rfl
  | suggested i r source => cases source <;> rfl
  | asked | branched | wrote | aborted => rfl

/-! ## The turns of a run -/

namespace Runner

/-- The key of the slot that a run under way holds. -/
def holding (x : RunContext) (r : Runner) : Option ActionKey :=
  match r.stage with
  | .calling n _ | .returning n _ _ => some (NodeTask.actionKey x r.payload n.id)
  | .walking | .ended => none

/-- The keys of the actions carried out so far, in order. -/
def dispatched (x : RunContext) (r : Runner) : List ActionKey :=
  (r.story.events.filterMap RunEvent.dispatched?).map (NodeTask.actionKey x r.payload)

variable {g : FlowGraph} {e : Engine} {x : RunContext} {gd : Guard} {r : Runner} {n : GraphNode}
  {w : World}

@[simp] theorem holding_tell (effect : NodeEffect) : (r.tell g n effect).holding x = none := by
  cases effect <;> rfl

theorem dispatched_tell (effect : NodeEffect) :
    (r.tell g n effect).dispatched x = r.dispatched x ++
      if effect.outcome? = some .dispatched then [NodeTask.actionKey x r.payload n.id] else [] := by
  have hkeys : NodeTask.actionKey x (effect.apply r.payload) = NodeTask.actionKey x r.payload :=
    funext fun id => NodeTask.actionKey_apply x r.payload effect id
  have hevents : Story.events (r.story ++ [.visit n effect]) =
      r.story.events ++ (Moment.visit n effect).events := by
    simp [Story.events]
  simp only [dispatched, tell, hkeys, hevents, List.filterMap_append, List.map_append,
    Moment.filterMap_dispatched?]
  split <;> rfl

/-- The key of the action whose collaborator is called with success in the next step. -/
def sent? (e : Engine) (x : RunContext) (r : Runner) (w : World) : Option ActionKey :=
  match r.stage with
  | .calling n a =>
    if (a.attempt e r.payload w).1 = .sent then some (NodeTask.actionKey x r.payload n.id) else none
  | .walking | .returning .. | .ended => none

/-- An action is called for with success, or not. -/
theorem sent?_calling {roots stack : List GraphNode} {visited : List String} {p : Payload}
    {t : Story} {a : Action} {result : Attempt} {w' : World}
    (h : a.attempt e p w = (result, w')) :
    sent? e x ⟨roots, stack, visited, p, t, .calling n a⟩ w =
      if result = .sent then some (NodeTask.actionKey x p n.id) else none := by
  simp only [sent?, h]

/-- What is carried out in a move is what a collaborator was called for with success. -/
theorem Moves.dispatched {a b : Runner × World} (h : Moves g e x gd a b) :
    b.1.dispatched x = a.1.dispatched x ++ (a.1.sent? e x a.2).toList := by
  cases h with
  | finish | root | take | rest => exact (List.append_nil _).symm
  | again => simp [Runner.dispatched, sent?, Story.events, Moment.events]
  | plain _ hact hstep =>
    rw [dispatched_tell, (NodeTask.step_idle hstep hact).1]
    rfl
  | skip => exact dispatched_tell _
  | send hatt =>
    rw [dispatched_tell, sent?_calling hatt]
    rfl
  | miss hatt =>
    rcases hatt with ⟨_, rfl, hatt⟩ | ⟨_, rfl, hatt⟩ <;> rw [sent?_calling hatt] <;>
      exact (List.append_nil _).symm
  | breakdown hatt =>
    rw [dispatched_tell, sent?_calling hatt]
    rfl
  | @giveBack _ _ _ _ _ n effect ho w =>
    rw [dispatched_tell, if_neg ho]
    rfl

/-- Each move is a turn, in which something is done if a collaborator is called with success. -/
theorem Moves.turn {a b : Runner × World} (h : Moves g e x gd a b) :
    Ledger.Turn gd.now gd.window (a.1.holding x) a.2.ledger (b.1.holding x)
      (a.1.sent? e x a.2).toList b.2.ledger := by
  cases h with
  | finish | root | again | rest => exact .idle
  | plain _ hact hstep =>
    rw [holding_tell, (NodeTask.step_idle hstep hact).2]
    exact .idle
  | skip =>
    rw [holding_tell]
    exact .idle
  | take _ _ hfree => exact .take hfree
  | @send _ _ _ p _ _ a w _ hatt =>
    have hledger := a.attempt_ledger e p w
    rw [hatt] at hledger
    rw [holding_tell, sent?_calling hatt, hledger]
    exact .keep
  | @miss _ _ _ p _ _ a _ _ w _ hatt =>
    have hledger := a.attempt_ledger e p w
    rcases hatt with ⟨_, rfl, hatt⟩ | ⟨_, rfl, hatt⟩ <;> rw [hatt] at hledger <;>
      rw [sent?_calling hatt, hledger] <;> exact .idle
  | @breakdown _ _ _ p _ _ a _ w _ hatt =>
    have hledger := a.attempt_ledger e p w
    rw [hatt] at hledger
    rw [holding_tell, sent?_calling hatt, hledger]
    exact .strand
  | giveBack =>
    rw [holding_tell]
    exact .giveBack

end Runner

/-! ## Evaluations that take turns -/

/-- The key of an action in an evaluation. -/
def Evaluation.key (ev : Evaluation) (id : String) : ActionKey :=
  ⟨ev.graph.flowId, ev.payload.item.id, id⟩

/-- An evaluation under way. -/
structure Job where
  evaluation : Evaluation
  runner : Runner

namespace Job

/-- The result of an evaluation that is over, or what broke it off. -/
def result (j : Job) : Except String RunResult :=
  match j.runner.story.abort? with
  | some message => .error message
  | none =>
    .ok
      { trace := j.runner.story.trace
        log := j.evaluation.graph.preface j.evaluation.payload.triggerEvent ++ j.runner.story.log
        payload := j.runner.story.payload j.evaluation.payload
        stats := j.runner.story.stats }

/-- An evaluation made in steps has come to what it comes to in one go. -/
structure Yields (j : Job) (r : EvaluationResult) : Prop where
  evaluation : r.evaluation = j.evaluation
  result : r.outcome.result = j.result
  payload : j.runner.payload = j.runner.story.payload j.evaluation.payload
  /-- The events around those of the story are about the run as a whole. -/
  events : ∃ ends, r.outcome.events =
      .runStarted j.evaluation.graph.flowId j.evaluation.payload.triggerEvent .live ::
        (j.runner.story.events ++ ends) ∧
    ∀ v ∈ ends, ∃ visited durationMs, v = .runCompleted visited durationMs

/-- What is told of actions in one go is told of them in steps. -/
theorem Yields.actionEvent_mem_iff {j : Job} {r : EvaluationResult} (h : j.Yields r) {id : String}
    {o : ActionOutcome} : NodeEffect.actionEvent id o ∈ r.outcome.events ↔
      NodeEffect.actionEvent id o ∈ j.runner.story.events := by
  obtain ⟨ends, hevents, hends⟩ := h.events
  have hno : NodeEffect.actionEvent id o ∉ ends := by
    intro hmem
    obtain ⟨visited, duration, hv⟩ := hends _ hmem
    cases o <;> cases hv
  have hne : NodeEffect.actionEvent id o ≠ .runStarted j.evaluation.graph.flowId
      j.evaluation.payload.triggerEvent .live := by
    cases o <;> nofun
  rw [hevents, List.mem_cons, List.mem_append]
  simp only [hno, hne, or_false, false_or]

end Job

namespace Scheduler

variable (s : Scheduler) (now : Instant)

/-- What stays the same during an evaluation. -/
def context (ev : Evaluation) : RunContext := ⟨ev.graph.flowId, .live, some ⟨now, s.window⟩⟩

/-- An evaluation that is yet to begin. -/
def job (ev : Evaluation) : Job :=
  ⟨ev, .start (ev.graph.listeners ev.payload.triggerEvent) ev.payload⟩

/-- The keys of the actions carried out in an evaluation so far, in order. -/
def doneIn (j : Job) : List ActionKey := j.runner.dispatched (s.context now j.evaluation)

/-- The slot that an evaluation holds, if there is one. -/
def heldIn (j : Job) : List ActionKey := (j.runner.holding (s.context now j.evaluation)).toList

/-- One of the evaluations under way makes its next step. -/
inductive Step : List Job × World → List Job × World → Prop where
  | mk {before after ev r w} (b : Runner × World) :
      r.advance ev.graph s.engine (s.context now ev) w = b →
      Step (before ++ ⟨ev, r⟩ :: after, w) (before ++ ⟨ev, b.1⟩ :: after, b.2)

/-- The next step of an evaluation is a move of a live, guarded run. -/
theorem moves_of_advance {s : Scheduler} {now : Instant} {ev : Evaluation} {r : Runner} {w : World}
    {b : Runner × World} (h : r.advance ev.graph s.engine (s.context now ev) w = b) :
    Runner.Moves ev.graph s.engine (s.context now ev) ⟨now, s.window⟩ (r, w) b :=
  h ▸ Runner.moves_advance rfl rfl r w

/-- Evaluations are made, all to their ends, and any number of them at a time. -/
structure Evaluates (evs : List Evaluation) (w : World) (jobs : List Job) (w' : World) :
    Prop where
  reaches : Relation.ReflTransGen (s.Step now) (evs.map job, w) (jobs, w')
  ended : ∀ j ∈ jobs, j.runner.stage = .ended

theorem turns_of_reaches {a b : List Job × World} (h : Relation.ReflTransGen (s.Step now) a b) :
    ∃ ks, Ledger.Turns now s.window (a.1.flatMap (s.heldIn now)) a.2.ledger
        (b.1.flatMap (s.heldIn now)) ks b.2.ledger ∧
      (b.1.flatMap (s.doneIn now)).Perm (a.1.flatMap (s.doneIn now) ++ ks) := by
  induction h using Relation.ReflTransGen.head_induction_on with
  | refl => exact ⟨[], .nil, by simp⟩
  | head hstep _ ih =>
    obtain ⟨ks, hturns, hperm⟩ := ih
    cases hstep with
    | @mk before after ev r w b hb =>
      have hmove := moves_of_advance hb
      have hturn := hmove.turn
      have hdone := hmove.dispatched
      refine ⟨(r.sent? s.engine (s.context now ev) w).toList ++ ks, ?_, ?_⟩
      · rw [List.flatMap_append, List.flatMap_cons, ← List.append_assoc] at hturns ⊢
        exact .cons hturn hturns
      -- keys are listed by evaluation on one side and by turn on the other
      · refine hperm.trans (List.perm_iff_count.2 fun key => ?_)
        simp only [List.flatMap_append, List.flatMap_cons, doneIn, hdone, List.count_append]
        omega

variable {s now}

/-- Evaluations serve the keys of the actions carried out in them. -/
theorem Evaluates.serves {evs : List Evaluation} {w w' : World} {jobs : List Job}
    (h : s.Evaluates now evs w jobs w') :
    w.ledger.Serves now s.window (jobs.flatMap (s.doneIn now)) w'.ledger := by
  obtain ⟨ks, hturns, hperm⟩ := turns_of_reaches s now h.reaches
  have hheld : (evs.map job).flatMap (s.heldIn now) = [] := by
    simp [List.flatMap_map, heldIn, job, Runner.holding, Runner.start]
  have hdone : (evs.map job).flatMap (s.doneIn now) = [] := by
    simp [List.flatMap_map, doneIn, job, Runner.dispatched, Runner.start, Story.events]
  rw [hheld] at hturns
  rw [hdone, List.nil_append] at hperm
  exact hturns.serves.perm hperm

/-! ### Evaluations made one after the other -/

theorem reaches_job {ev : Evaluation} {a b : Runner × World}
    (h : Runner.Reaches ev.graph s.engine (s.context now ev) a b) (before after : List Job) :
    Relation.ReflTransGen (s.Step now) (before ++ ⟨ev, a.1⟩ :: after, a.2)
      (before ++ ⟨ev, b.1⟩ :: after, b.2) :=
  h.lift (fun a => (before ++ ⟨ev, a.1⟩ :: after, a.2)) fun _ b hb => .mk b hb

/-- An evaluation that is left alone comes to what it comes to in one go. -/
theorem reaches_evaluate (s : Scheduler) (now : Instant) (ev : Evaluation) (w : World)
    (before after : List Job) :
    ∃ r, Relation.ReflTransGen (s.Step now) (before ++ job ev :: after, w)
        (before ++ ⟨ev, r⟩ :: after, (s.evaluate now ev w).world) ∧ r.stage = .ended ∧
      ∀ duration, Job.Yields ⟨ev, r⟩ ⟨ev, s.evaluate now ev w, duration⟩ := by
  obtain ⟨r, hreach, hended, hstory, hpayload⟩ :=
    Runner.reaches_walkAll (g := ev.graph) (e := s.engine) (x := s.context now ev)
      (ev.graph.listeners ev.payload.triggerEvent) ev.payload w
  have hworld : (s.evaluate now ev w).world = (ev.graph.walkAll s.engine (s.context now ev)
      (ev.graph.listeners ev.payload.triggerEvent) ev.payload w).2 := by
    rw [evaluate, FlowGraph.run_eq_outcome, FlowGraph.outcome]
    split <;> rfl
  rw [← hworld] at hreach
  refine ⟨r, reaches_job hreach before after, hended, fun duration => ⟨rfl, ?_, hpayload, ?_⟩⟩
  · rw [evaluate, FlowGraph.run_eq_outcome, FlowGraph.outcome, Job.result, hstory]
    unfold context
    generalize FlowGraph.walkAll ev.graph s.engine _ _ ev.payload w = walked
    cases walked.1.abort? <;> rfl
  · rw [hstory]
    rw [evaluate, FlowGraph.run_eq_outcome, FlowGraph.outcome]
    split
    · exact ⟨[], by rw [List.append_nil]; rfl, by simp⟩
    · exact ⟨[_], rfl, by simp⟩

/-- Evaluations made one after the other are evaluations. -/
theorem evaluates_evaluateAll (s : Scheduler) (now : Instant) (evs : List Evaluation) (w : World) :
    ∃ jobs, s.Evaluates now evs w jobs (s.evaluateAll now evs w).2 ∧
      List.Forall₂ Job.Yields jobs (s.evaluateAll now evs w).1 := by
  have hgo (before : List Job) : ∃ jobs,
      Relation.ReflTransGen (s.Step now) (before ++ evs.map job, w)
        (before ++ jobs, (s.evaluateAll now evs w).2) ∧
      (∀ j ∈ jobs, j.runner.stage = .ended) ∧
      List.Forall₂ Job.Yields jobs (s.evaluateAll now evs w).1 := by
    induction evs generalizing w before with
    | nil => exact ⟨[], .refl, by simp, .nil⟩
    | cons ev evs ih =>
      obtain ⟨r, hreach, hended, hyields⟩ := reaches_evaluate s now ev w before (evs.map job)
      obtain ⟨jobs, hrest, hall, hrests⟩ := ih (s.evaluate now ev w).world (before ++ [⟨ev, r⟩])
      simp only [List.append_assoc, List.singleton_append] at hrest
      exact ⟨⟨ev, r⟩ :: jobs, hreach.trans hrest, List.forall_mem_cons.2 ⟨hended, hall⟩,
        .cons (hyields _) hrests⟩
  obtain ⟨jobs, hreach, hended, hyields⟩ := hgo []
  exact ⟨jobs, ⟨hreach, hended⟩, hyields⟩

/-- The keys of the actions carried out can be read off the events. -/
theorem doneIn_of_yields {j : Job} {r : EvaluationResult} (h : j.Yields r) :
    s.doneIn now j = r.dispatched := by
  obtain ⟨ends, hevents, hends⟩ := h.events
  -- the events around the story, of the run as a whole, tell no dispatch
  have hnone : ends.filterMap RunEvent.dispatched? = [] := by
    refine List.filterMap_eq_nil_iff.2 fun v hv => ?_
    obtain ⟨visited, duration, rfl⟩ := hends v hv
    rfl
  rw [EvaluationResult.dispatched, RunOutcome.dispatched, hevents, h.evaluation,
    List.filterMap_cons_none rfl, List.filterMap_append, hnone, List.append_nil]
  refine List.map_congr_left fun id _ => ?_
  simp [NodeTask.actionKey, context, h.payload]

theorem flatMap_doneIn_of_yields {jobs : List Job} {results : List EvaluationResult}
    (h : List.Forall₂ Job.Yields jobs results) :
    jobs.flatMap (s.doneIn now) = results.flatMap EvaluationResult.dispatched := by
  induction h with
  | nil => rfl
  | cons hyields _ ih => rw [List.flatMap_cons, List.flatMap_cons, doneIn_of_yields hyields, ih]

/-- What is told of actions in a tick is told in one of its evaluations. -/
theorem actionEvent_mem_flatMap_iff {jobs : List Job} {results : List EvaluationResult}
    (h : List.Forall₂ Job.Yields jobs results) {id : String} {o : ActionOutcome} :
    NodeEffect.actionEvent id o ∈ results.flatMap (fun r => r.outcome.events) ↔
      ∃ j ∈ jobs, NodeEffect.actionEvent id o ∈ j.runner.story.events := by
  rw [List.mem_flatMap]
  constructor
  · rintro ⟨r, hr, hv⟩
    obtain ⟨j, hj, hyields⟩ := Fallible.exists_mem_of_forall₂ h hr
    exact ⟨j, hj, hyields.actionEvent_mem_iff.1 hv⟩
  · rintro ⟨j, hj, hv⟩
    obtain ⟨r, hr, hyields⟩ := Fallible.exists_mem_of_forall₂ h.flip hj
    exact ⟨r, hr, hyields.actionEvent_mem_iff.2 hv⟩

end Scheduler
end KitchenFlow
