import KitchenFlow.Proofs.Run.Calls
import KitchenFlow.Proofs.Schedule.Evaluations

/-!
# Courses of a tick

A tick goes through its organizations one after the other, but the evaluations of each organization
take turns, and they are reported in the order in which they happen to end. A `Course` is one of the
ways in which all of this can go, with everything that can be seen of it: the evaluations made, the
calls that their actions made on the way, the report, and the world left behind.

    course_tick                `tick` is a course in which evaluations are made in order
    Course.map_evaluation      every course makes the same evaluations
    Course.exists_calls        its calls are those that the world has noted
-/

namespace KitchenFlow

/-! ## Calls of evaluations -/

namespace Runner

/-- The key and the call of an action that makes one in the next step. -/
def called? (e : Engine) (x : RunContext) (r : Runner) (w : World) : Option (ActionKey × Call) :=
  match r.stage with
  | .calling n a => (a.call? e r.payload w).map fun c => (NodeTask.actionKey x r.payload n.id, c)
  | .walking | .returning .. | .ended => none

variable {g : FlowGraph} {e : Engine} {x : RunContext} {gd : Guard}

theorem called?_calling (e : Engine) (x : RunContext) (roots stack : List GraphNode)
    (visited : List String) (p : Payload) (t : Story) (n : GraphNode) (a : Action) (w : World) :
    called? e x ⟨roots, stack, visited, p, t, .calling n a⟩ w =
      (a.call? e p w).map fun c => (NodeTask.actionKey x p n.id, c) := rfl

/-- In a move, the calls are made of an action, or they ask for completions. -/
theorem Moves.exists_calls {a b : Runner × World} (h : Moves g e x gd a b) :
    ∃ new, b.2.calls = a.2.calls ++ new ∧
      new.filter (·.service ≠ .completion) = (a.1.called? e x a.2).toList.map Prod.snd := by
  have hcall {roots stack : List GraphNode} {visited : List String} {p : Payload} {t : Story}
      {n : GraphNode} {a : Action} {w w' : World} (hw : (a.attempt e p w).2 = w') :
      ∃ new, w'.calls = w.calls ++ new ∧ new.filter (·.service ≠ .completion) =
        ((⟨roots, stack, visited, p, t, .calling n a⟩ : Runner).called? e x w).toList.map
          Prod.snd := by
    refine ⟨_, hw ▸ a.attempt_calls e p w, ?_⟩
    rw [called?_calling]
    cases hc : a.call? e p w with
    | none => rfl
    | some c =>
      have hne : c.service ≠ .completion := Action.service_of_call? hc ▸ a.service_ne
      simp [hne]
  cases h with
  | finish | root | again | skip | take | giveBack | rest =>
    exact ⟨[], (List.append_nil _).symm, rfl⟩
  | @plain _ n _ _ p _ effect w w' _ hact hstep =>
    obtain ⟨new, hnew, hservice⟩ := NodeTask.step_calls hact e x n.id p w
    rw [hstep] at hnew
    refine ⟨new, hnew, ?_⟩
    rw [List.filter_eq_nil_iff.2 fun c hc => by simp [hservice c hc]]
    rfl
  | send hatt => exact hcall (by rw [hatt])
  | miss hatt =>
    rcases hatt with ⟨_, _, hatt⟩ | ⟨_, _, hatt⟩
    · exact hcall (by rw [hatt])
    · exact hcall (by rw [hatt])
  | breakdown hatt => exact hcall (by rw [hatt])

/-- It is listed under a key that the action of a node has made its call, if it could make one. -/
def IsListed (e : Engine) (cs : List (ActionKey × Call)) (k : ActionKey) (n : GraphNode) : Prop :=
  ∀ a, n.config.task = .act a → ∃ p w, ∀ c ∈ a.call? e p w, (k, c) ∈ cs

/-- The calls of all actions attempted so far are listed. -/
def Listed (e : Engine) (x : RunContext) (cs : List (ActionKey × Call)) (r : Runner) : Prop :=
  (∀ n effect, Moment.visit n effect ∈ r.story → effect.isAttempt = true →
    IsListed e cs (NodeTask.actionKey x r.payload n.id) n) ∧
  match r.stage with
  | .calling n a => n.config.task = .act a
  | .returning n _ _ => IsListed e cs (NodeTask.actionKey x r.payload n.id) n
  | .walking | .ended => True

variable {cs cs' : List (ActionKey × Call)} {r : Runner}

theorem IsListed.mono {k : ActionKey} {n : GraphNode} (h : IsListed e cs k n) (hcs : cs ⊆ cs') :
    IsListed e cs' k n := by
  intro a ha
  obtain ⟨p, w, hc⟩ := h a ha
  exact ⟨p, w, fun c hmem => hcs (hc c hmem)⟩

theorem Listed.mono (h : r.Listed e x cs) (hcs : cs ⊆ cs') : r.Listed e x cs' := by
  obtain ⟨roots, stack, visited, p, t, stage⟩ := r
  obtain ⟨hstory, hstage⟩ := h
  refine ⟨fun n effect hn ha => (hstory n effect hn ha).mono hcs, ?_⟩
  cases stage with
  | walking | ended => trivial
  | calling => exact hstage
  | returning => exact hstage.mono hcs

/-- Calling for an action lists its call. -/
theorem isListed_call {roots stack : List GraphNode} {visited : List String} {p : Payload}
    {t : Story} {n : GraphNode} {a : Action} {w : World} (ha : n.config.task = .act a) :
    IsListed e (cs ++ (called? e x ⟨roots, stack, visited, p, t, .calling n a⟩ w).toList)
      (NodeTask.actionKey x p n.id) n := by
  intro b hb
  obtain rfl : a = b := NodeTask.act.inj (ha.symm.trans hb)
  refine ⟨p, w, fun c hc => List.mem_append_right _ ?_⟩
  have hc : a.call? e p w = some c := hc
  rw [called?_calling, hc]
  exact List.mem_singleton_self _

theorem listed_tell {roots stack : List GraphNode} {visited : List String} {p : Payload}
    {t : Story} {stage : Stage} {n : GraphNode} {effect : NodeEffect}
    (hstory : ∀ n effect, Moment.visit n effect ∈ t → effect.isAttempt = true →
      IsListed e cs (NodeTask.actionKey x p n.id) n)
    (hn : effect.isAttempt = true → IsListed e cs (NodeTask.actionKey x p n.id) n) :
    (tell ⟨roots, stack, visited, p, t, stage⟩ g n effect).Listed e x cs := by
  refine ⟨fun m effect' hm ha => ?_, ?_⟩
  · simp only [tell, NodeTask.actionKey_apply]
    rcases List.mem_append.1 hm with hm | hm
    · exact hstory m effect' hm ha
    · obtain ⟨rfl, rfl⟩ : m = n ∧ effect' = effect := by simpa using hm
      exact hn ha
  · cases effect <;> trivial

/-- Every move lists the calls that it makes. -/
theorem Moves.listed {a b : Runner × World} (h : Moves g e x gd a b) (ha : a.1.Listed e x cs) :
    b.1.Listed e x (cs ++ (a.1.called? e x a.2).toList) := by
  obtain ⟨hstory, hstage⟩ := ha.mono (List.subset_append_left cs (a.1.called? e x a.2).toList)
  cases h with
  | finish | root | rest => exact ⟨hstory, trivial⟩
  | again => exact ⟨fun m effect hm => hstory m effect (by simpa using hm), trivial⟩
  | plain _ hact _ => exact listed_tell hstory fun _ a ha => (hact a ha).elim
  | skip => exact listed_tell hstory nofun
  | take _ htask _ => exact ⟨hstory, htask⟩
  | send | breakdown => exact listed_tell hstory fun _ => isListed_call hstage
  | miss => exact ⟨hstory, isListed_call hstage⟩
  | giveBack => exact listed_tell hstory fun _ => hstage

end Runner

/-! ## Evaluations under way -/

namespace Scheduler

/-- Evaluations under way get from one point to another, with these calls made by their actions on
the way. -/
inductive Advances (s : Scheduler) (now : Instant) (a : List Job × World) :
    List (ActionKey × Call) → List Job × World → Prop where
  | refl : Advances s now a [] a
  | step {cs before after ev r w} (b : Runner × World) :
      Advances s now a cs (before ++ ⟨ev, r⟩ :: after, w) →
      r.advance ev.graph s.engine (s.context now ev) w = b →
      Advances s now a (cs ++ (r.called? s.engine (s.context now ev) w).toList)
        (before ++ ⟨ev, b.1⟩ :: after, b.2)

variable {s : Scheduler} {now : Instant} {a b : List Job × World} {cs : List (ActionKey × Call)}

theorem exists_advances (h : Relation.ReflTransGen (s.Step now) a b) :
    ∃ cs, s.Advances now a cs b := by
  induction h with
  | refl => exact ⟨[], .refl⟩
  | tail _ hstep ih =>
    obtain ⟨cs, hcs⟩ := ih
    cases hstep with
    | mk b hb => exact ⟨_, .step b hcs hb⟩

namespace Advances

theorem reaches (h : s.Advances now a cs b) : Relation.ReflTransGen (s.Step now) a b := by
  induction h with
  | refl => exact .refl
  | step b _ hb ih => exact ih.tail (.mk b hb)

/-- What every move of an evaluation keeps up, with the calls made so far, holds of all evaluations
in the end. -/
theorem forall_job {P : List (ActionKey × Call) → Job → Prop} (h : s.Advances now a cs b)
    (hmore : ∀ {cs cs' j}, cs ⊆ cs' → P cs j → P cs' j)
    (hmove : ∀ {ev r w b cs},
      Runner.Moves ev.graph s.engine (s.context now ev) ⟨now, s.window⟩ (r, w) b → P cs ⟨ev, r⟩ →
        P (cs ++ (r.called? s.engine (s.context now ev) w).toList) ⟨ev, b.1⟩)
    (ha : ∀ j ∈ a.1, P [] j) : ∀ j ∈ b.1, P cs j := by
  induction h with
  | refl => exact ha
  | @step cs before after ev r w b _ hb ih =>
    have hold {j : Job} (h : P cs j) :
        P (cs ++ (r.called? s.engine (s.context now ev) w).toList) j :=
      hmore (List.subset_append_left _ _) h
    obtain ⟨hbefore, hrest⟩ := List.forall_mem_append.1 ih
    obtain ⟨hr, hafter⟩ := List.forall_mem_cons.1 hrest
    refine List.forall_mem_append.2 ⟨fun j hj => hold (hbefore j hj),
      List.forall_mem_cons.2 ⟨hmove (moves_of_advance hb) hr, fun j hj => hold (hafter j hj)⟩⟩

theorem map_evaluation (h : s.Advances now a cs b) :
    b.1.map Job.evaluation = a.1.map Job.evaluation := by
  induction h with
  | refl => rfl
  | step b _ _ ih =>
    rw [← ih]
    simp

/-- The calls made by actions are those that the world has noted, apart from the completions. -/
theorem exists_calls (h : s.Advances now a cs b) :
    ∃ new, b.2.calls = a.2.calls ++ new ∧
      new.filter (·.service ≠ .completion) = cs.map Prod.snd := by
  induction h with
  | refl => exact ⟨[], (List.append_nil _).symm, rfl⟩
  | @step cs before after ev r w b _ hb ih =>
    obtain ⟨new, hnew, hcs⟩ := ih
    obtain ⟨more, hmore, hlast⟩ := (moves_of_advance hb).exists_calls
    refine ⟨new ++ more, ?_, ?_⟩
    · rw [hmore, hnew, List.append_assoc]
    · rw [List.filter_append, List.map_append, hcs, hlast]

end Advances

end Scheduler

/-! ## Organizations -/

/-- Reports an evaluation that is over. -/
def Job.note (report : TickReport) (j : Job) : TickReport :=
  match j.result with
  | .ok result => report.absorb result.stats
  | .error message =>
    report.fail
      ⟨j.evaluation.graph.flowId, j.evaluation.payload.item.id, Scheduler.abortMessage message⟩

theorem Job.Yields.note {j : Job} {r : EvaluationResult} (h : j.Yields r) (report : TickReport) :
    Scheduler.note report r = j.note report := by
  unfold Scheduler.note Job.note
  cases hj : j.result with
  | ok result => simp only [h.result.trans hj]
  | error message => simp only [h.result.trans hj, h.evaluation]

theorem Job.foldl_note_of_yields {jobs : List Job} {results : List EvaluationResult}
    (h : List.Forall₂ Job.Yields jobs results) (report : TickReport) :
    results.foldl Scheduler.note report = jobs.foldl Job.note report := by
  induction h generalizing report with
  | nil => rfl
  | cons hyields _ ih => rw [List.foldl_cons, List.foldl_cons, hyields.note, ih]

namespace Scheduler

/-- The ways to make the evaluations of organizations, one organization after the other. The
evaluations of one organization take turns and end in any order; how long it takes is left open. -/
inductive Courses (s : Scheduler) (now : Instant) (src : FlowSource) :
    List String → World × TickReport → List Job → List (ActionKey × Call) → World × TickReport →
      Prop where
  | nil {a} : Courses s now src [] a [] [] a
  | missing {org orgs err w r jobs cs b} : load src org = .error err →
      Courses s now src orgs (w, r.fail (loadError org err)) jobs cs b →
      Courses s now src (org :: orgs) (w, r) jobs cs b
  | evaluated {org orgs flows items w r evs planned jobs cs w₁ clock jobs' cs' b}
      {ended : List Job} :
      load src org = .ok (flows, items) → s.plan org now items flows r = (evs, planned) →
      s.Advances now (evs.map job, w) cs (jobs, w₁) → (∀ j ∈ jobs, j.runner.stage = .ended) →
      ended.Perm jobs →
      Courses s now src orgs
        ({ w₁ with clock },
          ended.foldl Job.note
            { planned with pairsEvaluated := planned.pairsEvaluated + evs.length })
        jobs' cs' b →
      Courses s now src (org :: orgs) (w, r) (jobs ++ jobs') (cs ++ cs') b

/-- A tick begins by pruning the ledger. -/
def opening (s : Scheduler) (now : Instant) (w : World) : World × TickReport :=
  ({ w with ledger := (w.ledger.prune now s.window).2 },
    { TickReport.start now with ledgerPruned := (w.ledger.prune now s.window).1 })

/-- The ways to make a tick. -/
def Course (s : Scheduler) (now : Instant) (src : FlowSource) (w : World) (jobs : List Job)
    (cs : List (ActionKey × Call)) (w' : World) (report : TickReport) : Prop :=
  s.Courses now src s.organizations (s.opening now w) jobs cs (w', report)

variable {s : Scheduler} {now : Instant} {src : FlowSource} {w w' : World} {jobs : List Job}
  {cs : List (ActionKey × Call)} {report : TickReport}

section

variable {orgs : List String} {a b : World × TickReport}

/-- All evaluations of a course are over, and what every move of an evaluation keeps up, with the
calls made so far, holds of them. -/
theorem Courses.forall_job {P : List (ActionKey × Call) → Job → Prop}
    (h : s.Courses now src orgs a jobs cs b)
    (hmore : ∀ {cs cs' j}, cs ⊆ cs' → P cs j → P cs' j) (hstart : ∀ ev, P [] (job ev))
    (hmove : ∀ {ev r w b cs},
      Runner.Moves ev.graph s.engine (s.context now ev) ⟨now, s.window⟩ (r, w) b → P cs ⟨ev, r⟩ →
        P (cs ++ (r.called? s.engine (s.context now ev) w).toList) ⟨ev, b.1⟩) :
    ∀ j ∈ jobs, P cs j ∧ j.runner.stage = .ended := by
  induction h with
  | nil => simp
  | missing _ _ ih => exact ih
  | @evaluated _ _ _ _ _ _ evs _ _ _ _ _ _ _ _ _ _ _ hadvances hended _ _ ih =>
    -- calls made before or after, for other organizations, do no harm
    refine List.forall_mem_append.2 ⟨fun j hj => ⟨?_, hended j hj⟩, fun j hj => ⟨?_, (ih j hj).2⟩⟩
    · have hfirst : ∀ j ∈ evs.map job, P [] j := List.forall_mem_map.2 fun ev _ => hstart ev
      have hlast := hadvances.forall_job (P := P) hmore hmove hfirst j hj
      exact hmore (List.subset_append_left _ _) hlast
    · exact hmore (List.subset_append_right _ _) (ih j hj).1

/-- The calls of a course are those that the world has noted, apart from the completions. -/
theorem Courses.exists_calls (h : s.Courses now src orgs a jobs cs b) :
    ∃ new, b.1.calls = a.1.calls ++ new ∧
      new.filter (·.service ≠ .completion) = cs.map Prod.snd := by
  induction h with
  | nil => exact ⟨[], (List.append_nil _).symm, rfl⟩
  | missing _ _ ih => exact ih
  | evaluated _ _ hadvances _ _ _ ih =>
    obtain ⟨new, hnew, hfirst⟩ := hadvances.exists_calls
    obtain ⟨more, hmore, hrest⟩ := ih
    refine ⟨new ++ more, ?_, ?_⟩
    · rw [hmore, ← List.append_assoc, ← hnew]
    · rw [List.filter_append, List.map_append, hfirst, hrest]

end

/-- An evaluation takes a route from the triggers that listen. -/
theorem Course.routes (h : s.Course now src w jobs cs w' report) {j : Job} (hj : j ∈ jobs) :
    j.runner.payload.item = j.evaluation.payload.item ∧
    Routes j.evaluation.graph s.engine j.evaluation.payload.item
      (j.evaluation.graph.listeners j.evaluation.payload.triggerEvent) [] [] j.runner.story := by
  obtain ⟨hroute, hended⟩ := Courses.forall_job h
    (P := fun _ j => j.runner.OnRoute j.evaluation.graph s.engine j.evaluation.payload.item
      (j.evaluation.graph.listeners j.evaluation.payload.triggerEvent))
    (fun _ hr => hr) (fun ev => Runner.onRoute_start _ _) (fun hmove hr => hr.moves hmove) j hj
  exact ⟨hroute.1, hroute.routes hended⟩

theorem Course.ended (h : s.Course now src w jobs cs w' report) {j : Job} (hj : j ∈ jobs) :
    j.runner.stage = .ended :=
  (Courses.forall_job h (P := fun _ _ => True) (fun _ _ => trivial) (fun _ => trivial)
    (fun _ _ => trivial) j hj).2

theorem Course.actionKey_eq (h : s.Course now src w jobs cs w' report) {j : Job} (hj : j ∈ jobs) :
    NodeTask.actionKey (s.context now j.evaluation) j.runner.payload = j.evaluation.key := by
  funext id
  rw [NodeTask.actionKey, (h.routes hj).1]
  rfl

/-- A node that came out in some way is an action. -/
theorem Course.capability_of_outcome (h : s.Course now src w jobs cs w' report) {j : Job}
    (hj : j ∈ jobs) {n : GraphNode} {effect : NodeEffect} (hn : .visit n effect ∈ j.runner.story)
    {o : ActionOutcome} (ho : effect.outcome? = some o) : n.capability = .action := by
  obtain ⟨a, ha⟩ := ((h.routes hj).2.comesTo n effect hn).exists_act ho
  exact NodeConfig.capability_of_task ha

/-- An action that was attempted called its collaborator, if it could. -/
theorem Course.exists_call (h : s.Course now src w jobs cs w' report) {j : Job} (hj : j ∈ jobs)
    {n : GraphNode} {effect : NodeEffect} (hn : .visit n effect ∈ j.runner.story)
    (heffect : effect.isAttempt = true) {a : Action} (ha : n.config.task = .act a) :
    ∃ p w, ∀ c ∈ a.call? s.engine p w, (j.evaluation.key n.id, c) ∈ cs := by
  obtain ⟨hlisted, -⟩ := Courses.forall_job h (P := fun cs j =>
    j.runner.Listed s.engine (s.context now j.evaluation) cs)
    (fun hcs hr => hr.mono hcs) (fun ev => ⟨by simp [job, Runner.start], trivial⟩)
    (fun hmove hr => hmove.listed hr) j hj
  rw [← h.actionKey_eq hj]
  exact hlisted.1 n effect hn heffect a ha

theorem Course.exists_calls (h : s.Course now src w jobs cs w' report) :
    ∃ new, w'.calls = w.calls ++ new ∧
      new.filter (·.service ≠ .completion) = cs.map Prod.snd :=
  Courses.exists_calls h

/-! ### Ticks that make one evaluation after the other -/

/-- What is done for an organization comes before what is done for the others. -/
theorem courses_tickOrganization (s : Scheduler) (now : Instant) (src : FlowSource)
    (t : TickProgress) (org : String) :
    ∃ jobs cs results, (s.tickOrganization src now t org).results = t.results ++ results ∧
      List.Forall₂ Job.Yields jobs results ∧
      ∀ orgs jobs' cs' b,
        s.Courses now src orgs
          ((s.tickOrganization src now t org).world, (s.tickOrganization src now t org).report)
          jobs' cs' b →
        s.Courses now src (org :: orgs) (t.world, t.report) (jobs ++ jobs') (cs ++ cs') b := by
  unfold tickOrganization
  split
  · next hload =>
    exact ⟨[], [], [], (List.append_nil _).symm, .nil, fun _ _ _ _ h => .missing hload h⟩
  · next flows items hload =>
    rcases hplan : s.plan org now items flows t.report with ⟨evs, planned⟩
    obtain ⟨jobs, heval, hyields⟩ := evaluates_evaluateAll s now evs t.world
    obtain ⟨cs, hadvances⟩ := exists_advances heval.reaches
    refine ⟨jobs, cs, _, rfl, hyields, fun orgs jobs' cs' b h => ?_⟩
    dsimp only [evaluateTogether] at h
    rw [Job.foldl_note_of_yields hyields] at h
    exact .evaluated hload hplan hadvances heval.ended (.refl _) h

theorem courses_foldl (s : Scheduler) (now : Instant) (src : FlowSource) (orgs : List String)
    (t : TickProgress) :
    ∃ jobs cs results,
      (orgs.foldl (s.tickOrganization src now) t).results = t.results ++ results ∧
      List.Forall₂ Job.Yields jobs results ∧
      s.Courses now src orgs (t.world, t.report) jobs cs
        ((orgs.foldl (s.tickOrganization src now) t).world,
          (orgs.foldl (s.tickOrganization src now) t).report) := by
  induction orgs generalizing t with
  | nil => exact ⟨[], [], [], (List.append_nil _).symm, .nil, .nil⟩
  | cons org orgs ih =>
    obtain ⟨jobs, cs, results, hresults, hyields, hcourse⟩ :=
      courses_tickOrganization s now src t org
    obtain ⟨jobs', cs', results', hresults', hyields', hrest⟩ :=
      ih (s.tickOrganization src now t org)
    refine ⟨jobs ++ jobs', cs ++ cs', results ++ results', ?_, List.rel_append hyields hyields',
      hcourse _ _ _ _ hrest⟩
    rw [List.foldl_cons, hresults', hresults, List.append_assoc]

/-- The tick in which evaluations are made one after the other is one of the ways to make it. -/
theorem course_tick (s : Scheduler) (now : Instant) (src : FlowSource) (w : World) :
    ∃ jobs cs, s.Course now src w jobs cs (s.tick src now w).world (s.tick src now w).report ∧
      List.Forall₂ Job.Yields jobs (s.tick src now w).results := by
  obtain ⟨jobs, cs, results, hresults, hyields, hcourses⟩ := courses_foldl s now src
    s.organizations ⟨{ TickReport.start now with ledgerPruned := (w.ledger.prune now s.window).1 },
      [], { w with ledger := (w.ledger.prune now s.window).2 }⟩
  have hresults : (s.tick src now w).results = results := hresults
  exact ⟨jobs, cs, hcourses, hresults ▸ hyields⟩

/-! ### The evaluations of a tick -/

/-- The evaluations of a flow that is valid. -/
def evaluationsIn (s : Scheduler) (now : Instant) (org : String) (items : List InventoryItem)
    (f : Flow) : List Evaluation :=
  match f.validate s.engine.registry with
  | .ok g => evaluationsOf org now items f g
  | .error _ => []

/-- The evaluations of an organization that can be loaded. -/
def evaluationsAt (s : Scheduler) (now : Instant) (src : FlowSource) (org : String) :
    List Evaluation :=
  match load src org with
  | .ok (flows, items) => flows.flatMap (s.evaluationsIn now org items)
  | .error _ => []

/-- The evaluations of a tick. -/
def evaluations (s : Scheduler) (now : Instant) (src : FlowSource) : List Evaluation :=
  s.organizations.flatMap (s.evaluationsAt now src)

theorem plan_eq (s : Scheduler) (now : Instant) (org : String) (items : List InventoryItem)
    (flows : List Flow) (r : TickReport) :
    (s.plan org now items flows r).1 = flows.flatMap (s.evaluationsIn now org items) := by
  induction flows generalizing r with
  | nil => rfl
  | cons f flows ih =>
    rw [plan, List.flatMap_cons, evaluationsIn]
    cases f.validate s.engine.registry with
    | error err => exact ih _
    | ok g => exact congrArg (evaluationsOf org now items f g ++ ·) (ih _)

theorem evaluationsAt_eq {org : String} {flows : List Flow} {items : List InventoryItem}
    {r planned : TickReport} {evs : List Evaluation} (hload : load src org = .ok (flows, items))
    (hplan : s.plan org now items flows r = (evs, planned)) :
    s.evaluationsAt now src org = evs := by
  rw [evaluationsAt, hload]
  dsimp only
  rw [← s.plan_eq now org items flows r, hplan]

theorem map_evaluation_job (evs : List Evaluation) : (evs.map job).map Job.evaluation = evs := by
  rw [List.map_map]
  exact List.map_id evs

/-- Every course makes the evaluations of its organizations. -/
theorem Courses.map_evaluation {orgs : List String} {a b : World × TickReport}
    (h : s.Courses now src orgs a jobs cs b) :
    jobs.map Job.evaluation = orgs.flatMap (s.evaluationsAt now src) := by
  induction h with
  | nil => rfl
  | missing hload _ ih => rw [List.flatMap_cons, evaluationsAt, hload, ih, List.nil_append]
  | evaluated hload hplan hadvances _ _ _ ih =>
    rw [List.map_append, hadvances.map_evaluation, map_evaluation_job, ih, List.flatMap_cons,
      evaluationsAt_eq hload hplan]

/-- Every course of a tick makes the evaluations of the tick. -/
theorem Course.map_evaluation (h : s.Course now src w jobs cs w' report) :
    jobs.map Job.evaluation = s.evaluations now src :=
  Courses.map_evaluation h

/-- An evaluation of a tick is of a valid flow in the store, on one of the items there, for an event
that the flow listens for. -/
theorem mem_evaluations_iff {ev : Evaluation} :
    ev ∈ s.evaluations now src ↔ ∃ org ∈ s.organizations, ∃ flows items,
      load src org = .ok (flows, items) ∧ ∃ f ∈ flows, ∃ g, f.validate s.engine.registry = .ok g ∧
        ∃ item ∈ items, ∃ event ∈ f.triggerEvents, ev = ⟨g, payloadFor org item event now⟩ := by
  have hflow (org : String) (items : List InventoryItem) (f : Flow) :
      ev ∈ s.evaluationsIn now org items f ↔ ∃ g, f.validate s.engine.registry = .ok g ∧
        ∃ item ∈ items, ∃ event ∈ f.triggerEvents, ev = ⟨g, payloadFor org item event now⟩ := by
    unfold evaluationsIn
    cases f.validate s.engine.registry with
    | error err => simp
    | ok g => simp [evaluationsOf, eq_comm]
  rw [evaluations, List.mem_flatMap]
  refine exists_congr fun org => and_congr_right fun _ => ?_
  unfold evaluationsAt
  cases load src org with
  | error err => simp
  | ok loaded =>
    obtain ⟨flows, items⟩ := loaded
    simp only [List.mem_flatMap, hflow, Except.ok.injEq, Prod.mk.injEq, and_assoc,
      exists_and_left, exists_eq_left']

/-! ### Courses of some organizations -/

section

variable {orgs : List String} {org : String}

theorem Courses.append {before after : List String} {x y z : World × TickReport}
    {jobs' : List Job} {cs' : List (ActionKey × Call)} (h : s.Courses now src before x jobs cs y)
    (h' : s.Courses now src after y jobs' cs' z) :
    s.Courses now src (before ++ after) x (jobs ++ jobs') (cs ++ cs') z := by
  induction h with
  | nil => exact h'
  | missing hload _ ih => exact .missing hload (ih h')
  | evaluated hload hplan hadvances hended hperm _ ih =>
    rw [List.append_assoc, List.append_assoc]
    exact .evaluated hload hplan hadvances hended hperm (ih h')

theorem Courses.of_append {before after : List String} {x z : World × TickReport}
    (h : s.Courses now src (before ++ after) x jobs cs z) :
    ∃ jobs₁ cs₁ y jobs₂ cs₂, jobs = jobs₁ ++ jobs₂ ∧ cs = cs₁ ++ cs₂ ∧
      s.Courses now src before x jobs₁ cs₁ y ∧ s.Courses now src after y jobs₂ cs₂ z := by
  induction before generalizing x jobs cs with
  | nil => exact ⟨[], [], x, jobs, cs, rfl, rfl, .nil, h⟩
  | cons org before ih =>
    cases h with
    | missing hload hrest =>
      obtain ⟨jobs₁, cs₁, y, jobs₂, cs₂, hjobs, hcs, hfirst, hlast⟩ := ih hrest
      exact ⟨jobs₁, cs₁, y, jobs₂, cs₂, hjobs, hcs, .missing hload hfirst, hlast⟩
    | evaluated hload hplan hadvances hended hperm hrest =>
      obtain ⟨jobs₁, cs₁, y, jobs₂, cs₂, rfl, rfl, hfirst, hlast⟩ := ih hrest
      exact ⟨_, _, y, jobs₂, cs₂, (List.append_assoc ..).symm, (List.append_assoc ..).symm,
        .evaluated hload hplan hadvances hended hperm hfirst, hlast⟩

/-- What is planned for an organization is not a matter of which organizations there are. -/
theorem plan_congr (s : Scheduler) (listed : List String) (items : List InventoryItem)
    (flows : List Flow) (r : TickReport) :
    { s with organizations := listed }.plan org now items flows r =
      s.plan org now items flows r := by
  induction flows generalizing r with
  | nil => rfl
  | cons f flows ih =>
    unfold plan
    dsimp only
    cases f.validate s.engine.registry with
    | error err => exact ih _
    | ok g => simp only [ih]

theorem Advances.of_listed {listed : List String} {x y : List Job × World}
    (h : { s with organizations := listed }.Advances now x cs y) : s.Advances now x cs y := by
  induction h with
  | refl => exact .refl
  | step b _ hb ih => exact .step b ih hb

theorem Courses.of_listed (listed : List String) {x y : World × TickReport}
    (h : { s with organizations := listed }.Courses now src orgs x jobs cs y) :
    s.Courses now src orgs x jobs cs y := by
  induction h with
  | nil => exact .nil
  | missing hload _ ih => exact .missing hload ih
  | evaluated hload hplan hadvances hended hperm _ ih =>
    rw [plan_congr] at hplan
    exact .evaluated hload hplan hadvances.of_listed hended hperm ih

theorem courses_congr (listed : List String) {x y : World × TickReport} :
    { s with organizations := listed }.Courses now src orgs x jobs cs y ↔
      s.Courses now src orgs x jobs cs y :=
  ⟨Courses.of_listed listed, fun h =>
    Courses.of_listed (s := { s with organizations := listed }) s.organizations h⟩

end

end Scheduler
end KitchenFlow
