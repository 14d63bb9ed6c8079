import KitchenFlow.Proofs.Run.Triggers
import KitchenFlow.Proofs.Schedule.Courses

/-!
# Quiet evaluations

An evaluation all of whose triggers fail to match asks them one after the other and is over. It
makes no call, leaves the world as it is, and has nothing to report. So it makes no difference
whether such evaluations are under way among others or not:

    Runner.Quiet             a run that only asks triggers which do not match
    Advances.without_quiet   what others come to among quiet evaluations, they can come to alone
    Advances.among_quiet     what evaluations come to alone, they can come to among quiet ones
-/

namespace KitchenFlow

/-! ## Runs that only ask -/

/-- A trigger that does not match says so. -/
theorem GraphNode.step_of_not_isMatch {n : GraphNode} {p : Payload} (ht : n.capability = .trigger)
    (hno : n.isMatch p.item = false) (e : Engine) (x : RunContext) (w : World) :
    n.config.task.step e x n.id p w = (.asked false p.item.id p.item.name, w) := by
  obtain ⟨id, config⟩ := n
  cases config with
  | expirationTrigger c | inventoryStatusTrigger c =>
    have hno : c.isMatch p.item = false := hno
    simp [NodeConfig.task, NodeTask.step, NodeTask.ask, hno]
  | conditionalBranch | updateData | generateRecipe | sendNotification | webhookDelivery
    | partnerIntegration => cases ht

namespace Runner

/-- A run under way that has only asked triggers which do not match, and will do nothing else. -/
structure Quiet (item : InventoryItem) (r : Runner) : Prop where
  payload : r.payload.item = item
  roots : ∀ n ∈ r.roots, n.capability = .trigger ∧ n.isMatch item = false
  stack : ∀ n ∈ r.stack, n.capability = .trigger ∧ n.isMatch item = false
  stage : r.stage = .walking ∨ r.stage = .ended
  stats : r.story.stats = .none
  unbroken : r.story.abort? = none

variable {g : FlowGraph} {e : Engine} {x : RunContext} {gd : Guard} {item : InventoryItem}
  {a b : Runner × World}

/-- A quiet run stays quiet, makes no call and leaves the world as it is. -/
theorem Quiet.moves (h : a.1.Quiet item) (hmove : Moves g e x gd a b) :
    b.1.Quiet item ∧ b.2 = a.2 ∧ a.1.called? e x a.2 = none := by
  obtain ⟨hitem, hroots, hstack, hstage, hstats, hunbroken⟩ := h
  have hidle {n : GraphNode} (hn : n.capability = .trigger) {act : Action}
      (ha : n.config.task = .act act) : False := by
    have hact := GraphNode.capability_eq_action_iff.2 ⟨act, ha⟩
    rw [hn] at hact
    cases hact
  -- there are triggers on the stack only, so no move that carries out an action can be made
  cases hmove with
  | finish => exact ⟨⟨hitem, hroots, hstack, .inr rfl, hstats, hunbroken⟩, rfl, rfl⟩
  | root =>
    obtain ⟨hroot, hroots⟩ := List.forall_mem_cons.1 hroots
    exact ⟨⟨hitem, hroots, by simpa using hroot, .inl rfl, hstats, hunbroken⟩, rfl, rfl⟩
  | again =>
    refine ⟨⟨hitem, hroots, (List.forall_mem_cons.1 hstack).2, .inl rfl, ?_, ?_⟩, rfl, rfl⟩
    · exact (Story.stats_concat _ _).trans hstats
    · exact Story.abort?_append hunbroken _
  | @plain _ n _ _ p _ effect _ _ _ _ hstep =>
    obtain ⟨⟨ht, hno⟩, hrest⟩ := List.forall_mem_cons.1 hstack
    obtain rfl : p.item = item := hitem
    rw [GraphNode.step_of_not_isMatch ht hno] at hstep
    cases hstep
    refine ⟨⟨rfl, hroots, hrest, .inl rfl, ?_, ?_⟩, rfl, rfl⟩
    · exact (Story.stats_concat _ _).trans hstats
    · exact Story.abort?_append hunbroken _
  | skip _ ha | take _ ha =>
    exact (hidle (List.forall_mem_cons.1 hstack).1.1 ha).elim
  | send | miss | breakdown | giveBack => rcases hstage with h | h <;> cases h
  | rest => exact ⟨⟨hitem, hroots, hstack, .inr rfl, hstats, hunbroken⟩, rfl, rfl⟩

end Runner

/-! ## Evaluations among quiet ones -/

/-- An evaluation that has nothing to do but ask triggers which do not match. -/
def Evaluation.Quiet (ev : Evaluation) : Prop :=
  ∀ n ∈ ev.graph.listeners ev.payload.triggerEvent, n.isMatch ev.payload.item = false

/-- A quiet evaluation under way. -/
def Job.Quiet (j : Job) : Prop := j.runner.Quiet j.evaluation.payload.item

theorem Evaluation.Quiet.job {ev : Evaluation} (h : ev.Quiet) : (Scheduler.job ev).Quiet := by
  refine ⟨rfl, ?_, by simp [Scheduler.job, Runner.start], .inl rfl, rfl, rfl⟩
  intro n hn
  exact ⟨(FlowGraph.mem_roots (FlowGraph.mem_listeners_iff.1 hn).1).2, h n hn⟩

namespace Scheduler

variable {s : Scheduler} {now : Instant} {w : World}

namespace Advances

variable {a b c : List Job × World} {cs cs' : List (ActionKey × Call)}

theorem trans (h : s.Advances now a cs b) (h' : s.Advances now b cs' c) :
    s.Advances now a (cs ++ cs') c := by
  induction h' with
  | refl => rwa [List.append_nil]
  | step b _ hb ih =>
    rw [← List.append_assoc]
    exact .step b ih hb

/-- What evaluations do among quiet ones, they can do without them. -/
theorem drop (keep : Evaluation → Bool) (h : s.Advances now a cs b)
    (hquiet : ∀ j ∈ a.1, keep j.evaluation = false → j.Quiet) :
    s.Advances now (a.1.filter fun j => keep j.evaluation, a.2) cs
        (b.1.filter fun j => keep j.evaluation, b.2) ∧
      ∀ j ∈ b.1, keep j.evaluation = false → j.Quiet := by
  induction h with
  | refl => exact ⟨.refl, hquiet⟩
  | @step cs before after ev r w b _ hb ih =>
    obtain ⟨hrest, hquiet⟩ := ih
    obtain ⟨hbefore, hcons⟩ := List.forall_mem_append.1 hquiet
    obtain ⟨hr, hafter⟩ := List.forall_mem_cons.1 hcons
    simp only [List.filter_append, List.filter_cons] at hrest ⊢
    cases hkeep : keep ev with
    | true =>
      simp only [hkeep, if_true] at hrest ⊢
      refine ⟨.step b hrest hb, List.forall_mem_append.2 ⟨hbefore, List.forall_mem_cons.2
        ⟨fun hno => ?_, hafter⟩⟩⟩
      cases hkeep.symm.trans hno
    | false =>
      have hr : r.Quiet ev.payload.item := hr hkeep
      have hmove := moves_of_advance hb
      obtain ⟨hb', hworld, hcalled⟩ := Runner.Quiet.moves (a := (r, w)) hr hmove
      simp only [hkeep, Bool.false_eq_true, if_false] at hrest ⊢
      rw [hworld, hcalled, Option.toList_none, List.append_nil]
      exact ⟨hrest, List.forall_mem_append.2 ⟨hbefore, List.forall_mem_cons.2
        ⟨fun _ => hb', hafter⟩⟩⟩

/-- What evaluations do by themselves, they can do among others that wait. -/
theorem restore (keep : Evaluation → Bool) {pool : List Job}
    (h : s.Advances now (pool.filter fun j => keep j.evaluation, w) cs b) :
    ∃ jobs, s.Advances now (pool, w) cs (jobs, b.2) ∧
      (jobs.filter fun j => keep j.evaluation) = b.1 ∧
      ∀ j ∈ jobs, keep j.evaluation = false → j ∈ pool := by
  induction h with
  | refl => exact ⟨pool, .refl, rfl, fun j hj _ => hj⟩
  | @step cs before after ev r w b _ hb ih =>
    obtain ⟨jobs, hjobs, hfilter, hothers⟩ := ih
    -- the evaluation stands somewhere among the others
    obtain ⟨front, rest, rfl, hfront, hrest⟩ := List.filter_eq_append_iff.1 hfilter
    obtain ⟨waiting, behind, rfl, hwaiting, hkeep, hbehind⟩ := List.filter_eq_cons_iff.1 hrest
    rw [← List.append_assoc] at hjobs hothers
    refine ⟨(front ++ waiting) ++ ⟨ev, b.1⟩ :: behind, .step b hjobs hb, ?_, ?_⟩
    · have hnone : (waiting.filter fun j => keep j.evaluation) = [] :=
        List.filter_eq_nil_iff.2 hwaiting
      have hcons : ((⟨ev, b.1⟩ :: behind).filter fun j => keep j.evaluation) =
          ⟨ev, b.1⟩ :: after := by rw [List.filter_cons, if_pos hkeep, hbehind]
      rw [List.filter_append, List.filter_append, hfront, hnone, List.append_nil, hcons]
    · intro j hj hno
      refine hothers j ?_ hno
      rcases List.mem_append.1 hj with hj | hj
      · exact List.mem_append_left _ hj
      · rcases List.mem_cons.1 hj with rfl | hj
        · cases hno.symm.trans hkeep
        · exact List.mem_append_right _ (List.mem_cons_of_mem _ hj)

/-- A quiet evaluation can be made to its end without any other noticing. -/
theorem of_reaches {ev : Evaluation} {a b : Runner × World}
    (h : Runner.Reaches ev.graph s.engine (s.context now ev) a b)
    (ha : a.1.Quiet ev.payload.item) (before after : List Job) :
    s.Advances now (before ++ ⟨ev, a.1⟩ :: after, a.2) [] (before ++ ⟨ev, b.1⟩ :: after, b.2) ∧
      b.1.Quiet ev.payload.item ∧ b.2 = a.2 := by
  induction h with
  | refl => exact ⟨.refl, ha, rfl⟩
  | @tail b c _ hstep ih =>
    obtain ⟨hadvances, hb, hworld⟩ := ih
    have hmove : Runner.Moves ev.graph s.engine (s.context now ev) ⟨now, s.window⟩ b c :=
      moves_of_advance hstep
    obtain ⟨hc, hworld', hcalled⟩ := hb.moves hmove
    have hnext := Advances.step c hadvances hstep
    rw [hcalled] at hnext
    exact ⟨hnext, hc, hworld'.trans hworld⟩

end Advances

/-- What evaluations come to among quiet ones, they can come to by themselves. -/
theorem Advances.without_quiet {keep : Evaluation → Bool} {evs : List Evaluation} {jobs : List Job}
    {w' : World} {cs : List (ActionKey × Call)}
    (h : s.Advances now (evs.map job, w) cs (jobs, w'))
    (hquiet : ∀ ev ∈ evs, keep ev = false → ev.Quiet) :
    s.Advances now ((evs.filter keep).map job, w) cs
        (jobs.filter fun j => keep j.evaluation, w') ∧
      ∀ j ∈ jobs, keep j.evaluation = false → j.Quiet := by
  have hstart : ((evs.map job).filter fun j => keep j.evaluation) = (evs.filter keep).map job := by
    rw [List.filter_map]
    rfl
  obtain ⟨hkept, hothers⟩ :=
    h.drop keep (List.forall_mem_map.2 fun ev hev hno => (hquiet ev hev hno).job)
  dsimp only at hkept
  rw [hstart] at hkept
  exact ⟨hkept, hothers⟩

/-- Before any other evaluation begins, the quiet ones can be made to their ends. -/
theorem exists_settled (s : Scheduler) (now : Instant) (keep : Evaluation → Bool)
    (evs : List Evaluation) (hquiet : ∀ ev ∈ evs, keep ev = false → ev.Quiet) (w : World)
    (before : List Job) :
    ∃ pool, s.Advances now (before ++ evs.map job, w) [] (before ++ pool, w) ∧
      (pool.filter fun j => keep j.evaluation) = (evs.filter keep).map job ∧
      ∀ j ∈ pool, keep j.evaluation = false → j.runner.stage = .ended := by
  induction evs generalizing before with
  | nil => exact ⟨[], .refl, rfl, by simp⟩
  | cons ev evs ih =>
    obtain ⟨hev, hevs⟩ := List.forall_mem_cons.1 hquiet
    cases hkeep : keep ev with
    | true =>
      obtain ⟨pool, hpool, hfilter, hended⟩ := ih hevs (before ++ [job ev])
      simp only [List.append_assoc, List.singleton_append] at hpool
      refine ⟨job ev :: pool, hpool, ?_, List.forall_mem_cons.2 ⟨fun hno => ?_, hended⟩⟩
      · simp only [List.filter_cons, job, hkeep, if_true, hfilter, List.map_cons]
      · cases hkeep.symm.trans hno
    | false =>
      obtain ⟨r, hreach, hstage, -, -⟩ := Runner.reaches_walkAll (g := ev.graph) (e := s.engine)
        (x := s.context now ev) (ev.graph.listeners ev.payload.triggerEvent) ev.payload w
      obtain ⟨hfirst, -, hworld⟩ :=
        Advances.of_reaches hreach (hev hkeep).job before (evs.map job)
      obtain ⟨pool, hpool, hfilter, hended⟩ := ih hevs (before ++ [⟨ev, r⟩])
      simp only [List.append_assoc, List.singleton_append] at hpool
      refine ⟨⟨ev, r⟩ :: pool, ?_, ?_, List.forall_mem_cons.2 ⟨fun _ => hstage, hended⟩⟩
      · dsimp only at hworld
        rw [hworld] at hfirst
        exact hfirst.trans hpool
      · simp only [List.filter_cons, hkeep, Bool.false_eq_true, if_false, hfilter]

/-- What evaluations come to by themselves, they can come to among quiet ones that end as well. -/
theorem Advances.among_quiet {keep : Evaluation → Bool} {evs : List Evaluation} {jobs : List Job}
    {w' : World} {cs : List (ActionKey × Call)}
    (h : s.Advances now ((evs.filter keep).map job, w) cs (jobs, w'))
    (hended : ∀ j ∈ jobs, j.runner.stage = .ended)
    (hquiet : ∀ ev ∈ evs, keep ev = false → ev.Quiet) :
    ∃ all, s.Advances now (evs.map job, w) cs (all, w') ∧
      (all.filter fun j => keep j.evaluation) = jobs ∧ ∀ j ∈ all, j.runner.stage = .ended := by
  -- the quiet ones come first, and the others then go as they did
  obtain ⟨pool, hpool, hkept, hsettled⟩ := s.exists_settled now keep evs hquiet w []
  rw [← hkept] at h
  obtain ⟨all, hall, hfilter, hothers⟩ := h.restore keep
  dsimp only at hfilter
  refine ⟨all, hpool.trans hall, hfilter, fun j hj => ?_⟩
  cases hkeep : keep j.evaluation with
  | true => exact hended j (hfilter ▸ List.mem_filter.2 ⟨hj, hkeep⟩)
  | false => exact hsettled j (hothers j hj hkeep) hkeep

end Scheduler

/-! ## What is reported -/

namespace Job.Quiet

variable {j : Job}

/-- A quiet evaluation is not broken off, and it has nothing to count. -/
theorem exists_result (h : j.Quiet) : ∃ r, j.result = .ok r ∧ r.stats = .none := by
  rw [Job.result, h.unbroken]
  exact ⟨_, rfl, h.stats⟩

theorem note_eq (h : j.Quiet) (report : TickReport) : j.note report = report := by
  obtain ⟨r, hr, hstats⟩ := h.exists_result
  rw [Job.note, hr]
  dsimp only
  rw [hstats]
  rfl

end Job.Quiet

/-- Quiet evaluations can be left out of a report. -/
theorem Job.foldl_note_filter (keep : Evaluation → Bool) {jobs : List Job}
    (hquiet : ∀ j ∈ jobs, keep j.evaluation = false → j.Quiet) (report : TickReport) :
    (jobs.filter fun j => keep j.evaluation).foldl Job.note report =
      jobs.foldl Job.note report := by
  induction jobs generalizing report with
  | nil => rfl
  | cons j jobs ih =>
    obtain ⟨hj, hjobs⟩ := List.forall_mem_cons.1 hquiet
    rw [List.filter_cons, List.foldl_cons]
    split
    · rw [List.foldl_cons, ih hjobs]
    · next hkeep =>
      rw [(hj (Bool.eq_false_iff.2 hkeep)).note_eq, ih hjobs]

theorem Job.foldl_note_of_quiet {jobs : List Job} (hquiet : ∀ j ∈ jobs, j.Quiet)
    (report : TickReport) : jobs.foldl Job.note report = report := by
  have hnone := Job.foldl_note_filter (fun _ => false) (fun j hj _ => hquiet j hj) report
  rw [← hnone, List.filter_false, List.foldl_nil]

end KitchenFlow
