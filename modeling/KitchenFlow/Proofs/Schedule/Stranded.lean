import KitchenFlow.Proofs.Schedule.Slots
import KitchenFlow.Proofs.Schedule.Spacing
import KitchenFlow.Proofs.Schedule.Tallies

/-!
# Slots that are left behind

After a tick, the slots of the actions that it carried out are taken, and so they should be. If a
collaborator only fails, the slot is given back. But if it breaks down, it takes the evaluation with
it, and nobody is left to give the slot back: the action was not carried out, and is not going to be
for the rest of the window.

    holds_after_course       which slots are taken after a tick, and by what
    strands_after_breakdown  a tick that carries out nothing and leaves a slot taken
-/

namespace KitchenFlow.Scheduler

variable {s : Scheduler} {now : Instant} {src : FlowSource} {w w' : World} {jobs : List Job}
  {cs : List (ActionKey × Call)} {report : TickReport} {k : ActionKey}

/-- Carried out in an evaluation are the actions of which its story says so. -/
theorem Course.mem_doneIn_iff (h : s.Course now src w jobs cs w' report) {j : Job} (hj : j ∈ jobs) :
    k ∈ s.doneIn now j ↔ ∃ n effect, .visit n effect ∈ j.runner.story ∧
      effect.outcome? = some .dispatched ∧ k = j.evaluation.key n.id := by
  have hevent (id : String) : id ∈ j.runner.story.events.filterMap RunEvent.dispatched? ↔
      NodeEffect.actionEvent id .dispatched ∈ j.runner.story.events := by
    rw [List.mem_filterMap]
    constructor
    · rintro ⟨v, hv, hid⟩
      cases v <;> simp only [RunEvent.dispatched?, reduceCtorEq, Option.some.injEq] at hid
      exact hid ▸ hv
    · exact fun hv => ⟨_, hv, rfl⟩
  rw [doneIn, Runner.dispatched, h.actionKey_eq hj, List.mem_map]
  constructor
  · rintro ⟨id, hid, rfl⟩
    rw [hevent, Story.actionEvent_mem_events (.inl rfl), Story.mem_outcomes_iff] at hid
    obtain ⟨n, effect, hn, ho, rfl⟩ := hid
    exact ⟨n, effect, hn, ho, rfl⟩
  · rintro ⟨n, effect, hn, ho, rfl⟩
    refine ⟨n.id, ?_, rfl⟩
    rw [hevent, Story.actionEvent_mem_events (.inl rfl), Story.mem_outcomes_iff]
    exact ⟨n, effect, hn, ho, rfl⟩

theorem Course.error?_of_visit (h : s.Course now src w jobs cs w' report) {j : Job} (hj : j ∈ jobs)
    {n : GraphNode} {message : String} (hn : .visit n (.aborted message) ∈ j.runner.story) :
    j.error? = some ⟨j.evaluation.graph.flowId, j.evaluation.payload.item.id,
      abortMessage message⟩ := by
  have hbroken := (h.routes hj).2.abort?_of_visit hn
  rw [Job.error?, Job.result, hbroken]

/-- A slot is taken after a tick if it was taken before, if its action was carried out, or if a
collaborator broke down at it. -/
theorem holds_after_course (h : s.Course now src w jobs cs w' report) (hw : 0 < s.window)
    (k : ActionKey) :
    w'.ledger.holds now s.window k = true ↔
      w.ledger.holds now s.window k = true ∨ (∃ j ∈ jobs, k ∈ s.doneIn now j) ∨
      ∃ j ∈ jobs, ∃ n message, .visit n (.aborted message) ∈ j.runner.story ∧
        n.capability = .action ∧ k = j.evaluation.key n.id ∧
        ⟨j.evaluation.graph.flowId, j.evaluation.payload.item.id, abortMessage message⟩
          ∈ report.errors := by
  -- a tick prunes the ledger first, which takes nothing that is in force
  have hpruned : (w.ledger.prune now s.window).2.holds now s.window k =
      w.ledger.holds now s.window k := Ledger.holds_prune fun _ _ => Int.le_refl _
  rw [(h.gains hw).holds_iff hw, hpruned, h.mem_slots_iff]
  refine or_congr_right ?_
  constructor
  · rintro ⟨j, hj, n, effect, hn, hact, ho | hbroken, rfl⟩
    · exact .inl ⟨j, hj, (h.mem_doneIn_iff hj).2 ⟨n, effect, hn, ho, rfl⟩⟩
    · cases effect <;> cases hbroken
      exact .inr ⟨j, hj, n, _, hn, hact, rfl, h.mem_errors hj (h.error?_of_visit hj hn)⟩
  · rintro (⟨j, hj, hk⟩ | ⟨j, hj, n, message, hn, hact, rfl, -⟩)
    · obtain ⟨n, effect, hn, ho, rfl⟩ := (h.mem_doneIn_iff hj).1 hk
      exact ⟨j, hj, n, effect, hn, h.capability_of_outcome hj hn ho, .inl ho, rfl⟩
    · exact ⟨j, hj, n, _, hn, hact, .inr rfl, rfl⟩

/-! ## A notifier that breaks down -/

/-- A tick in which the notifier breaks down when it is asked to warn of the milk. -/
theorem holds_after_course_milk :
    let s := Example.minuteScheduler fun _ _ => .atOnce (.breakdown "gone")
    0 < s.window ∧ ∃ jobs cs w' report,
      s.Course ⟨0, 0⟩ Example.source .initial jobs cs w' report ∧
      ∃ j ∈ jobs, ∃ n message, .visit n (.aborted message) ∈ j.runner.story ∧
        n.capability = .action ∧ Example.milkKey = j.evaluation.key n.id ∧
        ⟨j.evaluation.graph.flowId, j.evaluation.payload.item.id, abortMessage message⟩
          ∈ report.errors := by
  intro s
  obtain ⟨jobs, cs, hcourse, hyields⟩ := s.course_tick ⟨0, 0⟩ Example.source .initial
  have htaken : (s.tick Example.source ⟨0, 0⟩ .initial).world.ledger.holds ⟨0, 0⟩ s.window
      Example.milkKey = true := by decide +kernel
  have hnone : (s.tick Example.source ⟨0, 0⟩ .initial).dispatched = [] := by decide +kernel
  refine ⟨by decide, jobs, cs, _, _, hcourse, ?_⟩
  rcases (holds_after_course hcourse (by decide) Example.milkKey).1 htaken with
    hbefore | ⟨j, hj, hdone⟩ | hstranded
  · cases hbefore
  · rw [TickProgress.dispatched, ← flatMap_doneIn_of_yields hyields] at hnone
    exact (List.not_mem_nil (hnone ▸ List.mem_flatMap.2 ⟨j, hj, hdone⟩)).elim
  · exact hstranded

/-- The tick leaves the slot of the warning taken, which was free before, and it carries out
nothing. -/
theorem strands_after_breakdown :
    ∃ (s : Scheduler) (now : Instant) (src : FlowSource) (w : World) (k : ActionKey),
      0 < s.window ∧ w.ledger.holds now s.window k = false ∧
      (s.tick src now w).world.ledger.holds now s.window k = true ∧
      k ∉ (s.tick src now w).dispatched :=
  ⟨Example.minuteScheduler fun _ _ => .atOnce (.breakdown "gone"), ⟨0, 0⟩, Example.source, .initial,
    Example.milkKey, by decide +kernel⟩

end KitchenFlow.Scheduler
