import KitchenFlow.Proofs.Schedule.Courses
import Mathlib.Algebra.GroupWithZero.Nat

/-!
# What a report adds up to

The evaluations of a tick end in any order, and the report takes them in the order in which they
end. What it says in the end does not depend on it: the matches are those of all evaluations, and
whatever broke off is among the errors.
-/

namespace KitchenFlow

namespace Job

/-- The triggers that matched in an evaluation, unless it was broken off. -/
def matched (j : Job) : Nat :=
  match j.result with
  | .ok r => r.stats.triggersMatched
  | .error _ => 0

/-- What is reported of an evaluation that was broken off. -/
def error? (j : Job) : Option TickError :=
  match j.result with
  | .ok _ => none
  | .error message =>
    some ⟨j.evaluation.graph.flowId, j.evaluation.payload.item.id, Scheduler.abortMessage message⟩

theorem error?_eq_none_iff {j : Job} : j.error? = none ↔ j.runner.story.abort? = none := by
  unfold error? result
  cases j.runner.story.abort? <;> simp

/-- Evaluations made one after the other are not broken off if all of them return. -/
theorem forall_error?_eq_none {jobs : List Job} {results : List EvaluationResult}
    (h : List.Forall₂ Yields jobs results)
    (hok : results.all (·.outcome.result.isOk) = true) : ∀ j ∈ jobs, j.error? = none := by
  intro j hj
  obtain ⟨r, hr, hyields⟩ := Fallible.exists_mem_of_forall₂ h.flip hj
  have hreturned := List.all_eq_true.1 hok r hr
  rw [hyields.result] at hreturned
  unfold error?
  cases hresult : j.result with
  | ok => rfl
  | error =>
    rw [hresult] at hreturned
    cases hreturned

theorem triggersMatched_note (j : Job) (r : TickReport) :
    (j.note r).triggersMatched = r.triggersMatched + j.matched := by
  unfold note matched
  cases j.result <;> rfl

theorem errors_note (j : Job) (r : TickReport) :
    (j.note r).errors = r.errors ++ j.error?.toList := by
  unfold note error?
  cases j.result with
  | ok => exact (List.append_nil _).symm
  | error => rfl

theorem triggersMatched_foldl_note (jobs : List Job) (r : TickReport) :
    (jobs.foldl note r).triggersMatched = r.triggersMatched + (jobs.map matched).sum := by
  induction jobs generalizing r with
  | nil => rfl
  | cons j jobs ih =>
    rw [List.foldl_cons, ih, triggersMatched_note, List.map_cons, List.sum_cons]
    omega

theorem errors_foldl_note (jobs : List Job) (r : TickReport) :
    (jobs.foldl note r).errors = r.errors ++ jobs.filterMap error? := by
  induction jobs generalizing r with
  | nil => exact (List.append_nil _).symm
  | cons j jobs ih =>
    rw [List.foldl_cons, ih, errors_note, List.append_assoc]
    cases h : j.error? with
    | none => rw [List.filterMap_cons_none h]; rfl
    | some e => rw [List.filterMap_cons_some h]; rfl

end Job

namespace Scheduler

variable {s : Scheduler} {now : Instant} {src : FlowSource} {w w' : World} {jobs : List Job}
  {cs : List (ActionKey × Call)} {report : TickReport}

theorem triggersMatched_plan (s : Scheduler) (org : String) (now : Instant)
    (items : List InventoryItem) (flows : List Flow) (r : TickReport) :
    (s.plan org now items flows r).2.triggersMatched = r.triggersMatched := by
  induction flows generalizing r with
  | nil => rfl
  | cons f flows ih =>
    rw [plan]
    dsimp only
    cases f.validate s.engine.registry with
    | error err => exact ih _
    | ok g => exact ih _

theorem errors_plan (s : Scheduler) (org : String) (now : Instant) (items : List InventoryItem)
    (flows : List Flow) (r : TickReport) :
    r.errors ⊆ (s.plan org now items flows r).2.errors := by
  induction flows generalizing r with
  | nil => exact List.Subset.refl _
  | cons f flows ih =>
    rw [plan]
    dsimp only
    cases f.validate s.engine.registry with
    | error err =>
      have hrest := ih ({ r with flowsEvaluated := r.flowsEvaluated + 1 }.fail
        ⟨f.id, "*", err.message⟩)
      exact List.Subset.trans (List.subset_append_left r.errors _) hrest
    | ok g => exact ih { r with flowsEvaluated := r.flowsEvaluated + 1 }

section

variable {orgs : List String} {a b : World × TickReport}

theorem Courses.triggersMatched_eq (h : s.Courses now src orgs a jobs cs b) :
    b.2.triggersMatched = a.2.triggersMatched + (jobs.map Job.matched).sum := by
  induction h with
  | nil => rfl
  | missing _ _ ih => exact ih
  | @evaluated org _ flows items _ r _ planned jobs _ _ _ _ _ _ ended _ hplan _ _ hperm _ ih =>
    have hplanned := s.triggersMatched_plan org now items flows r
    rw [hplan] at hplanned
    have hplanned : planned.triggersMatched = r.triggersMatched := hplanned
    -- the order in which they ended does not matter to the sum
    have hended : (ended.map Job.matched).sum = (jobs.map Job.matched).sum :=
      (hperm.map Job.matched).sum_nat
    rw [ih, Job.triggersMatched_foldl_note, List.map_append, List.sum_append, hended, hplanned]
    exact Nat.add_assoc _ _ _

/-- No error is taken back, and an evaluation that is broken off adds one. -/
theorem Courses.errors_subset (h : s.Courses now src orgs a jobs cs b) :
    a.2.errors ⊆ b.2.errors ∧ jobs.filterMap Job.error? ⊆ b.2.errors := by
  induction h with
  | nil => exact ⟨List.Subset.refl _, List.nil_subset _⟩
  | missing _ _ ih => exact ⟨List.Subset.trans (List.subset_append_left _ _) ih.1, ih.2⟩
  | @evaluated org _ flows items _ r _ planned jobs _ _ _ _ _ _ ended _ hplan _ _ hperm _ ih =>
    have hplanned := s.errors_plan org now items flows r
    rw [hplan] at hplanned
    obtain ⟨hfirst, hrest⟩ := ih
    rw [Job.errors_foldl_note] at hfirst
    have hended : jobs.filterMap Job.error? ⊆ ended.filterMap Job.error? :=
      (hperm.filterMap Job.error?).symm.subset
    rw [List.filterMap_append]
    refine ⟨fun e he => hfirst (List.mem_append_left _ (hplanned he)), fun e he => ?_⟩
    rcases List.mem_append.1 he with he | he
    · exact hfirst (List.mem_append_right _ (hended he))
    · exact hrest he

end

/-- The matches reported are those of the evaluations. -/
theorem Course.triggersMatched_eq (h : s.Course now src w jobs cs w' report) :
    report.triggersMatched = (jobs.map Job.matched).sum := by
  rw [Courses.triggersMatched_eq h]
  exact Nat.zero_add _

/-- An evaluation that is broken off is among the errors. -/
theorem Course.mem_errors (h : s.Course now src w jobs cs w' report) {j : Job} (hj : j ∈ jobs)
    {e : TickError} (he : j.error? = some e) : e ∈ report.errors :=
  (Courses.errors_subset h).2 (List.mem_filterMap.2 ⟨j, hj, he⟩)

end Scheduler
end KitchenFlow
