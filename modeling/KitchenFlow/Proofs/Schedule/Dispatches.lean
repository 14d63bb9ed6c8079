import KitchenFlow.Proofs.Schedule.Courses

/-!
# The dispatches of a tick

Of a course of a tick, the ledger sees nothing but the actions that are carried out. `Ticks` relates
the world before a tick to their keys and to the world after it, for every course that it may take:

    ticks_tick     the course that `tick` takes is one of them
    serves_ticks   a tick serves the keys it dispatches, starting from the pruned ledger

The second says all about ticks and the ledger that is needed later on.
-/

namespace KitchenFlow

/-- The keys of the actions carried out in a tick, in order. -/
def TickProgress.dispatched (t : TickProgress) : List ActionKey :=
  t.results.flatMap EvaluationResult.dispatched

namespace Scheduler

variable {s : Scheduler} {now : Instant} {src : FlowSource} {w w' : World}

/-- A tick may carry out the actions of these keys and lead to this world. -/
def Ticks (s : Scheduler) (now : Instant) (src : FlowSource) (w : World) (ks : List ActionKey)
    (w' : World) : Prop :=
  ∃ jobs cs report, s.Course now src w jobs cs w' report ∧ ks = jobs.flatMap (s.doneIn now)

/-- What is carried out in the course of a tick. -/
theorem Course.ticks {jobs : List Job} {cs : List (ActionKey × Call)} {report : TickReport}
    (h : s.Course now src w jobs cs w' report) :
    s.Ticks now src w (jobs.flatMap (s.doneIn now)) w' :=
  ⟨jobs, cs, report, h, rfl⟩

theorem Courses.serves {orgs : List String} {a b : World × TickReport} {jobs : List Job}
    {cs : List (ActionKey × Call)} (h : s.Courses now src orgs a jobs cs b) :
    a.1.ledger.Serves now s.window (jobs.flatMap (s.doneIn now)) b.1.ledger := by
  induction h with
  | nil => exact .refl _ _ _
  | missing _ _ ih => exact ih
  | @evaluated _ _ _ _ w _ evs _ jobs _ w₁ _ _ _ _ _ _ _ hadvances hended _ _ ih =>
    have heval : s.Evaluates now evs w jobs w₁ := ⟨hadvances.reaches, hended⟩
    rw [List.flatMap_append]
    exact heval.serves.append ih

/-- A tick serves the keys it dispatches, once the ledger is pruned. -/
theorem serves_ticks {ks : List ActionKey} (h : s.Ticks now src w ks w') :
    (w.ledger.prune now s.window).2.Serves now s.window ks w'.ledger := by
  obtain ⟨jobs, cs, report, hcourse, rfl⟩ := h
  exact Courses.serves hcourse

/-- The tick in which evaluations are made one after the other is a tick. -/
theorem ticks_tick (s : Scheduler) (now : Instant) (src : FlowSource) (w : World) :
    s.Ticks now src w (s.tick src now w).dispatched (s.tick src now w).world := by
  obtain ⟨jobs, cs, hcourse, hyields⟩ := s.course_tick now src w
  rw [TickProgress.dispatched, ← flatMap_doneIn_of_yields hyields]
  exact hcourse.ticks

end Scheduler
end KitchenFlow
