import KitchenFlow.Proofs.Schedule.Exclusion

/-!
# Ticks called at the same time are made one after the other

Since ticks exclude each other, calling them at the same time comes to the same as making those that
are let in one after the other, in the order in which they are let in, and leaving out the rest:

    Interleaves.successive   the reports, and the world between ticks, are those of a succession
    Interleaves.histories    it is a history, so that what holds of histories holds of it

A tick that has the guard is all the time on one of its courses (`TickRun.Underway`), since nothing
that the others do shows in the world.
-/

namespace KitchenFlow

/-! ## Successions -/

/-- These ticks may be made one after the other, with these reports, and lead from one world to
another. -/
inductive Scheduler.Successive (s : Scheduler) :
    World → List (TickCall × TickReport) → World → Prop where
  | nil {w} : Successive s w [] w
  | tick {c w jobs cs w₁ report rest w'} : s.Course c.now c.source w jobs cs w₁ report →
      Successive s w₁ rest w' → Successive s w ((c, report) :: rest) w'

section

variable {s : Scheduler} {w w₁ w₂ : World} {done : List (TickCall × TickReport)}

theorem Scheduler.Successive.append (h : s.Successive w done w₁) {c : TickCall} {jobs : List Job}
    {cs : List (ActionKey × Call)} {report : TickReport}
    (hcourse : s.Course c.now c.source w₁ jobs cs w₂ report) :
    s.Successive w (done ++ [(c, report)]) w₂ := by
  induction h with
  | nil => exact .tick hcourse .nil
  | tick hfirst _ ih => exact .tick hfirst (ih hcourse)

/-- A succession is a history. -/
theorem Scheduler.Successive.histories (h : s.Successive w done w₁) :
    ∃ rs, s.Histories (done.map Prod.fst) w rs := by
  induction h with
  | nil => exact ⟨[], .nil⟩
  | tick hcourse _ ih =>
    obtain ⟨rs, hrest⟩ := ih
    exact ⟨_, .tick hcourse.ticks hrest⟩

end

/-! ## A tick on its course -/

/-- What a tick has done in the world is the beginning of a course, of which it has these
organizations left: each way to do what is left makes a course of it. -/
def TickCall.ComesTo (c : TickCall) (s : Scheduler) (w : World) (orgs : List String)
    (a : World × TickReport) : Prop :=
  ∀ jobs cs b, s.Courses c.now c.source orgs a jobs cs b →
    ∃ jobs' cs', s.Course c.now c.source w jobs' cs' b.1 b.2

namespace TickRun

/-- A tick that has begun in the world `w` is on one of its courses there. -/
def Underway (s : Scheduler) (w : World) (r : TickRun) (w' : World) : Prop :=
  match r.stage with
  | .admitted => r.report = .start r.call.now ∧ w' = w
  | .visiting orgs => r.call.ComesTo s w orgs (w', r.report)
  | .choosing org flows orgs =>
    r.call.source.flows org = .ok flows ∧ r.call.ComesTo s w (org :: orgs) (w', r.report)
  | .evaluating jobs orgs => ∃ org flows items evs planned before report cs,
    Scheduler.load r.call.source org = .ok (flows, items) ∧
      s.plan org r.call.now items flows report = (evs, planned) ∧
      r.call.ComesTo s w (org :: orgs) (before, report) ∧
      s.Advances r.call.now (evs.map Scheduler.job, before) cs (jobs, w') ∧
      r.report = { planned with pairsEvaluated := planned.pairsEvaluated + evs.length }
  | .leaving | .ended => ∃ jobs cs, s.Course r.call.now r.call.source w jobs cs w' r.report
  | .asking => False

variable {s : Scheduler} {r : TickRun} {σ : TickShared} {b : TickRun × TickShared} {w : World}

/-- Each turn of a tick keeps it on a course. -/
theorem Turn.underway (h : Turn s (r, σ) b) (hr : r.Underway s w σ.world) :
    b.1.Underway s w b.2.world := by
  cases h with
  | refuse | grant => exact hr.elim
  | @prune c _ report _ w₁ _ _ _ hprune =>
    obtain ⟨rfl, rfl⟩ : report = .start c.now ∧ w₁ = w := hr
    intro jobs cs b hcourses
    refine ⟨jobs, cs, ?_⟩
    unfold Scheduler.Course Scheduler.opening
    rw [hprune]
    exact hcourses
  | noFlows hflows =>
    exact fun jobs cs b hcourses => hr jobs cs b
      (.missing (Scheduler.load_eq_error_iff.2 (.inl hflows)) hcourses)
  | flows hflows => exact ⟨hflows, hr⟩
  | noItems hitems =>
    obtain ⟨hflows, hr⟩ := hr
    exact fun jobs cs b hcourses => hr jobs cs b
      (.missing (Scheduler.load_eq_error_iff.2 (.inr ⟨_, hflows, hitems⟩)) hcourses)
  | items hitems hplan =>
    obtain ⟨hflows, hr⟩ := hr
    exact ⟨_, _, _, _, _, _, _, [], Scheduler.load_eq_ok_iff.2 ⟨hflows, hitems⟩, hplan, hr, .refl,
      rfl⟩
  | evaluate hstep =>
    obtain ⟨org, flows, items, evs, planned, before, report, cs, hload, hplan, hr, hadvances,
      hreport⟩ := hr
    cases hstep with
    | mk b hb =>
      exact ⟨org, flows, items, evs, planned, before, report, _, hload, hplan, hr,
        .step b hadvances hb, hreport⟩
  | collect hended hperm =>
    obtain ⟨org, flows, items, evs, planned, before, report, cs, hload, hplan, hr, hadvances,
      rfl⟩ := hr
    exact fun jobs cs b hcourses => hr _ _ b
      (.evaluated hload hplan hadvances hended hperm hcourses)
  | done => exact hr [] [] _ .nil
  | leave => exact hr

/-- A turn of a tick that does not have the guard touches nothing, or the tick is granted the
guard. -/
theorem Turn.of_not_held (h : Turn s (r, σ) b) (hr : r.Fits) (hheld : r.held = false) :
    b.1.held = false ∧ b.2 = σ ∨ σ.guard.running = false ∧
      b = (⟨r.call, .admitted, true, .start r.call.now⟩, { σ with guard := ⟨true⟩ }) := by
  obtain ⟨c, stage, held, report⟩ := r
  obtain rfl : held = false := hheld
  cases stage with
  | asking =>
    obtain rfl : report = .start c.now := hr.2
    rw [turn_asking_iff] at h
    split at h
    · exact .inl (h ▸ ⟨rfl, rfl⟩)
    · next hfree => exact .inr ⟨Bool.eq_false_iff.2 hfree, h⟩
  | admitted | visiting | choosing | evaluating => cases hr.1
  | leaving => exact .inl (turn_leaving_iff.1 h ▸ ⟨rfl, rfl⟩)
  | ended => cases h

end TickRun

/-! ## Ticks that are called at the same time -/

/-- The call and the report of a tick that gives the guard back in this turn. -/
def TickTurn.returned? (t : TickTurn) : Option (TickCall × TickReport) :=
  if t.before.1.held && !t.after.1.held then some (t.after.1.call, t.after.1.report) else none

/-- Ticks that began in the world `w` have come this far: those that have given the guard back were
made one after the other, and one that has the guard has begun where they left off. -/
def Scheduler.Continues (s : Scheduler) (w : World) (done : List (TickCall × TickReport))
    (pool : List TickRun) (σ : TickShared) : Prop :=
  ∃ w₁, s.Successive w done w₁ ∧ (σ.guard.running = false → σ.world = w₁) ∧
    ∀ r ∈ pool, r.held = true → r.Underway s w₁ σ.world

namespace Scheduler

variable {s : Scheduler} {w : World} {done : List (TickCall × TickReport)} {pool : List TickRun}
  {σ : TickShared} {r : TickRun} {i : Nat} {b : TickRun × TickShared} {ts : List TickTurn}

theorem continues_fresh (s : Scheduler) (w : World) (calls : List TickCall) (g : TickGuard)
    (q : List StoreRequest) : s.Continues w [] (calls.map .fresh) ⟨g, w, q⟩ :=
  ⟨w, .nil, fun _ => rfl, List.forall_mem_map.2 fun _ _ => nofun⟩

/-- The tick that has the guard goes on, or it gives the guard back and is the last one made. -/
theorem Continues.turn_of_held (h : s.Continues w done pool σ) (hguards : σ.guard.Guards pool)
    (hr : pool[i]? = some r) (hturn : TickRun.Turn s (r, σ) b) (hheld : r.held = true) :
    s.Continues w (done ++ (TickTurn.returned? ⟨i, (r, σ), b⟩).toList) (pool.set i b.1) b.2 := by
  obtain ⟨w₁, hdone, -, hunderway⟩ := h
  have hmem : r ∈ pool := List.mem_of_getElem? hr
  have hafter : b.2.guard.Guards (pool.set i b.1) := hguards.turn hr hturn
  have hcourse : b.1.Underway s w₁ b.2.world := hturn.underway (hunderway r hmem hheld)
  rcases hturn.guard_cases (hguards.fits r hmem) with ⟨hb, -⟩ | ⟨⟨hno, -⟩, -⟩ |
    ⟨-, hb, hended, hguard⟩
  · have hb : b.1.held = true := hb.trans hheld
    have hbmem : b.1 ∈ pool.set i b.1 := List.mem_set (List.getElem?_eq_some_iff.1 hr).1 b.1
    refine ⟨w₁, ?_, fun hno => ?_, fun r' hr' hheld' => ?_⟩
    · simpa [TickTurn.returned?, hb] using hdone
    · cases hno.symm.trans (hafter.running hbmem hb)
    · exact hafter.eq_of_held hbmem hr' hb hheld' ▸ hcourse
  · cases hheld.symm.trans hno
  · obtain ⟨jobs, cs, hcourse⟩ : ∃ jobs cs,
        s.Course b.1.call.now b.1.call.source w₁ jobs cs b.2.world b.1.report := by
      rwa [TickRun.Underway, hended] at hcourse
    refine ⟨b.2.world, ?_, fun _ => rfl, fun r' hr' hheld' => ?_⟩
    · simpa [TickTurn.returned?, hheld, hb] using hdone.append hcourse
    · have hrunning := hafter.running hr' hheld'
      rw [hguard] at hrunning
      cases hrunning

/-- A tick that does not have the guard leaves all as it was, or it is granted the guard and begins
where the others have left off. -/
theorem Continues.turn_of_not_held (h : s.Continues w done pool σ)
    (hguards : σ.guard.Guards pool) (hr : pool[i]? = some r) (hturn : TickRun.Turn s (r, σ) b)
    (hheld : r.held = false) :
    s.Continues w (done ++ (TickTurn.returned? ⟨i, (r, σ), b⟩).toList) (pool.set i b.1) b.2 := by
  obtain ⟨w₁, hdone, hfree, hunderway⟩ := h
  have hnone : done ++ (TickTurn.returned? ⟨i, (r, σ), b⟩).toList = done := by
    simp [TickTurn.returned?, hheld]
  rw [hnone]
  rcases hturn.of_not_held (hguards.fits r (List.mem_of_getElem? hr)) hheld with
    ⟨hb, hσ⟩ | ⟨hσ, rfl⟩
  · refine ⟨w₁, hdone, hσ ▸ hfree, fun r' hr' hheld' => ?_⟩
    rcases List.mem_or_eq_of_mem_set hr' with hold | rfl
    · exact hσ ▸ hunderway r' hold hheld'
    · cases hb.symm.trans hheld'
  · refine ⟨w₁, hdone, fun _ => hfree hσ, fun r' hr' hheld' => ?_⟩
    rcases List.mem_or_eq_of_mem_set hr' with hold | rfl
    · cases hσ.symm.trans (hguards.running hold hheld')
    · exact ⟨rfl, hfree hσ⟩

theorem Interleaves.continues {a c : List TickRun × TickShared} (h : s.Interleaves a ts c)
    (hguards : a.2.guard.Guards a.1) (ha : s.Continues w [] a.1 a.2) :
    s.Continues w (ts.filterMap TickTurn.returned?) c.1 c.2 := by
  induction h with
  | refl => exact ha
  | @turn ts pool σ i r b hbefore hr hturn ih =>
    have hbetween : σ.guard.Guards pool := hbefore.guards hguards
    have hlast (t : TickTurn) : [t].filterMap TickTurn.returned? = t.returned?.toList := by
      cases hreturned : t.returned? <;> simp [hreturned]
    rw [List.filterMap_append, hlast]
    cases hheld : r.held with
    | true => exact ih.turn_of_held hbetween hr hturn hheld
    | false => exact ih.turn_of_not_held hbetween hr hturn hheld

/-- Whenever no tick has the guard, the ticks that had it were made one after the other: in the
order in which they gave it back, with the reports that they have returned, and with the world as it
is. -/
theorem Interleaves.successive {calls : List TickCall}
    (h : s.Interleaves (calls.map .fresh, ⟨.free, w, []⟩) ts (pool, σ))
    (hfree : σ.guard.running = false) :
    s.Successive w (ts.filterMap TickTurn.returned?) σ.world := by
  obtain ⟨w₁, hdone, hworld, -⟩ :=
    h.continues (TickGuard.guards_fresh calls) (s.continues_fresh w calls .free [])
  exact hworld hfree ▸ hdone

/-- Ticks that are called at the same time are a history of ticks. -/
theorem Interleaves.histories {calls : List TickCall}
    (h : s.Interleaves (calls.map .fresh, ⟨.free, w, []⟩) ts (pool, σ))
    (hfree : σ.guard.running = false) :
    ∃ rs, s.Histories ((ts.filterMap TickTurn.returned?).map Prod.fst) w rs :=
  (h.successive hfree).histories

end Scheduler
end KitchenFlow
