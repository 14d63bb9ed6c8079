import KitchenFlow.Proofs.Schedule.Spacing
import KitchenFlow.Schedule.Guard

/-!
# Ticks that are called at the same time

Nothing keeps callers from asking a scheduler for a tick while another one is going on. So several
ticks may be under way, each at its own point, and each turn of one can come between any two of
another: asking for the guard, pruning the ledger, a request to the store, a step of one of its
evaluations, returning. They share the guard, the world and the store. `Scheduler.Interleaves` says
what can come of this.

A tick that returns gives back the guard if it has it. Whether it has it is a matter of how it went
and is remembered by the tick; nothing here says that only one of them can.

    TickRun.exists_turn   a tick that has not ended can go on
    Course.turns          a tick that has the guard can take each of its courses
    turns_tickUnless      a tick that is left alone comes to what `tickUnless` says
-/

namespace KitchenFlow

/-! ## Ticks under way -/

/-- What is asked of the store. -/
inductive StoreRequest where
  | flows (org : String)
  | items (org : String)
deriving DecidableEq, Repr

/-- How far a tick under way has come. -/
inductive TickStage where
  /-- It is about to ask for the guard. -/
  | asking
  /-- It has been granted the guard and is about to prune the ledger. -/
  | admitted
  /-- These organizations are left. -/
  | visiting (orgs : List String)
  /-- It has the flows of an organization and is about to ask for its items. -/
  | choosing (org : String) (flows : List Flow) (orgs : List String)
  /-- It has these evaluations made for an organization. -/
  | evaluating (jobs : List Job) (orgs : List String)
  /-- It is about to return its report. -/
  | leaving
  | ended

/-- The tick is at work: it has come past the guard and is not done yet. -/
def TickStage.working : TickStage → Bool
  | .admitted | .visiting _ | .choosing .. | .evaluating .. => true
  | .asking | .leaving | .ended => false

/-- A tick under way. -/
structure TickRun where
  call : TickCall
  stage : TickStage
  /-- It has the guard, to be given back when it returns. -/
  held : Bool
  report : TickReport

/-- A tick that was called and has not done anything yet. -/
def TickRun.fresh (c : TickCall) : TickRun := ⟨c, .asking, false, .start c.now⟩

/-- What ticks share. -/
structure TickShared where
  guard : TickGuard
  world : World
  /-- The requests made to the store, in order. -/
  requests : List StoreRequest

/-! ## Turns -/

/-- What a tick does in a turn, all of it at once. -/
inductive TickRun.Turn (s : Scheduler) : TickRun × TickShared → TickRun × TickShared → Prop where
  | refuse {c h r g g' w q} : g.tryAcquire = (false, g') →
      Turn s (⟨c, .asking, h, r⟩, ⟨g, w, q⟩)
        (⟨c, .leaving, h, { r with overlapped := true }⟩, ⟨g', w, q⟩)
  | grant {c h r g g' w q} : g.tryAcquire = (true, g') →
      Turn s (⟨c, .asking, h, r⟩, ⟨g, w, q⟩) (⟨c, .admitted, true, r⟩, ⟨g', w, q⟩)
  | prune {c h r g w q pruned ledger} : w.ledger.prune c.now s.window = (pruned, ledger) →
      Turn s (⟨c, .admitted, h, r⟩, ⟨g, w, q⟩)
        (⟨c, .visiting s.organizations, h, { r with ledgerPruned := pruned }⟩,
          ⟨g, { w with ledger }, q⟩)
  | noFlows {c h r g w q org orgs err} : c.source.flows org = .error err →
      Turn s (⟨c, .visiting (org :: orgs), h, r⟩, ⟨g, w, q⟩)
        (⟨c, .visiting orgs, h, r.fail (Scheduler.loadError org err)⟩, ⟨g, w, q ++ [.flows org]⟩)
  | flows {c h r g w q org orgs flows} : c.source.flows org = .ok flows →
      Turn s (⟨c, .visiting (org :: orgs), h, r⟩, ⟨g, w, q⟩)
        (⟨c, .choosing org flows orgs, h, r⟩, ⟨g, w, q ++ [.flows org]⟩)
  | noItems {c h r g w q org orgs flows err} : c.source.items org = .error err →
      Turn s (⟨c, .choosing org flows orgs, h, r⟩, ⟨g, w, q⟩)
        (⟨c, .visiting orgs, h, r.fail (Scheduler.loadError org err)⟩, ⟨g, w, q ++ [.items org]⟩)
  | items {c h r g w q org orgs flows items evs planned} : c.source.items org = .ok items →
      s.plan org c.now items flows r = (evs, planned) →
      Turn s (⟨c, .choosing org flows orgs, h, r⟩, ⟨g, w, q⟩)
        (⟨c, .evaluating (evs.map Scheduler.job) orgs, h,
          { planned with pairsEvaluated := planned.pairsEvaluated + evs.length }⟩,
          ⟨g, w, q ++ [.items org]⟩)
  | evaluate {c h r g w q orgs jobs jobs' w'} : s.Step c.now (jobs, w) (jobs', w') →
      Turn s (⟨c, .evaluating jobs orgs, h, r⟩, ⟨g, w, q⟩)
        (⟨c, .evaluating jobs' orgs, h, r⟩, ⟨g, w', q⟩)
  /-- The evaluations of an organization are over, and they are reported in the order in which they
  ended. How long they took is left open. -/
  | collect {c h r g w q orgs jobs clock} {ended : List Job} :
      (∀ j ∈ jobs, j.runner.stage = .ended) → ended.Perm jobs →
      Turn s (⟨c, .evaluating jobs orgs, h, r⟩, ⟨g, w, q⟩)
        (⟨c, .visiting orgs, h, ended.foldl Job.note r⟩, ⟨g, { w with clock }, q⟩)
  | done {c h r σ} :
      Turn s (⟨c, .visiting [], h, r⟩, σ) (⟨c, .leaving, h, r⟩, σ)
  | leave {c h r g w q} :
      Turn s (⟨c, .leaving, h, r⟩, ⟨g, w, q⟩)
        (⟨c, .ended, false, r⟩, ⟨if h then g.release else g, w, q⟩)

/-- A turn of one of several ticks. -/
structure TickTurn where
  /-- Whose turn it is. -/
  tick : Nat
  before : TickRun × TickShared
  after : TickRun × TickShared

/-- Ticks under way get from one point to another by these turns, in order. -/
inductive Scheduler.Interleaves (s : Scheduler) (a : List TickRun × TickShared) :
    List TickTurn → List TickRun × TickShared → Prop where
  | refl : Interleaves s a [] a
  | turn {ts pool σ i r} (b : TickRun × TickShared) : Interleaves s a ts (pool, σ) →
      pool[i]? = some r → TickRun.Turn s (r, σ) b →
      Interleaves s a (ts ++ [⟨i, (r, σ), b⟩]) (pool.set i b.1, b.2)

namespace TickRun

variable {s : Scheduler} {c : TickCall} {h : Bool} {r : TickReport} {σ : TickShared}
  {b : TickRun × TickShared}

/-- How it goes on for a tick that asks for the guard is a matter of the guard alone. -/
theorem turn_asking_iff : Turn s (⟨c, .asking, h, r⟩, σ) b ↔
    b = if σ.guard.running then (⟨c, .leaving, h, { r with overlapped := true }⟩, σ)
      else (⟨c, .admitted, true, r⟩, { σ with guard := ⟨true⟩ }) := by
  constructor
  · intro hturn
    cases hturn with
    | refuse hguard =>
      obtain ⟨hrunning, rfl⟩ := TickGuard.tryAcquire_eq_false_iff.1 hguard
      rw [if_pos hrunning]
    | grant hguard =>
      obtain ⟨hrunning, rfl⟩ := TickGuard.tryAcquire_eq_true_iff.1 hguard
      rw [if_neg (by simp [hrunning])]
  · rintro rfl
    split
    · next hrunning => exact .refuse (TickGuard.tryAcquire_eq_false_iff.2 ⟨hrunning, rfl⟩)
    · next hfree =>
      exact .grant (TickGuard.tryAcquire_eq_true_iff.2 ⟨Bool.eq_false_iff.2 hfree, rfl⟩)

/-- A tick that is about to return does so in its next turn. -/
theorem turn_leaving_iff : Turn s (⟨c, .leaving, h, r⟩, σ) b ↔
    b = (⟨c, .ended, false, r⟩, { σ with guard := if h then σ.guard.release else σ.guard }) := by
  constructor
  · rintro ⟨⟩
    rfl
  · rintro rfl
    exact .leave

/-- A tick that has not ended can go on. -/
theorem exists_turn (s : Scheduler) {r : TickRun} (σ : TickShared) (hr : r.stage ≠ .ended) :
    ∃ b, Turn s (r, σ) b := by
  obtain ⟨c, stage, h, r⟩ := r
  cases stage with
  | asking => exact ⟨_, turn_asking_iff.2 rfl⟩
  | admitted => exact ⟨_, .prune rfl⟩
  | visiting orgs =>
    cases orgs with
    | nil => exact ⟨_, .done⟩
    | cons org orgs =>
      cases hflows : c.source.flows org with
      | error err => exact ⟨_, .noFlows hflows⟩
      | ok flows => exact ⟨_, .flows hflows⟩
  | choosing org flows orgs =>
    cases hitems : c.source.items org with
    | error err => exact ⟨_, .noItems hitems⟩
    | ok items => exact ⟨_, .items hitems rfl⟩
  | evaluating jobs orgs =>
    by_cases hended : ∀ j ∈ jobs, j.runner.stage = .ended
    · exact ⟨(_, ⟨_, { σ.world with clock := 0 }, _⟩), .collect hended (.refl jobs)⟩
    · obtain ⟨⟨ev, runner⟩, hj, -⟩ : ∃ j ∈ jobs, j.runner.stage ≠ .ended := by simpa using hended
      obtain ⟨before, after, rfl⟩ := List.append_of_mem hj
      exact ⟨_, .evaluate (.mk _ rfl)⟩
  | leaving => exact ⟨_, .leave⟩
  | ended => exact absurd rfl hr

end TickRun

/-! ## A tick that is left alone -/

namespace Scheduler

variable {s : Scheduler} {c : TickCall} {g : TickGuard} {w w' : World} {jobs : List Job}
  {cs : List (ActionKey × Call)} {report : TickReport}

theorem load_eq_ok_iff {src : FlowSource} {org : String} {flows : List Flow}
    {items : List InventoryItem} :
    load src org = .ok (flows, items) ↔ src.flows org = .ok flows ∧ src.items org = .ok items := by
  unfold load
  cases src.flows org <;> cases src.items org <;> simp [bind, Except.bind]

theorem load_eq_error_iff {src : FlowSource} {org : String} {err : StoreError} :
    load src org = .error err ↔
      src.flows org = .error err ∨ ∃ flows, src.flows org = .ok flows ∧
        src.items org = .error err := by
  unfold load
  cases src.flows org <;> cases src.items org <;> simp [bind, Except.bind]

theorem turns_of_reaches_jobs {a b : List Job × World} (orgs : List String) (h : Bool)
    (r : TickReport) (g : TickGuard) (q : List StoreRequest)
    (hreach : Relation.ReflTransGen (s.Step c.now) a b) :
    Relation.ReflTransGen (TickRun.Turn s) (⟨c, .evaluating a.1 orgs, h, r⟩, ⟨g, a.2, q⟩)
      (⟨c, .evaluating b.1 orgs, h, r⟩, ⟨g, b.2, q⟩) :=
  hreach.lift (fun a => ((⟨c, .evaluating a.1 orgs, h, r⟩, ⟨g, a.2, q⟩) : TickRun × TickShared))
    fun _ _ hstep => .evaluate hstep

/-- An organization that cannot be loaded is found out by one of two requests. -/
theorem turns_missing {org : String} {err : StoreError} (hload : load c.source org = .error err)
    (orgs : List String) (h : Bool) (r : TickReport) (w : World) (q : List StoreRequest) :
    ∃ q', Relation.ReflTransGen (TickRun.Turn s) (⟨c, .visiting (org :: orgs), h, r⟩, ⟨g, w, q⟩)
      (⟨c, .visiting orgs, h, r.fail (loadError org err)⟩, ⟨g, w, q'⟩) := by
  rcases load_eq_error_iff.1 hload with hflows | ⟨flows, hflows, hitems⟩
  · exact ⟨_, .single (.noFlows hflows)⟩
  · exact ⟨_, Relation.ReflTransGen.single (.flows hflows) |>.tail (.noItems hitems)⟩

theorem Courses.turns {orgs : List String} {a b : World × TickReport}
    (hcourses : s.Courses c.now c.source orgs a jobs cs b) (h : Bool) (g : TickGuard)
    (q : List StoreRequest) :
    ∃ q', Relation.ReflTransGen (TickRun.Turn s) (⟨c, .visiting orgs, h, a.2⟩, ⟨g, a.1, q⟩)
      (⟨c, .visiting [], h, b.2⟩, ⟨g, b.1, q'⟩) := by
  induction hcourses generalizing q with
  | nil => exact ⟨q, .refl⟩
  | missing hload _ ih =>
    obtain ⟨q₁, hfirst⟩ := turns_missing hload _ h _ _ q
    obtain ⟨q₂, hrest⟩ := ih q₁
    exact ⟨q₂, hfirst.trans hrest⟩
  | @evaluated org orgs flows items w r evs planned jobs cs w₁ clock _ _ _ ended hload hplan
      hadvances hended hperm _ ih =>
    obtain ⟨hflows, hitems⟩ := load_eq_ok_iff.1 hload
    obtain ⟨q', hrest⟩ := ih (q ++ [.flows org] ++ [.items org])
    refine ⟨q', Relation.ReflTransGen.trans ?_ hrest⟩
    exact Relation.ReflTransGen.single (.flows hflows)
      |>.tail (.items hitems hplan)
      |>.trans (turns_of_reaches_jobs orgs h _ g _ hadvances.reaches)
      |>.tail (.collect hended hperm)

/-- A tick that has the guard can take each of its courses. -/
theorem Course.turns (hcourse : s.Course c.now c.source w jobs cs w' report) (h : Bool)
    (g : TickGuard) (q : List StoreRequest) :
    ∃ q', Relation.ReflTransGen (TickRun.Turn s) (⟨c, .admitted, h, .start c.now⟩, ⟨g, w, q⟩)
      (⟨c, .leaving, h, report⟩, ⟨g, w', q'⟩) := by
  obtain ⟨q', hturns⟩ := Courses.turns hcourse h g q
  exact ⟨q', Relation.ReflTransGen.single (.prune rfl) |>.trans hturns |>.tail .done⟩

/-- A tick that is left alone can come to the report and the world that `tickUnless` gives, and it
leaves the guard as it was. -/
theorem turns_tickUnless (s : Scheduler) (c : TickCall) (g : TickGuard) (w : World)
    (q : List StoreRequest) :
    ∃ q', Relation.ReflTransGen (TickRun.Turn s) (.fresh c, ⟨g, w, q⟩)
      (⟨c, .ended, false, (s.tickUnless g.running c.source c.now w).report⟩,
        ⟨g, (s.tickUnless g.running c.source c.now w).world, q'⟩) := by
  obtain ⟨running⟩ := g
  cases running with
  | true => exact ⟨q, Relation.ReflTransGen.single (.refuse rfl) |>.tail .leave⟩
  | false =>
    obtain ⟨jobs, cs, hcourse, -⟩ := s.course_tick c.now c.source w
    obtain ⟨q', hturns⟩ := hcourse.turns true ⟨true⟩ q
    exact ⟨q', Relation.ReflTransGen.single (.grant rfl) |>.trans hturns |>.tail .leave⟩

/-- What a tick can do by itself it can do while the others wait. -/
theorem Interleaves.alone {a : List TickRun × TickShared} {ts : List TickTurn}
    {pool : List TickRun} {σ : TickShared} {i : Nat} {r : TickRun} {b : TickRun × TickShared}
    (h : s.Interleaves a ts (pool, σ)) (hr : pool[i]? = some r)
    (hturns : Relation.ReflTransGen (TickRun.Turn s) (r, σ) b) :
    ∃ ts', s.Interleaves a (ts ++ ts') (pool.set i b.1, b.2) := by
  obtain ⟨hi, rfl⟩ := List.getElem?_eq_some_iff.1 hr
  induction hturns with
  | refl => exact ⟨[], by simpa using h⟩
  | @tail b d _ hturn ih =>
    obtain ⟨ts', hreach⟩ := ih
    refine ⟨ts' ++ [⟨i, b, d⟩], ?_⟩
    have hlast := hreach.turn d (List.getElem?_set_self hi) hturn
    rwa [List.set_set, List.append_assoc] at hlast

end Scheduler
end KitchenFlow
