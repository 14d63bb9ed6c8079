import KitchenFlow.Proofs.Schedule.Courses
import KitchenFlow.Proofs.Schedule.Spacing
import Mathlib.Algebra.GroupWithZero.Nat

/-!
# Faults stay where they are

A flow that is not valid and an organization that cannot be loaded are reported, and that is all
that comes of them. Without them, a tick can go the same ways: it makes the same evaluations with
the same calls, leaves the same world behind and reports the same, apart from their errors.

    TickReport.Exceeds     a report with more errors of one kind, and more flows
    Scheduler.Matched      an organization for which two sources give the same to evaluate
    Courses.transfer       a course on the one source is one on the other source
    faults_isolated        ticks with and without a fault
    reports_one_fault      where a flow that is not valid adds nothing to the report

A flow is reported once for each time that its organization is served, so not at all if the
inventory of the organization cannot be loaded.
-/

namespace KitchenFlow

/-! ## Reports with more errors -/

namespace TickReport

/-- A relation of reports that is kept up by everything that two ticks report alike. -/
structure Congruence (R : TickReport → TickReport → Prop) : Prop where
  fail : ∀ {a b} (e : TickError), R a b → R (a.fail e) (b.fail e)
  absorb : ∀ {a b} (stats : RunStats), R a b → R (a.absorb stats) (b.absorb stats)
  pairs : ∀ {a b} (n : Nat), R a b →
    R { a with pairsEvaluated := a.pairsEvaluated + n }
      { b with pairsEvaluated := b.pairsEvaluated + n }

/-- A report like another one, with so many more errors of one kind among the others, and so many
more flows. -/
structure Exceeds (e : TickError) (errors flows : Nat) (more less : TickReport) : Prop where
  sublist : less.errors.Sublist more.errors
  perm : more.errors.Perm (List.replicate errors e ++ less.errors)
  rest : more =
    { less with errors := more.errors, flowsEvaluated := less.flowsEvaluated + flows }

variable {R : TickReport → TickReport → Prop} {a b : TickReport} {e : TickError} {n m : Nat}

theorem Congruence.flip (hR : Congruence R) : Congruence (flip R) :=
  ⟨hR.fail, hR.absorb, hR.pairs⟩

theorem Congruence.note (hR : Congruence R) (h : R a b) (j : Job) : R (j.note a) (j.note b) := by
  unfold Job.note
  cases j.result with
  | ok result => exact hR.absorb _ h
  | error message => exact hR.fail _ h

theorem Congruence.foldl_note (hR : Congruence R) (jobs : List Job) (h : R a b) :
    R (jobs.foldl Job.note a) (jobs.foldl Job.note b) := by
  induction jobs generalizing a b with
  | nil => exact h
  | cons j jobs ih => exact ih (hR.note h j)

namespace Exceeds

theorem refl (e : TickError) (r : TickReport) : Exceeds e 0 0 r r := ⟨.refl _, .refl _, rfl⟩

theorem fail (h : Exceeds e n m a b) (x : TickError) : Exceeds e n m (a.fail x) (b.fail x) := by
  refine ⟨h.sublist.append_right [x], ?_, ?_⟩
  · have hperm := h.perm.append_right [x]
    rwa [List.append_assoc] at hperm
  · rw [h.rest]
    rfl

/-- One more error of the kind. -/
theorem fail_left (h : Exceeds e n m a b) : Exceeds e (n + 1) m (a.fail e) b := by
  refine ⟨h.sublist.trans (List.sublist_append_left _ _), ?_, ?_⟩
  · exact (List.perm_append_singleton e a.errors).trans (h.perm.cons e)
  · rw [h.rest]
    rfl

theorem count (h : Exceeds e n m a b) :
    Exceeds e n m { a with flowsEvaluated := a.flowsEvaluated + 1 }
      { b with flowsEvaluated := b.flowsEvaluated + 1 } := by
  refine ⟨h.sublist, h.perm, ?_⟩
  rw [h.rest]
  simp only [Nat.add_right_comm]

/-- One more flow. -/
theorem count_left (h : Exceeds e n m a b) :
    Exceeds e n (m + 1) { a with flowsEvaluated := a.flowsEvaluated + 1 } b := by
  refine ⟨h.sublist, h.perm, ?_⟩
  rw [h.rest]
  rfl

theorem congruence (e : TickError) (n m : Nat) : Congruence (Exceeds e n m) where
  fail x h := h.fail x
  absorb stats h := ⟨h.sublist, h.perm, by rw [h.rest]; rfl⟩
  pairs k h := ⟨h.sublist, h.perm, by rw [h.rest]⟩

end Exceeds
end TickReport

/-! ## Two sources -/

/-- A source in which an organization has other flows. -/
def FlowSource.withFlows (src : FlowSource) (org : String) (flows : List Flow) : FlowSource :=
  { src with flows := fun o => if o = org then .ok flows else src.flows o }

namespace Scheduler

variable {s : Scheduler} {now : Instant} {src src' : FlowSource} {w w' : World} {jobs : List Job}
  {cs : List (ActionKey × Call)} {org : String} {orgs : List String} {a b r : TickReport}
  {e : TickError} {n m : Nat}

/-- From two sources, an organization gets the same evaluations, if any, and reports that are
related were related before; `R n` is the relation after `n` faults, of which this organization has
`faults`. -/
inductive Matched (s : Scheduler) (now : Instant) (src src' : FlowSource)
    (R : Nat → TickReport → TickReport → Prop) (org : String) (faults : Nat) : Prop where
  | missing {err : StoreError} : load src org = .error err → load src' org = .error err →
      faults = 0 → Matched s now src src' R org faults
  | planned {flows flows' : List Flow} {items : List InventoryItem} :
      load src org = .ok (flows, items) → load src' org = .ok (flows', items) →
      (∀ n a b, R n a b → (s.plan org now items flows a).1 = (s.plan org now items flows' b).1 ∧
        R (n + faults) (s.plan org now items flows a).2 (s.plan org now items flows' b).2) →
      Matched s now src src' R org faults

variable {R : Nat → TickReport → TickReport → Prop} {faults : String → Nat}

theorem Matched.flip {k : Nat} (h : s.Matched now src src' R org k) :
    s.Matched now src' src (fun n => flip (R n)) org k := by
  cases h with
  | missing hload hload' hk => exact .missing hload' hload hk
  | planned hload hload' hplan =>
    refine .planned hload' hload fun n a b hR => ?_
    obtain ⟨hevs, hreports⟩ := hplan n b a hR
    exact ⟨hevs.symm, hreports⟩

/-- Where organizations get the same from two sources, a course on the one source is a course on the
other one. -/
theorem Courses.transfer (hR : ∀ n, TickReport.Congruence (R n))
    {x y : World × TickReport} (h : s.Courses now src orgs x jobs cs y)
    (hmatched : ∀ org, s.Matched now src src' R org (faults org)) (hr : R n x.2 r) :
    ∃ report, s.Courses now src' orgs (x.1, r) jobs cs (y.1, report) ∧
      R (n + (orgs.map faults).sum) y.2 report := by
  induction h generalizing n r with
  | nil => exact ⟨r, .nil, hr⟩
  | @missing org orgs err w₀ r₀ _ _ _ hload _ ih =>
    cases hmatched org with
    | planned hok => cases hload.symm.trans hok
    | missing herr hload' hfaults =>
      obtain rfl := Except.error.inj (hload.symm.trans herr)
      obtain ⟨report, hcourse, hreport⟩ := ih ((hR n).fail (loadError org err) hr)
      refine ⟨report, .missing hload' hcourse, ?_⟩
      rwa [List.map_cons, List.sum_cons, hfaults, Nat.zero_add]
  | @evaluated org orgs flows items _ r₀ evs planned _ _ _ clock _ _ _ ended hload hplan hadvances
      hended hperm _ ih =>
    cases hmatched org with
    | missing herr => cases hload.symm.trans herr
    | @planned _ flows' _ hok hload' hsame =>
      obtain ⟨rfl, rfl⟩ := Prod.mk.inj (Except.ok.inj (hload.symm.trans hok))
      obtain ⟨hevs, hreports⟩ := hsame n r₀ r hr
      rcases hplan' : s.plan org now items flows' r with ⟨evs', planned'⟩
      rw [hplan, hplan'] at hevs hreports
      obtain rfl : evs = evs' := hevs
      obtain ⟨report, hcourse, hreport⟩ :=
        ih ((hR _).foldl_note ended ((hR _).pairs evs.length hreports))
      refine ⟨report, .evaluated hload' hplan' hadvances hended hperm hcourse, ?_⟩
      rwa [List.map_cons, List.sum_cons, ← Nat.add_assoc]

/-- How far two ticks have come that differ in their reports only. -/
structure SameProgress (R : TickReport → TickReport → Prop) (t u : TickProgress) : Prop where
  report : R t.report u.report
  results : t.results = u.results
  world : t.world = u.world

theorem SameProgress.tickOrganization {t u : TickProgress} {k : Nat}
    (hR : ∀ n, TickReport.Congruence (R n)) (h : SameProgress (R n) t u)
    (hmatched : s.Matched now src src' R org k) :
    SameProgress (R (n + k)) (s.tickOrganization src now t org)
      (s.tickOrganization src' now u org) := by
  obtain ⟨hreport, hresults, hworld⟩ := h
  unfold Scheduler.tickOrganization
  cases hmatched with
  | missing hload hload' hk =>
    rw [hload, hload', hk]
    exact ⟨(hR n).fail _ hreport, hresults, hworld⟩
  | @planned flows flows' items hload hload' hsame =>
    obtain ⟨hevs, hreports⟩ := hsame n _ _ hreport
    rw [hload, hload']
    dsimp only [evaluateTogether]
    rw [hevs, hworld, hresults]
    refine ⟨?_, rfl, rfl⟩
    obtain ⟨jobs, -, hyields⟩ := evaluates_evaluateAll s now
      (s.plan org now items flows' u.report).1 u.world
    dsimp only
    rw [Job.foldl_note_of_yields hyields, Job.foldl_note_of_yields hyields]
    exact (hR _).foldl_note jobs ((hR _).pairs _ hreports)

theorem SameProgress.foldl {t u : TickProgress} (hR : ∀ n, TickReport.Congruence (R n))
    (h : SameProgress (R n) t u) (hmatched : ∀ org, s.Matched now src src' R org (faults org))
    (orgs : List String) :
    SameProgress (R (n + (orgs.map faults).sum)) (orgs.foldl (s.tickOrganization src now) t)
      (orgs.foldl (s.tickOrganization src' now) u) := by
  induction orgs generalizing n t u with
  | nil => exact h
  | cons org orgs ih =>
    rw [List.map_cons, List.sum_cons, ← Nat.add_assoc]
    exact ih (h.tickOrganization hR (hmatched org))

/-! ## Organizations apart from the others -/

theorem evaluateAll_congr (s : Scheduler) (listed : List String) (evs : List Evaluation)
    (w : World) :
    { s with organizations := listed }.evaluateAll now evs w = s.evaluateAll now evs w := by
  induction evs generalizing w with
  | nil => rfl
  | cons ev evs ih =>
    dsimp only [evaluateAll]
    rw [ih]
    rfl

theorem tickOrganization_congr (s : Scheduler) (src : FlowSource) (now : Instant)
    (listed : List String) :
    { s with organizations := listed }.tickOrganization src now = s.tickOrganization src now := by
  funext t org
  unfold tickOrganization evaluateTogether
  cases load src org with
  | error err => rfl
  | ok loaded => simp only [plan_congr, evaluateAll_congr]

/-! ## Flows that are not valid -/

theorem exceeds_plan {items : List InventoryItem} (flows : List Flow)
    (h : TickReport.Exceeds e n m a b) :
    TickReport.Exceeds e n m (s.plan org now items flows a).2
      (s.plan org now items flows b).2 := by
  induction flows generalizing a b with
  | nil => exact h
  | cons f flows ih =>
    unfold plan
    dsimp only
    cases f.validate s.engine.registry with
    | error err => exact ih (h.count.fail _)
    | ok g => exact ih h.count

/-- A flow that is not valid adds an error and is counted. -/
theorem exceeds_plan_invalid {items : List InventoryItem} {before after : List Flow} {f : Flow}
    {err : FlowError} (hf : f.validate s.engine.registry = .error err)
    (h : TickReport.Exceeds ⟨f.id, "*", err.message⟩ n m a b) :
    TickReport.Exceeds ⟨f.id, "*", err.message⟩ (n + 1) (m + 1)
      (s.plan org now items (before ++ f :: after) a).2
      (s.plan org now items (before ++ after) b).2 := by
  induction before generalizing a b with
  | nil =>
    rw [List.nil_append, List.nil_append, plan, hf]
    exact exceeds_plan after h.count_left.fail_left
  | cons other before ih =>
    rw [List.cons_append, List.cons_append]
    unfold plan
    dsimp only
    cases other.validate s.engine.registry with
    | error err => exact ih (h.count.fail _)
    | ok g => exact ih h.count

theorem matched_self (s : Scheduler) (now : Instant) (src : FlowSource) (e : TickError)
    (errors flows : Nat → Nat) (org : String) :
    s.Matched now src src (fun n => TickReport.Exceeds e (errors n) (flows n)) org 0 := by
  cases hload : load src org with
  | error err => exact .missing hload hload rfl
  | ok loaded =>
    refine .planned hload hload fun n a b h => ⟨?_, exceeds_plan _ h⟩
    rw [plan_eq, plan_eq]

theorem load_of_flows {flows : List Flow} (h : src.flows org = .ok flows) :
    load src org = (src.items org).map fun items => (flows, items) := by
  rw [load, h]
  cases src.items org <;> rfl

theorem load_withFlows_of_ne (src : FlowSource) (flows : List Flow) {o : String} (ho : o ≠ org) :
    load (src.withFlows org flows) o = load src o := by
  simp only [load, FlowSource.withFlows, if_neg ho]

theorem load_withFlows_self (src : FlowSource) (org : String) (flows : List Flow) :
    load (src.withFlows org flows) org = (src.items org).map fun items => (flows, items) :=
  load_of_flows (if_pos rfl)

theorem sum_map_faults {p : Prop} [Decidable p] (orgs : List String) :
    (orgs.map fun o => if o = org ∧ p then 1 else 0).sum = if p then orgs.count org else 0 := by
  induction orgs with
  | nil => simp
  | cons o orgs ih =>
    rw [List.map_cons, List.sum_cons, ih, List.count_cons]
    split <;> split <;> simp_all [Nat.add_comm]

/-- An organization without its flow that is not valid: if its inventory can be loaded, there is one
fault less to report. -/
theorem matched_withFlows (s : Scheduler) (now : Instant) {before after : List Flow} {f : Flow}
    {err : FlowError} (hflows : src.flows org = .ok (before ++ f :: after))
    (hf : f.validate s.engine.registry = .error err) (o : String) :
    s.Matched now src (src.withFlows org (before ++ after))
      (fun n => TickReport.Exceeds ⟨f.id, "*", err.message⟩ n n) o
      (if o = org ∧ (src.items org).isOk then 1 else 0) := by
  by_cases ho : o = org
  · subst ho
    have hload := load_of_flows hflows
    have hless := load_withFlows_self src o (before ++ after)
    cases hitems : src.items o with
    | error e =>
      rw [hitems] at hload hless
      exact .missing hload hless (if_neg fun h => Bool.false_ne_true h.2)
    | ok items =>
      rw [hitems] at hload hless
      rw [if_pos ⟨rfl, rfl⟩]
      refine .planned hload hless fun n a b h => ⟨?_, exceeds_plan_invalid hf h⟩
      rw [plan_eq, plan_eq, List.flatMap_append, List.flatMap_append, List.flatMap_cons,
        evaluationsIn, hf, List.nil_append]
  · have hload := load_withFlows_of_ne src (before ++ after) ho
    rw [if_neg fun h => ho h.1]
    have hself := s.matched_self now src ⟨f.id, "*", err.message⟩ id id o
    cases hself with
    | missing h _ hk => exact .missing h (hload.trans h) hk
    | planned h h' hsame => exact .planned h (hload.trans h') hsame

/-! ## Ticks with and without a fault -/

/-- A scheduler with a source makes the same ticks as another scheduler with another source, apart
from the report. -/
structure SameTicks (R : TickReport → TickReport → Prop) (s s' : Scheduler) (src src' : FlowSource)
    (now : Instant) (w : World) : Prop where
  tick : SameProgress R (s.tick src now w) (s'.tick src' now w)
  course : ∀ {jobs cs w' report}, s.Course now src w jobs cs w' report →
    ∃ report', s'.Course now src' w jobs cs w' report' ∧ R report report'
  course' : ∀ {jobs cs w' report'}, s'.Course now src' w jobs cs w' report' →
    ∃ report, s.Course now src w jobs cs w' report ∧ R report report'

theorem sameTicks_withFlows {before after : List Flow} {f : Flow} {err : FlowError}
    (hflows : src.flows org = .ok (before ++ f :: after))
    (hf : f.validate s.engine.registry = .error err) (now : Instant) (w : World) :
    let times := if (src.items org).isOk then s.organizations.count org else 0
    SameTicks (TickReport.Exceeds ⟨f.id, "*", err.message⟩ times times) s s src
      (src.withFlows org (before ++ after)) now w := by
  intro times
  have hmatched := matched_withFlows s now hflows hf
  have hR (n : Nat) := TickReport.Exceeds.congruence ⟨f.id, "*", err.message⟩ n n
  have htimes : 0 + (s.organizations.map fun o =>
      if o = org ∧ (src.items org).isOk then 1 else 0).sum = times := by
    rw [Nat.zero_add]
    exact sum_map_faults s.organizations
  refine ⟨?_, fun h => ?_, fun h => ?_⟩
  · rw [← htimes]
    exact SameProgress.foldl hR ⟨.refl _ _, rfl, rfl⟩ hmatched s.organizations
  · obtain ⟨report', hcourse, hreport⟩ := Courses.transfer hR h hmatched (.refl _ _)
    exact ⟨report', hcourse, htimes ▸ hreport⟩
  · obtain ⟨report, hcourse, hreport⟩ := Courses.transfer (fun n => (hR n).flip) h
      (fun o => (hmatched o).flip) (.refl _ _)
    exact ⟨report, hcourse, htimes ▸ hreport⟩

theorem sameTicks_without {before after : List String} {err : StoreError}
    (horgs : s.organizations = before ++ org :: after) (hload : load src org = .error err)
    (now : Instant) (w : World) :
    SameTicks (TickReport.Exceeds (loadError org err) 1 0) s
      { s with organizations := before ++ after } src src now w := by
  have hR (n : Nat) := TickReport.Exceeds.congruence (loadError org err) 1 0
  have hmatched := s.matched_self now src (loadError org err) (fun _ => 1) (fun _ => 0)
  refine ⟨?_, fun h => ?_, fun h => ?_⟩
  · unfold tick
    rw [horgs]
    dsimp only
    rw [tickOrganization_congr s src now (before ++ after), List.foldl_append, List.foldl_cons,
      List.foldl_append]
    refine SameProgress.foldl (n := 0) hR ?_ hmatched after
    simp only [tickOrganization, hload]
    exact ⟨(TickReport.Exceeds.refl _ _).fail_left, rfl, rfl⟩
  · rw [Course, horgs] at h
    obtain ⟨jobs₁, cs₁, ⟨w₁, r₁⟩, jobs₂, cs₂, rfl, rfl, hfirst, hrest⟩ := h.of_append
    cases hrest with
    | evaluated hok => cases hload.symm.trans hok
    | missing herr hrest =>
      obtain rfl := Except.error.inj (hload.symm.trans herr)
      obtain ⟨report', hcourse, hreport⟩ :=
        hrest.transfer (n := 0) hR hmatched (TickReport.Exceeds.refl _ r₁).fail_left
      exact ⟨report', (courses_congr _).2 (hfirst.append hcourse), hreport⟩
  · obtain ⟨jobs₁, cs₁, ⟨w₁, r₁⟩, jobs₂, cs₂, rfl, rfl, hfirst, hrest⟩ :=
      ((courses_congr _).1 h).of_append
    obtain ⟨report, hcourse, hreport⟩ := hrest.transfer (n := 0) (fun n => (hR n).flip)
      (fun o => (hmatched o).flip) (TickReport.Exceeds.refl (loadError org err) r₁).fail_left
    refine ⟨report, ?_, hreport⟩
    rw [Course, horgs]
    exact hfirst.append (.missing hload hcourse)

/-- Faults stay where they are. If a flow that is not valid is taken from an organization, or an
organization that cannot be loaded from the list, then the tick without it makes the same
evaluations and leaves the same world behind, with the same calls and the same ledger, and so it is
for every course that it may take, forth and back. Of the reports, the one with the organization has
one more error, which names it; the one with the flow has one more error that names the flow, and
counts one more flow, for each time that the organization is served and its inventory loaded. -/
theorem faults_isolated (s : Scheduler) (src : FlowSource) (now : Instant) (w : World) :
    (∀ org before f after err, src.flows org = .ok (before ++ f :: after) →
      f.validate s.engine.registry = .error err →
      let times := if (src.items org).isOk then s.organizations.count org else 0
      SameTicks (TickReport.Exceeds ⟨f.id, "*", err.message⟩ times times) s s src
        (src.withFlows org (before ++ after)) now w) ∧
    ∀ before org after err, s.organizations = before ++ org :: after →
      load src org = .error err →
      SameTicks (TickReport.Exceeds ⟨"*", "*", "org " ++ org ++ ": " ++ err.message⟩ 1 0) s
        { s with organizations := before ++ after } src src now w :=
  ⟨fun _ _ _ _ _ hflows hf => sameTicks_withFlows hflows hf now w,
    fun _ _ _ _ horgs hload => sameTicks_without horgs hload now w⟩

end Scheduler

/-! ## A torn flow -/

namespace Example

/-- A flow with an edge that leads nowhere. -/
def torn : Flow := (Flow.connect (.empty "flow-torn" "Torn") "here" "there").publish .epoch

/-- A store in which the kitchen has a torn flow before another one, and nobody else has anything
that can be loaded. -/
def tornSource : FlowSource where
  flows org := if org = "kitchen" then .ok [torn, flow .epoch] else .error default
  items org := if org = "kitchen" then .ok [milk] else .error default

end Example

namespace Scheduler

/-- The kitchen is warned of its milk, with or without the torn flow, and with or without a bistro
that cannot be loaded. -/
theorem faults_isolated_torn :
    let s := { Example.minuteScheduler fun _ _ => .atOnce (.answer (.ok "")) with
      organizations := ["kitchen", "bistro"] }
    let less := Example.tornSource.withFlows "kitchen" [Example.flow .epoch]
    (∃ err, Example.tornSource.flows "kitchen" = .ok ([] ++ Example.torn :: [Example.flow .epoch]) ∧
      Example.torn.validate s.engine.registry = .error err ∧
      TickReport.Exceeds ⟨"flow-torn", "*", err.message⟩ 1 1
        (s.tick Example.tornSource ⟨0, 0⟩ .initial).report (s.tick less ⟨0, 0⟩ .initial).report) ∧
    ∃ err, s.organizations = ["kitchen"] ++ "bistro" :: [] ∧
      load Example.tornSource "bistro" = .error err ∧
      SameProgress (TickReport.Exceeds ⟨"*", "*", "org bistro: " ++ err.message⟩ 1 0)
        (s.tick Example.tornSource ⟨0, 0⟩ .initial)
        ({ s with organizations := ["kitchen"] }.tick Example.tornSource ⟨0, 0⟩ .initial) := by
  intro s less
  obtain ⟨hflow, horg⟩ := faults_isolated s Example.tornSource ⟨0, 0⟩ .initial
  have hflows : Example.tornSource.flows "kitchen" =
      .ok ([] ++ Example.torn :: [Example.flow .epoch]) := rfl
  have hload : load Example.tornSource "bistro" = .error default := rfl
  refine ⟨?_, default, rfl, hload, (horg ["kitchen"] "bistro" [] default rfl hload).tick⟩
  have hinvalid : Example.torn.validate s.engine.registry =
      .error (.graph (.danglingEdge "e-here-there" "here")) := rfl
  exact ⟨_, hflows, hinvalid, (hflow _ _ _ _ _ hflows hinvalid).tick.report⟩

/-- Where the inventory of the kitchen cannot be loaded, a tick tells nothing of the torn flow. -/
theorem reports_one_fault :
    ∃ (s : Scheduler) (src : FlowSource) (err : FlowError), s.organizations = ["kitchen"] ∧
      src.flows "kitchen" = .ok [Example.torn] ∧
      Example.torn.validate s.engine.registry = .error err ∧
      (s.tick src ⟨0, 0⟩ .initial).report.errors = [⟨"*", "*", "org kitchen: Store error: "⟩] ∧
      (s.tick src ⟨0, 0⟩ .initial).report =
        (s.tick (src.withFlows "kitchen" []) ⟨0, 0⟩ .initial).report :=
  ⟨Example.minuteScheduler fun _ _ => .atOnce (.answer (.ok "")),
    ⟨fun _ => .ok [Example.torn], fun _ => .error default⟩, _, rfl, rfl, rfl, rfl, rfl⟩

end Scheduler
end KitchenFlow
