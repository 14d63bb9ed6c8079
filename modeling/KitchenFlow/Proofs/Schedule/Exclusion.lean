import KitchenFlow.Proofs.Schedule.Interleaving

/-!
# Ticks exclude each other

Of the ticks that are called at the same time, one at most has the guard, whatever the order in
which they take turns and whatever becomes of their evaluations. One that asks for the guard in the
meantime returns at once with a report that says so, and nothing else comes of it: in particular it
does not give back a guard that it does not have. When the one that has the guard returns, the guard
is free.

What a tick has to show depends on the point it has come to (`TickRun.Fits`), and each turn keeps
that up; so the ticks that have the guard are as many as the guard says. What became of a tick can
be read off its turns (`TickRun.Traced`).
-/

namespace KitchenFlow

/-! ## Reports -/

/-- The report of a tick that was refused. -/
def TickReport.refusal (now : Instant) : TickReport := { start now with overlapped := true }

theorem Job.overlapped_note (j : Job) (r : TickReport) :
    (j.note r).overlapped = r.overlapped := by
  unfold note
  cases j.result <;> rfl

theorem Job.overlapped_foldl_note (jobs : List Job) (r : TickReport) :
    (jobs.foldl note r).overlapped = r.overlapped := by
  induction jobs generalizing r with
  | nil => rfl
  | cons j jobs ih => rw [List.foldl_cons, ih, overlapped_note]

theorem Scheduler.overlapped_plan (s : Scheduler) (org : String) (now : Instant)
    (items : List InventoryItem) (flows : List Flow) (r : TickReport) :
    (s.plan org now items flows r).2.overlapped = r.overlapped := by
  induction flows generalizing r with
  | nil => rfl
  | cons f flows ih =>
    rw [plan]
    dsimp only
    cases f.validate s.engine.registry with
    | error err => exact ih _
    | ok g => exact ih _

theorem Scheduler.overlapped_of_plan {s : Scheduler} {org : String} {now : Instant}
    {items : List InventoryItem} {flows : List Flow} {r planned : TickReport}
    {evs : List Evaluation} (h : s.plan org now items flows r = (evs, planned)) :
    planned.overlapped = r.overlapped := by
  rw [← s.overlapped_plan org now items flows r, h]

/-! ## What a tick has to show -/

namespace TickRun

/-- A tick at work has the guard, and keeps it until it returns. One that was refused does not have
the guard, and its report says no more than that it was refused. -/
def Fits (r : TickRun) : Prop :=
  match r.stage with
  | .asking => r.held = false ∧ r.report = .start r.call.now
  | .admitted | .visiting _ | .choosing .. | .evaluating .. =>
    r.held = true ∧ r.report.overlapped = false
  | .leaving =>
    r.held = true ∧ r.report.overlapped = false ∨
      r.held = false ∧ r.report = .refusal r.call.now
  | .ended =>
    r.held = false ∧ (r.report.overlapped = true →
      r.report = .refusal r.call.now)

variable {s : Scheduler} {r : TickRun} {σ : TickShared} {b : TickRun × TickShared}

theorem fits_fresh (c : TickCall) : (fresh c).Fits := ⟨rfl, rfl⟩

theorem Fits.held_of_working (h : r.Fits) (hr : r.stage.working = true) : r.held = true := by
  obtain ⟨c, stage, held, report⟩ := r
  cases stage with
  | admitted | visiting | choosing | evaluating => exact h.1
  | asking | leaving | ended => cases hr

theorem Fits.of_overlapped (h : r.Fits) (hr : r.report.overlapped = true) :
    r.held = false ∧ r.report = .refusal r.call.now ∧
      (r.stage = .leaving ∨ r.stage = .ended) := by
  obtain ⟨c, stage, held, report⟩ := r
  dsimp only at hr
  cases stage with
  | asking =>
    obtain ⟨-, rfl⟩ : held = false ∧ report = .start c.now := h
    cases hr
  | admitted | visiting | choosing | evaluating => cases hr.symm.trans h.2
  | leaving =>
    rcases h with ⟨-, hno⟩ | ⟨hheld, hreport⟩
    · cases hr.symm.trans hno
    · exact ⟨hheld, hreport, .inl rfl⟩
  | ended => exact ⟨h.1, h.2 hr, .inr rfl⟩

theorem Turn.fits (h : Turn s (r, σ) b) (hr : r.Fits) : b.1.Fits := by
  cases h with
  | refuse =>
    obtain ⟨hheld, hreport⟩ := hr
    exact .inr ⟨hheld, congrArg (fun r : TickReport => { r with overlapped := true }) hreport⟩
  | grant =>
    obtain ⟨-, hreport⟩ := hr
    exact ⟨rfl, congrArg TickReport.overlapped hreport⟩
  | prune | noFlows | flows | noItems | evaluate => exact hr
  | items _ hplan => exact ⟨hr.1, (Scheduler.overlapped_of_plan hplan).trans hr.2⟩
  | collect => exact ⟨hr.1, (Job.overlapped_foldl_note _ _).trans hr.2⟩
  | done => exact .inl hr
  | leave =>
    rcases hr with ⟨-, hno⟩ | ⟨-, hreport⟩
    · exact ⟨rfl, fun ho => by cases ho.symm.trans hno⟩
    · exact ⟨rfl, fun _ => hreport⟩

/-- In a turn, who has the guard stays the same, or the tick is granted the guard, or it returns and
gives the guard back. -/
theorem Turn.guard_cases (h : Turn s (r, σ) b) (hr : r.Fits) :
    b.1.held = r.held ∧ b.2.guard = σ.guard ∨
    (r.held = false ∧ σ.guard.running = false) ∧ b.1.held = true ∧ b.2.guard.running = true ∨
    r.held = true ∧ b.1.held = false ∧ b.1.stage = .ended ∧ b.2.guard = .free := by
  cases h with
  | refuse hguard =>
    obtain ⟨-, rfl⟩ := TickGuard.tryAcquire_eq_false_iff.1 hguard
    exact .inl ⟨rfl, rfl⟩
  | grant hguard =>
    obtain ⟨hfree, rfl⟩ := TickGuard.tryAcquire_eq_true_iff.1 hguard
    exact .inr (.inl ⟨⟨hr.1, hfree⟩, rfl, rfl⟩)
  | @leave c h =>
    cases h with
    | false => exact .inl ⟨rfl, rfl⟩
    | true => exact .inr (.inr ⟨rfl, rfl, rfl, rfl⟩)
  | prune | noFlows | flows | noItems | items | evaluate | collect | done => exact .inl ⟨rfl, rfl⟩

end TickRun

/-! ## Who has the guard -/

/-- Each tick fits the point it has come to, and as many have the guard as it says are going on. -/
structure TickGuard.Guards (g : TickGuard) (pool : List TickRun) : Prop where
  fits : ∀ r ∈ pool, r.Fits
  countP_held : pool.countP (·.held) = g.running.toNat

namespace TickGuard

variable {s : Scheduler} {g : TickGuard} {pool : List TickRun} {r : TickRun} {σ : TickShared}
  {b : TickRun × TickShared} {i : Nat}

theorem guards_fresh (calls : List TickCall) : free.Guards (calls.map .fresh) where
  fits := List.forall_mem_map.2 fun c _ => TickRun.fits_fresh c
  countP_held := by simp [List.countP_map, Function.comp_def, TickRun.fresh, free]

/-- Where a tick has the guard, one is going on. -/
theorem Guards.running (h : g.Guards pool) (hmem : r ∈ pool) (hr : r.held = true) :
    g.running = true := by
  have hpos : 0 < pool.countP (·.held) := List.countP_pos_iff.2 ⟨r, hmem, hr⟩
  rw [h.countP_held] at hpos
  cases hg : g.running with
  | true => rfl
  | false => simp [hg] at hpos

/-- No two ticks have the guard. -/
theorem Guards.eq_of_held {r' : TickRun} (h : g.Guards pool) (hmem : r ∈ pool) (hmem' : r' ∈ pool)
    (hr : r.held = true) (hr' : r'.held = true) : r = r' := by
  have hone : (pool.filter (·.held)).length = 1 := by
    rw [← List.countP_eq_length_filter, h.countP_held, h.running hmem hr]
    rfl
  obtain ⟨x, hx⟩ := List.length_eq_one_iff.1 hone
  have heq {y : TickRun} (hmem : y ∈ pool) (hy : y.held = true) : y = x :=
    List.mem_singleton.1 (hx ▸ List.mem_filter.2 ⟨hmem, hy⟩)
  rw [heq hmem hr, heq hmem' hr']

theorem Guards.turn (h : σ.guard.Guards pool) (hr : pool[i]? = some r)
    (hturn : TickRun.Turn s (r, σ) b) : b.2.guard.Guards (pool.set i b.1) := by
  obtain ⟨hi, rfl⟩ := List.getElem?_eq_some_iff.1 hr
  have hfits := h.fits _ (List.getElem_mem hi)
  refine ⟨fun r' hr' => ?_, ?_⟩
  · rcases List.mem_or_eq_of_mem_set hr' with hold | rfl
    · exact h.fits r' hold
    · exact hturn.fits hfits
  · have hcount := h.countP_held
    have hpos (hheld : pool[i].held = true) : 0 < pool.countP (·.held) :=
      List.countP_pos_iff.2 ⟨_, List.getElem_mem hi, hheld⟩
    rw [List.countP_set hi]
    rcases hturn.guard_cases hfits with ⟨hheld, hguard⟩ | ⟨⟨hheld, hfree⟩, hb, hrunning⟩ |
      ⟨hheld, hb, -, hguard⟩
    · rw [hheld, hguard, ← hcount]
      split
      · next htrue => exact Nat.sub_add_cancel (hpos htrue)
      · rfl
    · simp [hheld, hb, hrunning, hcount, hfree]
    · have hrunning := h.running (List.getElem_mem hi) hheld
      simp [hheld, hb, hguard, hcount, hrunning, free]

end TickGuard

/-! ## What became of a tick -/

/-- A tick asks for the guard, and it is not granted. -/
def TickTurn.Refused (t : TickTurn) : Prop :=
  t.before.1.stage = .asking ∧ t.before.2.guard.tryAcquire.1 = false

namespace TickRun

variable {s : Scheduler} {r : TickRun} {σ : TickShared} {b : TickRun × TickShared}
  {ts : List TickTurn} {i : Nat}

/-- Among these turns, those of a tick account for what it says: it was refused if its report is
that of a refusal, and then it has not touched anything. -/
structure Traced (ts : List TickTurn) (i : Nat) (r : TickRun) : Prop where
  untouched : r.stage = .asking → ∀ t ∈ ts, t.tick ≠ i
  refused_iff : r.report.overlapped = true ↔ ∃ t ∈ ts, t.tick = i ∧ t.Refused
  quiet : r.report.overlapped = true → ∀ t ∈ ts, t.tick = i → t.after.2 = t.before.2

theorem traced_fresh (i : Nat) (c : TickCall) : (fresh c).Traced [] i :=
  ⟨fun _ => by simp, by simp [fresh, TickReport.start], fun _ => by simp⟩

/-- The turns of others do not count. -/
theorem Traced.other (h : r.Traced ts i) {t : TickTurn} (ht : t.tick ≠ i) :
    r.Traced (ts ++ [t]) i where
  untouched hr := by simpa [or_imp, forall_and, ht] using h.untouched hr
  refused_iff := by simpa [or_and_right, exists_or, ht] using h.refused_iff
  quiet hr := by simpa [or_imp, forall_and, ht] using h.quiet hr

theorem Turn.stage_ne_asking (h : Turn s (r, σ) b) : b.1.stage ≠ .asking := by
  cases h <;> nofun

/-- A report comes to be that of a refusal where the guard is asked for and taken. -/
theorem Turn.overlapped_iff (h : Turn s (r, σ) b) : b.1.report.overlapped = true ↔
    r.report.overlapped = true ∨ r.stage = .asking ∧ σ.guard.running = true := by
  cases h with
  | refuse hguard => simp [(TickGuard.tryAcquire_eq_false_iff.1 hguard).1]
  | grant hguard => simp [(TickGuard.tryAcquire_eq_true_iff.1 hguard).1]
  | items _ hplan => simp [Scheduler.overlapped_of_plan hplan]
  | collect => simp [Job.overlapped_foldl_note]
  | prune | noFlows | flows | noItems | evaluate | done | leave => simp [TickReport.fail]

/-- A turn of a tick whose report is then that of a refusal touches nothing. -/
theorem Turn.eq_of_overlapped (h : Turn s (r, σ) b) (hr : r.Fits)
    (hb : b.1.report.overlapped = true) : b.2 = σ := by
  obtain ⟨c, stage, held, report⟩ := r
  rcases h.overlapped_iff.1 hb with hreport | ⟨rfl, hrunning⟩
  · obtain ⟨rfl, -, rfl | rfl⟩ := hr.of_overlapped hreport
    · rw [turn_leaving_iff.1 h]
      rfl
    · cases h
  · rw [turn_asking_iff.1 h, if_pos hrunning]

/-- A turn of a tick leaves its turns accounting for what it says. -/
theorem Turn.traced (h : Turn s (r, σ) b) (hr : r.Fits) (htraced : r.Traced ts i) :
    b.1.Traced (ts ++ [⟨i, (r, σ), b⟩]) i where
  untouched hb := absurd hb h.stage_ne_asking
  refused_iff := by
    simp [h.overlapped_iff, htraced.refused_iff, or_and_right, exists_or, TickTurn.Refused,
      TickGuard.tryAcquire_fst]
  quiet hb := by
    have hlast := h.eq_of_overlapped hr hb
    have hearlier : ∀ t ∈ ts, t.tick = i → t.after.2 = t.before.2 := by
      rcases h.overlapped_iff.1 hb with hreport | ⟨hasking, -⟩
      · exact htraced.quiet hreport
      · exact fun t ht hi => absurd hi (htraced.untouched hasking t ht)
    simpa [or_imp, forall_and, hlast] using hearlier

end TickRun

/-! ## Ticks that are called at the same time -/

namespace Scheduler

variable {s : Scheduler} {a b : List TickRun × TickShared} {ts : List TickTurn}

theorem Interleaves.guards (h : s.Interleaves a ts b) (ha : a.2.guard.Guards a.1) :
    b.2.guard.Guards b.1 := by
  induction h with
  | refl => exact ha
  | turn b _ hr hturn ih => exact ih.turn hr hturn

/-- What becomes of each tick can be read off its turns. -/
theorem Interleaves.traced (h : s.Interleaves a ts b) (ha : a.2.guard.Guards a.1)
    (hfresh : ∀ i r, a.1[i]? = some r → TickRun.Traced [] i r) :
    ∀ i r, b.1[i]? = some r → TickRun.Traced ts i r := by
  induction h with
  | refl => exact hfresh
  | @turn ts pool σ i r b hbefore hr hturn ih =>
    intro j r' hr'
    rw [List.getElem?_set] at hr'
    split at hr'
    · next hij =>
      subst hij
      obtain ⟨-, rfl⟩ : _ ∧ b.1 = r' := by simpa using hr'
      exact hturn.traced ((hbefore.guards ha).fits r (List.mem_of_getElem? hr)) (ih i r hr)
    · next hij => exact (ih j r' hr').other hij

/-- A turn of the tick that has the guard leaves it with the guard, or it is the last one. -/
theorem Interleaves.turn_of_held (h : s.Interleaves a ts b) (ha : a.2.guard.Guards a.1) :
    ∀ t ∈ ts, t.before.1.held = true →
      t.after.1.held = true ∧ t.after.2.guard.running = true ∨
      t.after.1.stage = .ended ∧ t.after.2.guard = .free := by
  induction h with
  | refl => simp
  | @turn ts pool σ i r b hbefore hr hturn ih =>
    refine List.forall_mem_append.2 ⟨ih, List.forall_mem_singleton.2 fun hheld => ?_⟩
    have hguards := hbefore.guards ha
    have hmem : r ∈ pool := List.mem_of_getElem? hr
    rcases hturn.guard_cases (hguards.fits r hmem) with ⟨hsame, hguard⟩ | ⟨-, hgranted⟩ |
      ⟨-, -, hended⟩
    · exact .inl ⟨hsame.trans hheld, hguard ▸ hguards.running hmem hheld⟩
    · exact .inl hgranted
    · exact .inr hended

/-- Whatever ticks are called at the same time, and in whatever order they take turns:

* one at most has the guard, the guard says whether one does, and a tick at work has it;
* the report of a tick is that of a refusal exactly if it asked for the guard while another one had
  it; such a tick has touched neither the guard nor the world nor the store, and it has returned or
  does so in its next turn, whatever the others have done by then, without touching them;
* a turn of the tick that has the guard leaves it with the guard, or is its last one and leaves the
  guard free. -/
theorem ticks_exclusive {calls : List TickCall} {w : World} {pool : List TickRun} {σ : TickShared}
    (h : s.Interleaves (calls.map .fresh, ⟨.free, w, []⟩) ts (pool, σ)) :
    (pool.countP (·.held) = σ.guard.running.toNat ∧
      ∀ r ∈ pool, r.stage.working = true → r.held = true) ∧
    (∀ i r, pool[i]? = some r →
      (r.report.overlapped = true ↔ ∃ t ∈ ts, t.tick = i ∧ t.Refused) ∧
      (r.report.overlapped = true →
        r.report = .refusal r.call.now ∧
        (∀ t ∈ ts, t.tick = i → t.after.2 = t.before.2) ∧
        (r.stage = .ended ∨ r.stage = .leaving ∧
          ∀ σ' b, TickRun.Turn s (r, σ') b ↔ b = ({ r with stage := .ended }, σ')))) ∧
    ∀ t ∈ ts, t.before.1.held = true →
      t.after.1.held = true ∧ t.after.2.guard.running = true ∨
      t.after.1.stage = .ended ∧ t.after.2.guard = .free := by
  have hfree : TickGuard.free.Guards (calls.map .fresh) := TickGuard.guards_fresh calls
  have hguards : σ.guard.Guards pool := h.guards hfree
  have hfresh (i : Nat) (r : TickRun) (hr : (calls.map TickRun.fresh)[i]? = some r) :
      r.Traced [] i := by
    obtain ⟨c, -, rfl⟩ := List.mem_map.1 (List.mem_of_getElem? hr)
    exact TickRun.traced_fresh i c
  refine ⟨⟨hguards.countP_held, fun r hr => (hguards.fits r hr).held_of_working⟩,
    fun i r hr => ?_, h.turn_of_held hfree⟩
  have htraced : r.Traced ts i := h.traced hfree hfresh i r hr
  refine ⟨htraced.refused_iff, fun hrefused => ?_⟩
  obtain ⟨hheld, hreport, hstage⟩ :=
    (hguards.fits r (List.mem_of_getElem? hr)).of_overlapped hrefused
  refine ⟨hreport, htraced.quiet hrefused, hstage.symm.imp_right fun hleaving => ⟨hleaving, ?_⟩⟩
  obtain ⟨c, stage, held, report⟩ := r
  obtain rfl : stage = .leaving := hleaving
  obtain rfl : held = false := hheld
  exact fun σ' b => TickRun.turn_leaving_iff

end Scheduler

namespace Example

/-- Two calls for a tick, the second a second after the first. -/
def closeCalls : List TickCall := [⟨⟨0, 0⟩, source⟩, ⟨⟨1, 0⟩, source⟩]

end Example

/-- The second of two ticks asks for the guard while the first one has it, and is refused. Then the
first one has its evaluation made, in which the notifier breaks down, and the guard is free. -/
theorem Scheduler.ticks_exclusive_breakdown :
    ∃ ts r₁ r₂ σ,
      (Example.minuteScheduler fun _ _ => .atOnce (.breakdown "gone")).Interleaves
        (Example.closeCalls.map .fresh, ⟨.free, .initial, []⟩) ts ([r₁, r₂], σ) ∧
      r₁.stage = .ended ∧ r₂.stage = .ended ∧
      r₁.report.errors.length = 1 ∧ r₂.report.overlapped = true ∧
      (∃ t ∈ ts, t.tick = 1 ∧ t.Refused) ∧ (∀ t ∈ ts, t.tick = 1 → t.after.2 = t.before.2) ∧
      σ.guard.running = false := by
  let s := Example.minuteScheduler fun _ _ => .atOnce (.breakdown "gone")
  obtain ⟨jobs, cs, hcourse, -⟩ := s.course_tick ⟨0, 0⟩ Example.source .initial
  have herrors : (s.tick Example.source ⟨0, 0⟩ .initial).report.errors.length = 1 := by
    decide +kernel
  obtain ⟨q, hturns⟩ := Course.turns (c := ⟨⟨0, 0⟩, Example.source⟩) hcourse true ⟨true⟩ []
  have hadmitted : s.Interleaves (Example.closeCalls.map .fresh, ⟨.free, .initial, []⟩) _ _ :=
    .turn (i := 0) _ .refl rfl (.grant rfl)
  have hrefused := hadmitted.turn (i := 1) _ rfl (.refuse rfl) |>.turn (i := 1) _ rfl .leave
  obtain ⟨ts, hworked⟩ := hrefused.alone (i := 0) rfl hturns
  have hended := hworked.turn (i := 0) _ rfl .leave
  obtain ⟨⟨hcount, -⟩, hticks, -⟩ := Scheduler.ticks_exclusive hended
  obtain ⟨hiff, hquiet⟩ := hticks 1 _ rfl
  exact ⟨_, _, _, _, hended, rfl, rfl, herrors, rfl, hiff.1 rfl, (hquiet rfl).2.1,
    Bool.toNat_eq_zero.1 hcount.symm⟩

end KitchenFlow
