import KitchenFlow.Proofs.Instant
import KitchenFlow.Proofs.Ledger
import Mathlib.Data.List.Induction

/-!
# The history of a ledger

A ledger is asked for slots, has slots given back, and is pruned. What it answers is said here by
what it was asked before, without a look into it.

The entry of a key is its latest grant, unless that was given back or a pruning has found it a
window old (`get?_after_iff`). This is so whatever the times of the requests. If the times go up and
keep clear of leap seconds, what is a window old once stays so. Then prunings cannot be noticed
(`grants_congr`), and a slot is refused exactly if it was granted within the window and not given
back since (`grants_eq_false_iff`).

In a leap second a pruning can forget a grant that is young again when the second is over.
-/

namespace KitchenFlow.Ledger

/-- What a ledger can be asked. -/
inductive Request where
  | reserve (key : ActionKey) (now : Instant)
  | release (key : ActionKey)
  | prune (now : Instant)
deriving DecidableEq, Repr

namespace Request

/-- The time of a request, if it has one. -/
def time? : Request → Option Instant
  | .reserve _ now | .prune now => some now
  | .release _ => none

def isPrune : Request → Bool
  | .prune _ => true
  | .reserve .. | .release _ => false

end Request

/-- The times of some requests, in order. -/
def times (past : List Request) : List Instant := past.filterMap Request.time?

/-- The ledger that a request leaves behind. -/
def serve (window : Span) (l : Ledger) : Request → Ledger
  | .reserve key now => (l.reserve key now window).2
  | .release key => l.release key
  | .prune now => (l.prune now window).2

/-- The ledger after some requests; it was empty before them. -/
def after (window : Span) (past : List Request) : Ledger := past.foldl (serve window) .empty

/-- Whether a slot is granted after some requests. -/
def grants (window : Span) (past : List Request) (key : ActionKey) (now : Instant) : Bool :=
  ((after window past).reserve key now window).1

variable {window : Span} {l : Ledger} {key other : ActionKey} {now t u : Instant}
  {past before between : List Request} {r : Request}

theorem mem_times (h : r ∈ past) (hr : r.time? = some t) : t ∈ times past :=
  List.mem_filterMap.2 ⟨r, h, hr⟩

theorem times_append (past rest : List Request) : times (past ++ rest) = times past ++ times rest :=
  List.filterMap_append

/-! ## One request -/

theorem fst_reserve : (l.reserve key now window).1 = !l.holds now window key := by
  unfold reserve
  cases l.holds now window key <;> rfl

theorem serve_reserve_of_holds (h : l.holds now window key = true) :
    l.serve window (.reserve key now) = l := by
  rw [serve, reserve, if_pos h]

theorem serve_reserve_of_not_holds (h : l.holds now window key = false) :
    l.serve window (.reserve key now) = l.put key now := by
  rw [serve, reserve, if_neg (Bool.eq_false_iff.1 h)]

/-- A request makes an entry, or it leaves one that it does not take away. -/
theorem get?_serve_iff :
    (l.serve window r).get? key = some t ↔
      (r = .reserve key t ∧ l.holds t window key = false) ∨
      (l.get? key = some t ∧ r ≠ .release key ∧
        (∀ u, r = .reserve key u → l.holds u window key = true) ∧
        ∀ u, r = .prune u → u.since t < window) := by
  cases r with
  | reserve k now =>
    cases hh : l.holds now window k with
    | true =>
      rw [serve_reserve_of_holds hh]
      simp only [Request.reserve.injEq, reduceCtorEq, ne_eq, not_false_eq_true, false_implies,
        implies_true, and_true, true_and]
      grind
    | false =>
      rw [serve_reserve_of_not_holds hh]
      by_cases hk : key = k
      · subst hk
        rw [get?_put_self]
        grind
      · rw [get?_put_of_ne _ _ hk]
        grind
  | release k =>
    by_cases hk : key = k
    · subst hk
      simp [serve]
    · rw [serve, get?_release_of_ne _ hk]
      grind
  | prune now =>
    rw [serve, get?_prune, Option.filter_eq_some_iff, inForce_iff]
    grind

/-! ## The entry of a key -/

theorem after_concat : after window (past ++ [r]) = (after window past).serve window r := by
  rw [after, List.foldl_append]
  rfl

theorem grants_eq : grants window past key now = !(after window past).holds now window key :=
  fst_reserve

/-- The slot of a key was granted after some requests, and since then it was neither given back nor
granted again. -/
structure Outstanding (window : Span) (key : ActionKey) (before between : List Request)
    (t : Instant) : Prop where
  granted : grants window before key t = true
  kept : .release key ∉ between
  latest : ∀ mid u, mid ++ [.reserve key u] <+: between →
    grants window (before ++ .reserve key t :: mid) key u = false

theorem outstanding_nil_iff :
    Outstanding window key before [] t ↔ grants window before key t = true := by
  constructor
  · exact Outstanding.granted
  · exact fun h => ⟨h, List.not_mem_nil, fun mid u hmid => by simp at hmid⟩

theorem outstanding_concat_iff :
    Outstanding window key before (between ++ [r]) t ↔
      Outstanding window key before between t ∧ r ≠ .release key ∧
        ∀ u, r = .reserve key u →
          grants window (before ++ .reserve key t :: between) key u = false := by
  constructor
  · rintro ⟨hgranted, hkept, hlatest⟩
    rw [List.mem_append, List.mem_singleton, not_or] at hkept
    refine ⟨⟨hgranted, hkept.1, fun mid u hmid => ?_⟩, Ne.symm hkept.2, ?_⟩
    · exact hlatest mid u (hmid.trans (List.prefix_append _ _))
    · rintro u rfl
      exact hlatest between u (List.prefix_refl _)
  · rintro ⟨⟨hgranted, hkept, hlatest⟩, hne, hagain⟩
    refine ⟨hgranted, ?_, fun mid u hmid => ?_⟩
    · rw [List.mem_append, List.mem_singleton, not_or]
      exact ⟨hkept, Ne.symm hne⟩
    · rcases List.prefix_concat_iff.1 hmid with heq | hmid
      · obtain ⟨rfl, hr⟩ := List.append_inj' heq rfl
        exact hagain u (List.cons.inj hr).1.symm
      · exact hlatest mid u hmid

/-- A request among others is the last of them or one before it. -/
theorem concat_eq_iff {x : Request} : past ++ [r] = before ++ x :: between ↔
    (past = before ∧ r = x ∧ between = []) ∨
      ∃ mid, between = mid ++ [r] ∧ past = before ++ x :: mid := by
  constructor
  · intro h
    rcases between.eq_nil_or_concat' with rfl | ⟨mid, y, rfl⟩
    · obtain ⟨rfl, hr⟩ := List.append_inj' h rfl
      exact .inl ⟨rfl, (List.cons.inj hr).1, rfl⟩
    · have h : past ++ [r] = (before ++ x :: mid) ++ [y] := by simpa using h
      obtain ⟨rfl, hr⟩ := List.append_inj' h rfl
      rw [(List.cons.inj hr).1]
      exact .inr ⟨mid, rfl, rfl⟩
  · rintro (⟨rfl, rfl, rfl⟩ | ⟨mid, rfl, rfl⟩)
    · rfl
    · simp

/-- The ledger has the outstanding grant of each key, if no pruning found it a window old. -/
theorem get?_after_iff :
    (after window past).get? key = some t ↔
      ∃ before between, past = before ++ .reserve key t :: between ∧
        Outstanding window key before between t ∧
        ∀ u, .prune u ∈ between → u.since t < window := by
  induction past using List.reverseRecOn with
  | nil => simp [after]
  | append_singleton past r ih =>
    rw [after_concat, get?_serve_iff, ih]
    constructor
    · rintro (⟨rfl, hfree⟩ | ⟨⟨before, between, rfl, hout, hfresh⟩, hne, hagain, hprune⟩)
      · refine ⟨past, [], rfl, outstanding_nil_iff.2 ?_, by simp⟩
        rw [grants_eq, hfree]
        rfl
      · refine ⟨before, between ++ [r], by simp, outstanding_concat_iff.2 ⟨hout, hne, ?_⟩, ?_⟩
        · intro u hr
          rw [grants_eq, hagain u hr]
          rfl
        · intro u hu
          rcases List.mem_append.1 hu with hu | hu
          · exact hfresh u hu
          · exact hprune u (List.mem_singleton.1 hu).symm
    · rintro ⟨before, between, hpast, hout, hfresh⟩
      rcases concat_eq_iff.1 hpast with ⟨rfl, rfl, rfl⟩ | ⟨mid, rfl, rfl⟩
      · have hgranted := outstanding_nil_iff.1 hout
        rw [grants_eq] at hgranted
        exact .inl ⟨rfl, by simpa using hgranted⟩
      · obtain ⟨hout, hne, hagain⟩ := outstanding_concat_iff.1 hout
        refine .inr ⟨⟨before, mid, rfl, hout, fun u hu => hfresh u (by simp [hu])⟩, hne, ?_, ?_⟩
        · intro u hr
          have hno := hagain u hr
          rw [grants_eq] at hno
          simpa using hno
        · rintro u rfl
          exact hfresh u (by simp)

/-- An entry stays unless its slot is given back or the entry is found a window old. -/
theorem get?_foldl (hkey : l.get? key = some t) (hkept : .release key ∉ between) :
    (between.foldl (serve window) l).get? key = some t ∨
      ∃ u ∈ times between, window ≤ u.since t := by
  induction between generalizing l with
  | nil => exact .inl hkey
  | cons r rest ih =>
    rw [List.mem_cons, not_or] at hkept
    by_cases hstay : (l.serve window r).get? key = some t
    · refine (ih hstay hkept.2).imp_right fun ⟨u, hu, hold⟩ => ⟨u, ?_, hold⟩
      exact times_append [r] rest ▸ List.mem_append_right _ hu
    -- what takes the entry away is a new grant for the key, or a pruning
    · right
      rw [get?_serve_iff, not_or] at hstay
      cases r with
      | reserve k u =>
        refine ⟨u, mem_times List.mem_cons_self rfl, ?_⟩
        have hfree : k = key ∧ l.holds u window key = false := by
          by_contra hno
          refine hstay.2 ⟨hkey, by simp, ?_, by simp⟩
          rintro u' heq
          obtain ⟨rfl, rfl⟩ := Request.reserve.inj heq
          simpa using hno
        exact not_holds_of_get? hkey hfree.2
      | release k =>
        refine (hstay.2 ⟨hkey, ?_, by simp, by simp⟩).elim
        exact Ne.symm hkept.1
      | prune u =>
        refine ⟨u, mem_times List.mem_cons_self rfl, ?_⟩
        by_contra hno
        refine hstay.2 ⟨hkey, by simp, by simp, ?_⟩
        rintro u' heq
        obtain rfl := Request.prune.inj heq
        exact Int.not_le.1 hno

/-! ## Requests in ascending order -/

/-- Requests made one after the other, none of them within a leap second. -/
structure Orderly (past : List Request) : Prop where
  ascending : (times past).Pairwise (· ≤ ·)
  regular : ∀ t ∈ times past, ¬ t.InLeapSecond

theorem Orderly.of_append {rest : List Request} (h : Orderly (past ++ rest)) : Orderly past := by
  obtain ⟨hascending, hregular⟩ := h
  rw [times_append] at hascending hregular
  exact ⟨(List.pairwise_append.1 hascending).1, fun t ht => hregular t (List.mem_append_left _ ht)⟩

/-- The last request is made no earlier than the others. -/
theorem Orderly.last (h : Orderly (past ++ [r])) (hr : r.time? = some now) :
    ¬ now.InLeapSecond ∧ ∀ u ∈ times past, u ≤ now := by
  obtain ⟨hascending, hregular⟩ := h
  have htimes : times (past ++ [r]) = times past ++ [now] := by
    simp [times, hr]
  rw [htimes] at hascending hregular
  refine ⟨hregular now (by simp), fun u hu => ?_⟩
  exact (List.pairwise_append.1 hascending).2.2 u hu now (List.mem_singleton.2 rfl)

/-- At the last request, a grant is as old as it ever was. -/
theorem Orderly.since_le (h : Orderly (past ++ [r])) (hr : r.time? = some now)
    (ht : t ∈ times past) (hu : u ∈ times past) :
    u.since t ≤ now.since t := by
  obtain ⟨hnow, hle⟩ := h.last hr
  have hpast := h.of_append.regular
  exact Instant.since_mono (hle u hu) (hpast t ht) (hpast u hu) hnow

theorem mem_times_of_get?_after (h : (after window past).get? key = some t) :
    t ∈ times past := by
  obtain ⟨before, between, rfl, -, -⟩ := get?_after_iff.1 h
  exact mem_times (List.mem_append_right _ List.mem_cons_self) rfl

/-- A slot is refused exactly if it was granted within the window and not given back since. -/
theorem grants_eq_false_iff (h : Orderly (past ++ [.reserve key now])) :
    grants window past key now = false ↔
      ∃ before between t, past = before ++ .reserve key t :: between ∧
        grants window before key t = true ∧ now.since t < window ∧ .release key ∉ between := by
  rw [grants_eq, Bool.not_eq_false', holds_iff]
  constructor
  · rintro ⟨t, ht, hyoung⟩
    obtain ⟨before, between, rfl, hout, -⟩ := get?_after_iff.1 ht
    exact ⟨before, between, t, rfl, hout.granted, hyoung, hout.kept⟩
  · rintro ⟨before, between, t, rfl, hgranted, hyoung, hkept⟩
    refine ⟨t, ?_, hyoung⟩
    have hentry : (after window (before ++ [.reserve key t])).get? key = some t :=
      get?_after_iff.2 ⟨before, [], rfl, outstanding_nil_iff.2 hgranted, by simp⟩
    have hafter : after window (before ++ .reserve key t :: between) =
        between.foldl (serve window) (after window (before ++ [.reserve key t])) := by
      simp [after]
    rw [hafter]
    -- nobody has found the entry a window old, for it is not even now
    refine (get?_foldl hentry hkept).resolve_right ?_
    rintro ⟨u, hu, hold⟩
    have hle : u.since t ≤ now.since t := by
      apply h.since_le rfl (mem_times (List.mem_append_right _ List.mem_cons_self) rfl)
      rw [times_append, ← List.singleton_append, times_append]
      exact List.mem_append_right _ (List.mem_append_right _ hu)
    exact absurd hyoung (Int.not_lt.2 (Int.le_trans hold hle))

/-- Right after a pruning the ledger has just the outstanding grants within the window. -/
theorem get?_after_prune_iff (h : Orderly (past ++ [.prune now])) :
    (after window (past ++ [.prune now])).get? key = some t ↔
      (∃ before between, past = before ++ .reserve key t :: between ∧
        Outstanding window key before between t) ∧ now.since t < window := by
  rw [after_concat, serve, get?_prune, Option.filter_eq_some_iff, inForce_iff, get?_after_iff]
  constructor
  · rintro ⟨⟨before, between, hpast, hout, -⟩, hyoung⟩
    exact ⟨⟨before, between, hpast, hout⟩, hyoung⟩
  · rintro ⟨⟨before, between, rfl, hout⟩, hyoung⟩
    refine ⟨⟨before, between, rfl, hout, fun u hu => ?_⟩, hyoung⟩
    have hle : u.since t ≤ now.since t := by
      apply h.since_le rfl (mem_times (List.mem_append_right _ List.mem_cons_self) rfl)
      exact mem_times (List.mem_append_right _ (List.mem_cons_of_mem _ hu)) rfl
    exact Int.lt_of_le_of_lt hle hyoung

/-! ## Prunings are not noticed -/

theorem holds_put (l : Ledger) (key other : ActionKey) (now u : Instant) (window : Span) :
    (l.put key now).holds u window other =
      if other = key then inForce u window now else l.holds u window other := by
  split
  · next h => rw [h, holds, get?_put_self, Option.any_some]
  · next h => exact holds_congr (l.get?_put_of_ne now h)

theorem holds_release (l : Ledger) (key other : ActionKey) (u : Instant) (window : Span) :
    (l.release key).holds u window other =
      if other = key then false else l.holds u window other := by
  split
  · next h => rw [h, holds_release_self]
  · next h => exact holds_congr (l.get?_release_of_ne h)

/-- What is in force does not depend on the prunings that were made. -/
theorem holds_after_filter (h : Orderly past) (hnow : ¬ now.InLeapSecond)
    (hle : ∀ u ∈ times past, u ≤ now) (key : ActionKey) :
    (after window past).holds now window key =
      (after window (past.filter fun r => !r.isPrune)).holds now window key := by
  induction past using List.reverseRecOn generalizing now key with
  | nil => rfl
  | append_singleton past r ih =>
    have hpast := h.of_append
    have hle' : ∀ u ∈ times past, u ≤ now := by
      intro u hu
      rw [times_append] at hle
      exact hle u (List.mem_append_left _ hu)
    have hlater := ih hpast hnow hle'
    rw [after_concat, List.filter_append]
    cases r with
    | reserve k u =>
      -- the slot is granted with the prunings if it is without them
      have hsame := ih hpast (h.last rfl).1 (h.last rfl).2 k
      show _ = (after window (_ ++ [.reserve k u])).holds now window key
      rw [after_concat]
      cases hh : (after window past).holds u window k with
      | true =>
        rw [serve_reserve_of_holds hh, serve_reserve_of_holds (hsame ▸ hh)]
        exact hlater key
      | false =>
        rw [serve_reserve_of_not_holds hh, serve_reserve_of_not_holds (hsame ▸ hh), holds_put,
          holds_put, hlater key]
    | release k =>
      show _ = (after window (_ ++ [.release k])).holds now window key
      rw [after_concat, serve, serve, holds_release, holds_release, hlater key]
    | prune u =>
      show _ = (after window (_ ++ [])).holds now window key
      rw [List.append_nil, ← hlater key, serve]
      apply holds_prune
      intro t ht
      have hmem : u ∈ times (past ++ [.prune u]) :=
        mem_times (List.mem_append_right _ List.mem_cons_self) rfl
      exact Instant.since_mono (hle u hmem) (hpast.regular t (mem_times_of_get?_after ht))
        (h.regular u hmem) hnow

/-- Two sequences of requests that differ in their prunings only lead to the same answer. -/
theorem grants_congr {past' : List Request} (h : Orderly (past ++ [.reserve key now]))
    (h' : Orderly (past' ++ [.reserve key now]))
    (heq : past.filter (fun r => !r.isPrune) = past'.filter fun r => !r.isPrune) :
    grants window past key now = grants window past' key now := by
  obtain ⟨hnow, hle⟩ := h.last rfl
  obtain ⟨-, hle'⟩ := h'.last rfl
  rw [grants_eq, grants_eq, holds_after_filter h.of_append hnow hle, heq,
    ← holds_after_filter h'.of_append hnow hle']

/-! ## What a ledger answers -/

/-- A ledger is a function of its history. At any times, the entry of a key is its outstanding
grant, if no pruning found it a window old. At ascending times outside leap seconds, a slot is
refused exactly if it was granted within the window and not given back since, whatever prunings were
made; and right after a pruning just the outstanding grants within the window are left. -/
theorem history_decides (window : Span) :
    (∀ past key t, (after window past).get? key = some t ↔
      ∃ before between, past = before ++ .reserve key t :: between ∧
        Outstanding window key before between t ∧
        ∀ u, .prune u ∈ between → u.since t < window) ∧
    (∀ past key now, Orderly (past ++ [.reserve key now]) →
      (grants window past key now = false ↔
        ∃ before between t, past = before ++ .reserve key t :: between ∧
          grants window before key t = true ∧ now.since t < window ∧ .release key ∉ between)) ∧
    (∀ past past' key now, Orderly (past ++ [.reserve key now]) →
      Orderly (past' ++ [.reserve key now]) →
      past.filter (fun r => !r.isPrune) = past'.filter (fun r => !r.isPrune) →
        grants window past key now = grants window past' key now) ∧
    ∀ past now, Orderly (past ++ [.prune now]) → ∀ key t,
      (after window (past ++ [.prune now])).get? key = some t ↔
        (∃ before between, past = before ++ .reserve key t :: between ∧
          Outstanding window key before between t) ∧ now.since t < window :=
  ⟨fun _ _ _ => get?_after_iff, fun _ _ _ => grants_eq_false_iff,
    fun _ _ _ _ => grants_congr, fun _ _ h _ _ => get?_after_prune_iff h⟩

namespace Example

/-- The slot of a warning about the milk. -/
def warning : ActionKey := ⟨"flow-dairy-alert", "item-101", "notify-1"⟩

/-- The warning is asked for, and a day later the ledger is pruned. -/
def morning : List Request := [.reserve warning ⟨0, 0⟩, .prune ⟨86400, 0⟩]

/-- The warning is asked for, and a little less than a minute later the ledger is pruned within a
leap second. -/
def beforeLeap : List Request :=
  [.reserve warning ⟨0, 500000000⟩, .prune ⟨59, 1900000000⟩]

end Example

/-- After a day the warning is refused, pruned or not, and its entry is still there. -/
theorem history_decides_milk :
    grants (.ofDays 30) Example.morning Example.warning ⟨86401, 0⟩ = false ∧
      grants (.ofDays 30) [.reserve Example.warning ⟨0, 0⟩] Example.warning ⟨86401, 0⟩ = false ∧
      (after (.ofDays 30) Example.morning).get? Example.warning = some ⟨0, 0⟩ := by
  obtain ⟨-, hrefused, hprune, hentries⟩ := history_decides (.ofDays 30)
  have hgranted : grants (.ofDays 30) [] Example.warning ⟨0, 0⟩ = true := by decide
  have hrefuse : grants (.ofDays 30) Example.morning Example.warning ⟨86401, 0⟩ = false :=
    (hrefused _ _ _ ⟨by decide, by decide⟩).2
      ⟨[], [.prune ⟨86400, 0⟩], ⟨0, 0⟩, rfl, hgranted, by decide, by decide⟩
  refine ⟨hrefuse, ?_, ?_⟩
  · rw [← hrefuse]
    exact hprune _ _ _ _ ⟨by decide, by decide⟩ ⟨by decide, by decide⟩ (by decide)
  · exact (hentries [.reserve Example.warning ⟨0, 0⟩] ⟨86400, 0⟩ ⟨by decide, by decide⟩ _ _).2
      ⟨⟨[], [], rfl, outstanding_nil_iff.2 hgranted⟩, by decide⟩

/-- A pruning within a leap second finds a grant outdated that is young again when the leap second
is over, so that the slot is granted twice within the window. -/
theorem forgets_in_leap_second :
    ∃ window past key now, (times (past ++ [.reserve key now])).Pairwise (· ≤ ·) ∧
      (∃ before between t, past = before ++ .reserve key t :: between ∧
        grants window before key t = true ∧ now.since t < window ∧ .release key ∉ between) ∧
      grants window past key now = true ∧
      grants window (past.filter fun r => !r.isPrune) key now = false :=
  ⟨.ofSeconds 60, Example.beforeLeap, Example.warning, ⟨60, 0⟩, by decide,
    ⟨[], [.prune ⟨59, 1900000000⟩], ⟨0, 500000000⟩, rfl, by decide, by decide, by decide⟩,
    by decide, by decide⟩

end KitchenFlow.Ledger
