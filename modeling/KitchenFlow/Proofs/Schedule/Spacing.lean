import KitchenFlow.Proofs.Instant
import KitchenFlow.Proofs.Run.Once
import KitchenFlow.Proofs.Schedule.Dispatches

/-!
# How far apart dispatches are

No action is repeated within the window, over all ticks that may be made one after the other and
all orders in which their evaluations take turns. The reason is an invariant of single entries: as
long as the ledger has an entry for a key, the key is not dispatched before some tick has found the
entry to be a window old, and an action carried out leaves such an entry behind.

Whether the time between the two dispatches is then a window long depends on how time is measured.
The time since an instant grows from tick to tick, except that the end of a leap second can take
back what the leap second had added. So a tick within a leap second can find an entry outdated
that a later tick would not have found so, and two dispatches can be closer than a window.
-/

namespace KitchenFlow

/-! ## Ticks one after the other -/

/-- A tick to be made: when, and with what in the store. -/
structure TickCall where
  now : Instant
  source : FlowSource

/-- A tick that was made: when, and the keys of the actions carried out in it. -/
structure TickRecord where
  now : Instant
  keys : List ActionKey
deriving DecidableEq, Repr

/-- Ticks that may be made one after the other, with what is carried out in them. -/
inductive Scheduler.Histories (s : Scheduler) : List TickCall → World → List TickRecord → Prop where
  | nil {w} : Histories s [] w []
  | tick {c rest w ks w' rs} : s.Ticks c.now c.source w ks w' → Histories s rest w' rs →
      Histories s (c :: rest) w (⟨c.now, ks⟩ :: rs)

/-- Makes ticks one after the other. -/
def Scheduler.history (s : Scheduler) : List TickCall → World → List TickRecord
  | [], _ => []
  | c :: rest, w =>
    let t := s.tick c.source c.now w
    ⟨c.now, t.dispatched⟩ :: s.history rest t.world

theorem Scheduler.histories_history (s : Scheduler) (calls : List TickCall) (w : World) :
    s.Histories calls w (s.history calls w) := by
  induction calls generalizing w with
  | nil => exact .nil
  | cons c rest ih => exact .tick (s.ticks_tick c.now c.source w) (ih _)

section

variable {s : Scheduler} {calls : List TickCall} {w : World} {rs : List TickRecord}

theorem Scheduler.Histories.map_now (h : s.Histories calls w rs) :
    rs.map TickRecord.now = calls.map TickCall.now := by
  induction h with
  | nil => rfl
  | tick _ _ ih => rw [List.map_cons, List.map_cons, ih]

/-- Ticks are recorded in the order in which they are made. -/
theorem Scheduler.Histories.ascending (h : s.Histories calls w rs)
    (hsorted : calls.Pairwise fun c d => c.now ≤ d.now) :
    rs.Pairwise fun a b => a.now ≤ b.now := by
  have hmap : (calls.map TickCall.now).Pairwise (· ≤ ·) := List.pairwise_map.2 hsorted
  rw [← h.map_now] at hmap
  exact List.pairwise_map.1 hmap

/-- What ticks do to the ledger: each prunes it and then serves what it dispatches. -/
inductive Ledger.Records (window : Span) : Ledger → List TickRecord → Prop where
  | nil {l} : Records window l []
  | tick {l l' r rest} : Serves r.now window (l.prune r.now window).2 r.keys l' →
      Records window l' rest → Records window l (r :: rest)

theorem Scheduler.Histories.records (h : s.Histories calls w rs) :
    w.ledger.Records s.window rs := by
  induction h with
  | nil => exact .nil
  | tick htick _ ih => exact .tick (Scheduler.serves_ticks htick) ih

end

/-! ## The entry of a key -/

namespace Ledger

variable {t : Instant} {window : Span} {l : Ledger} {key : ActionKey}

/-- A key that has an entry is not dispatched before some tick finds the entry a window old. -/
theorem Records.exists_outdated {mid post : List TickRecord} {b : TickRecord}
    (h : Records window l (mid ++ b :: post)) (hkey : l.get? key = some t) (hb : key ∈ b.keys) :
    ∃ r ∈ mid ++ [b], window ≤ r.now.since t := by
  generalize hrs : mid ++ b :: post = rs at h
  induction h generalizing mid with
  | nil => simp at hrs
  | @tick l l' r rest hserves hrest ih =>
    -- the first tick finds the entry outdated, or it dispatches something else and keeps it
    have hr : r ∈ mid ++ [b] := by
      cases mid with
      | nil => simp [(List.cons.inj hrs).1]
      | cons m mid => simp [(List.cons.inj hrs).1]
    by_cases hforce : r.now.since t < window
    · have hpruned : (l.prune r.now window).2.get? key = some t := by
        simp [get?_prune, hkey, inForce, hforce]
      rcases hserves.get? key t hpruned with hold | ⟨hno, hkept⟩
      · exact ⟨r, hr, hold⟩
      · cases mid with
        | nil =>
          obtain ⟨rfl, -⟩ := List.cons.inj hrs
          exact (hno hb).elim
        | cons m mid =>
          obtain ⟨x, hx, hold⟩ := ih hkept (List.cons.inj hrs).2
          exact ⟨x, List.mem_cons_of_mem _ hx, hold⟩
    · exact ⟨r, hr, Int.not_lt.1 hforce⟩

/-- Between two dispatches of a key there is a tick a window after the first. -/
theorem Records.exists_between {pre mid post : List TickRecord} {a b : TickRecord}
    (h : Records window l (pre ++ a :: (mid ++ b :: post))) (ha : key ∈ a.keys)
    (hb : key ∈ b.keys) : ∃ r ∈ a :: (mid ++ [b]), window ≤ r.now.since a.now := by
  induction pre generalizing l with
  | nil =>
    cases h with
    | tick hserves hrest =>
      by_cases hw : 0 < window
      · obtain ⟨r, hr, hold⟩ := hrest.exists_outdated (hserves.get?_of_mem hw key ha) hb
        exact ⟨r, List.mem_cons_of_mem _ hr, hold⟩
      -- without a window the first tick is itself late enough
      · exact ⟨a, List.mem_cons_self, by simpa using hw⟩
  | cons r pre ih =>
    cases h with
    | tick _ hrest => exact ih hrest

theorem Records.nodup {rs : List TickRecord} (h : Records window l rs) (hw : 0 < window) :
    ∀ r ∈ rs, r.keys.Nodup := by
  induction h with
  | nil => simp
  | tick hserves _ ih => exact List.forall_mem_cons.2 ⟨hserves.nodup hw, ih⟩

end Ledger

/-! ## Dispatches are a window apart -/

/-- Over any history of ticks, in ascending order, nothing is dispatched twice in one tick. Between
two ticks that dispatch the same key there is one, the two included, that is a window after the
first. If none of these is within a leap second, the second is a window after the first. -/
theorem Scheduler.dispatches_spaced {s : Scheduler} {calls : List TickCall} {w : World}
    {rs : List TickRecord} (h : s.Histories calls w rs)
    (hsorted : calls.Pairwise fun c d => c.now ≤ d.now) :
    (0 < s.window → ∀ r ∈ rs, r.keys.Nodup) ∧
    ∀ pre a mid b post, rs = pre ++ a :: (mid ++ b :: post) →
      ∀ key ∈ a.keys, key ∈ b.keys →
        (∃ r ∈ a :: (mid ++ [b]), s.window ≤ r.now.since a.now) ∧
        ((∀ r ∈ a :: (mid ++ [b]), ¬ r.now.InLeapSecond) → s.window ≤ b.now.since a.now) := by
  have hrecords := h.records
  refine ⟨fun hw => hrecords.nodup hw, fun pre a mid b post hhist key ha hb => ?_⟩
  obtain ⟨r, hr, hold⟩ := (hhist ▸ hrecords).exists_between ha hb
  refine ⟨⟨r, hr, hold⟩, fun hleap => ?_⟩
  -- the tick found is the second of the two, or it was made before it
  have hrb : r.now ≤ b.now := by
    have hascending := h.ascending hsorted
    rw [hhist, show pre ++ a :: (mid ++ b :: post) = (pre ++ a :: mid) ++ b :: post by simp]
      at hascending
    rcases List.mem_append.1 (show r ∈ (a :: mid) ++ [b] from hr) with hr | hr
    · exact (List.pairwise_append.1 hascending).2.2 r (List.mem_append_right _ hr) b
        List.mem_cons_self
    · obtain rfl := List.mem_singleton.1 hr
      exact Instant.le_refl r.now
  have hab : b ∈ a :: (mid ++ [b]) := by simp
  exact Int.le_trans hold
    (Instant.since_mono hrb (hleap a List.mem_cons_self) (hleap r hr) (hleap b hab))

namespace Example

/-- A store with the example flow and the milk in it. -/
def source : FlowSource := ⟨fun _ => .ok [flow .epoch], fun _ => .ok [milk]⟩

/-- A scheduler for one kitchen, with a window of a minute. -/
def minuteScheduler (notifier : Responder) : Scheduler :=
  { engine := { Engine.bare with services := { Services.none with notifications := some notifier } }
    organizations := ["kitchen"]
    window := .ofSeconds 60
    maxConcurrency := 1 }

/-- The key of the warning about the milk. -/
def milkKey : ActionKey := ⟨"flow-dairy-alert", "item-101", "notify-1"⟩

/-- Ticks at every half minute. -/
def calls : List TickCall := [⟨⟨0, 0⟩, source⟩, ⟨⟨30, 0⟩, source⟩, ⟨⟨60, 0⟩, source⟩]

end Example

/-- Of three ticks within a minute, the first and the last warn of the milk. -/
theorem Scheduler.dispatches_spaced_milk :
    ∃ a b c, (Example.minuteScheduler fun _ _ => .atOnce (.answer (.ok ""))).history Example.calls
        .initial = [a, b, c] ∧
      Example.milkKey ∈ a.keys ∧ Example.milkKey ∈ c.keys ∧ a.keys.Nodup ∧
      Span.ofSeconds 60 ≤ c.now.since a.now := by
  have hhist : (Example.minuteScheduler fun _ _ => .atOnce (.answer (.ok ""))).history
      Example.calls .initial =
        [⟨⟨0, 0⟩, [Example.milkKey]⟩, ⟨⟨30, 0⟩, []⟩, ⟨⟨60, 0⟩, [Example.milkKey]⟩] := by
    decide +kernel
  obtain ⟨hnd, hspaced⟩ := Scheduler.dispatches_spaced
    (Scheduler.histories_history (Example.minuteScheduler fun _ _ => .atOnce (.answer (.ok "")))
      Example.calls .initial) (by decide)
  rw [hhist] at hnd
  refine ⟨_, _, _, hhist, by decide, by decide, hnd (by decide) _ List.mem_cons_self, ?_⟩
  exact (hspaced [] _ [_] _ [] hhist Example.milkKey (by decide) (by decide)).2 (by decide)

/-! ## A leap second between two dispatches -/

namespace Example

/-- A notifier that fails at its second call. -/
def secondFails : Responder := fun n _ =>
  .atOnce (.answer (if n = 1 then .error (.failed "offline") else .ok ""))

/-- A tick, another one within a leap second a little more than a minute later, and one right after
the leap second. -/
def leapCalls : List TickCall :=
  [⟨⟨0, 500000000⟩, source⟩, ⟨⟨59, 1900000000⟩, source⟩, ⟨⟨60, 0⟩, source⟩]

end Example

/-- The tick within the leap second finds the first reservation outdated, gives its own back when
the notifier fails, and so lets the next tick repeat the first dispatch too early. -/
theorem Scheduler.repeats_after_leap_second :
    ∃ (s : Scheduler) (calls : List TickCall) (w : World), w.ledger = .empty ∧
      (calls.Pairwise fun c d => c.now ≤ d.now) ∧
      ∃ a b c key, s.Histories calls w [a, b, c] ∧ key ∈ a.keys ∧ key ∈ c.keys ∧
        c.now.since a.now < s.window := by
  have hhist : (Example.minuteScheduler Example.secondFails).history Example.leapCalls .initial =
      [⟨⟨0, 500000000⟩, [Example.milkKey]⟩, ⟨⟨59, 1900000000⟩, []⟩,
        ⟨⟨60, 0⟩, [Example.milkKey]⟩] := by
    decide +kernel
  exact ⟨_, Example.leapCalls, _, rfl, by decide, _, _, _, Example.milkKey,
    hhist ▸ Scheduler.histories_history _ _ _, by decide, by decide, by decide⟩

end KitchenFlow
