import KitchenFlow.Ledger.Basic
import Mathlib.Data.List.Nodup

/-!
# Laws of the ledger

A ledger is a map from keys to times, so an entry is the same as an answer of `get?`. What matters
of a ledger at a time is which of its reservations are in force, and how many: reserving a free key
adds one, and giving a key back that was free before leaves them as they were.
-/

namespace KitchenFlow.Ledger

variable {l : Ledger} {key other : ActionKey} {now t u : Instant} {window : Span}

/-! ## Entries -/

theorem mem_entries_iff : (key, t) ∈ l.entries ↔ l.get? key = some t := by
  obtain ⟨entries, hnd⟩ := l
  simp only [get?]
  induction entries with
  | nil => simp
  | cons e rest ih =>
    obtain ⟨k, s⟩ := e
    obtain ⟨hk, hnd⟩ := List.nodup_cons.1 hnd
    rw [List.mem_cons, List.lookup_cons]
    by_cases h : key = k
    · subst h
      -- `lookup` stops at the head, and the key is not found behind it either
      have hno : (key, t) ∉ rest := fun hm => hk (List.mem_map.2 ⟨_, hm, rfl⟩)
      simp [hno, eq_comm]
    · simp [beq_false_of_ne h, h, ih hnd]

theorem get?_filter (l : Ledger) (keep : ActionKey × Instant → Bool) (key : ActionKey) :
    (l.filter keep).get? key = (l.get? key).filter fun t => keep (key, t) := by
  refine Option.ext fun t => ?_
  rw [← mem_entries_iff, Option.filter_eq_some_iff, ← mem_entries_iff]
  exact List.mem_filter

/-- Pruning forgets exactly what is no longer in force. -/
theorem get?_prune (l : Ledger) (now : Instant) (window : Span) (key : ActionKey) :
    (l.prune now window).2.get? key = (l.get? key).filter (inForce now window) :=
  l.get?_filter _ key

/-- Giving back what was just reserved leaves nothing at the key. -/
theorem release_put (l : Ledger) (key : ActionKey) (now : Instant) :
    (l.put key now).release key = l.release key := by
  ext1
  simp [put, release, filter, List.filter_filter]

/-! ## Reservations in force -/

theorem inForce_iff : inForce now window t = true ↔ now.since t < window := by
  simp [inForce]

theorem holds_iff :
    l.holds now window key = true ↔ ∃ t, l.get? key = some t ∧ now.since t < window := by
  rw [holds]
  cases l.get? key <;> simp [inForce_iff]

/-- An entry that does not hold its slot is a window old. -/
theorem not_holds_of_get? (h : l.get? key = some t) (hh : l.holds now window key = false) :
    window ≤ now.since t := by
  have hno := mt (fun hlt => holds_iff.2 ⟨t, h, hlt⟩) (Bool.eq_false_iff.1 hh)
  exact Int.not_lt.1 hno

theorem holds_congr {l' : Ledger} (h : l'.get? key = l.get? key) :
    l'.holds now window key = l.holds now window key := by
  rw [holds, holds, h]

theorem holds_put_self (hw : 0 < window) : (l.put key now).holds now window key = true :=
  holds_iff.2 ⟨now, get?_put_self l key now, by rwa [Instant.since_self]⟩

theorem holds_release_self : (l.release key).holds now window key = false := by
  simp [holds]

/-- A pruning forgets nothing that will be in force again, if entries only grow older. -/
theorem holds_prune (h : ∀ t, l.get? key = some t → u.since t ≤ now.since t) :
    (l.prune u window).2.holds now window key = l.holds now window key := by
  rw [Bool.eq_iff_iff, holds_iff, holds_iff]
  refine exists_congr fun t => ?_
  rw [get?_prune, Option.filter_eq_some_iff, inForce_iff]
  constructor
  · rintro ⟨⟨hkey, -⟩, hyoung⟩
    exact ⟨hkey, hyoung⟩
  · rintro ⟨hkey, hyoung⟩
    exact ⟨⟨hkey, Int.lt_of_le_of_lt (h t hkey) hyoung⟩, hyoung⟩

/-- The number of reservations in force. -/
def inForceCount (l : Ledger) (now : Instant) (window : Span) : Nat :=
  (l.entries.filter fun e => inForce now window e.2).length

/-- Giving back what is not in force leaves the number of what is. -/
theorem inForceCount_release (h : l.holds now window key = false) :
    (l.release key).inForceCount now window = l.inForceCount now window := by
  refine congrArg List.length ?_
  show (l.entries.filter _).filter _ = _
  rw [List.filter_filter]
  refine List.filter_congr fun e he => ?_
  -- an entry that goes was not counted
  by_cases hk : e.1 = key
  · have hno : inForce now window e.2 = false := by
      have hget : l.get? key = some e.2 := hk ▸ mem_entries_iff.1 he
      simpa [holds, hget] using h
    rw [hno, Bool.false_and]
  · simp [hk]

/-- Reserving what is not in force adds one to what is. -/
theorem inForceCount_put (hw : 0 < window) (h : l.holds now window key = false) :
    (l.put key now).inForceCount now window = l.inForceCount now window + 1 := by
  have hnow : inForce now window now = true := inForce_iff.2 (by rwa [Instant.since_self])
  rw [← inForceCount_release h, inForceCount, put, List.filter_cons, hnow, if_pos rfl,
    List.length_cons]
  rfl

end KitchenFlow.Ledger
