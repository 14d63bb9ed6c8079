import KitchenFlow.Time.Calendar

/-!
# Instants

An instant is a second, counted from 1970-01-01T00:00:00Z without leap seconds, and a fraction of
it in nanoseconds. A leap second shares the count of the second before it and has a fraction of a
whole second and more. Instants are ordered by second and then by fraction.

`since` is the time between two instants. A leap second counts only if the clock times of the two
instants show that it lies between them: the time of day of the instant that is not in the leap
second has to be on the later side.
-/

namespace KitchenFlow

/-- A point in time. -/
structure Instant where
  /-- Whole seconds from the epoch. -/
  seconds : Int
  /-- The fraction, below two thousand million; a thousand million and more in a leap second. -/
  nanos : Nat
deriving DecidableEq, Repr, Inhabited

namespace Instant

/-- The nanoseconds of a second. -/
def nanosPerSecond : Nat := 1000000000

/-- The seconds of a day. -/
def secondsPerDay : Int := 86400

/-- The beginning of the count. -/
def epoch : Instant := ⟨0, 0⟩

/-- The day of an instant. -/
def day (t : Instant) : Int := t.seconds / secondsPerDay

/-- The seconds passed since midnight. -/
def secondOfDay (t : Instant) : Int := t.seconds % secondsPerDay

/-- The instant some seconds later. -/
def addSeconds (t : Instant) (n : Int) : Instant := ⟨t.seconds + n, t.nanos⟩

/-- Earlier or equal. -/
def le (s t : Instant) : Prop :=
  s.seconds < t.seconds ∨ (s.seconds = t.seconds ∧ s.nanos ≤ t.nanos)

instance : LE Instant := ⟨le⟩

instance (s t : Instant) : Decidable (s ≤ t) :=
  inferInstanceAs (Decidable (s.seconds < t.seconds ∨ (s.seconds = t.seconds ∧ s.nanos ≤ t.nanos)))

/-- The leap second, if any, to be counted between `past` and `now`. -/
def leapBetween (now past : Instant) : Int :=
  if past.secondOfDay < now.secondOfDay ∧ nanosPerSecond ≤ past.nanos then 1
  else if now.secondOfDay < past.secondOfDay ∧ nanosPerSecond ≤ now.nanos then -1
  else 0

/-- The nanoseconds from `past` to `now`. -/
def since (now past : Instant) : Int :=
  (now.seconds - past.seconds + leapBetween now past) * nanosPerSecond
    + ((now.nanos : Int) - past.nanos)

theorem le_iff {s t : Instant} :
    s ≤ t ↔ s.seconds < t.seconds ∨ (s.seconds = t.seconds ∧ s.nanos ≤ t.nanos) := Iff.rfl

theorem le_refl (t : Instant) : t ≤ t := Or.inr ⟨rfl, Nat.le_refl _⟩

theorem le_trans {r s t : Instant} (h : r ≤ s) (k : s ≤ t) : r ≤ t := by
  rw [le_iff] at *
  omega

/-- Without a leap second on either side, the time between two instants is the difference of their
counts. -/
theorem since_of_lt {now past : Instant} (hn : now.nanos < nanosPerSecond)
    (ha : past.nanos < nanosPerSecond) :
    since now past = (now.seconds - past.seconds) * nanosPerSecond
      + ((now.nanos : Int) - past.nanos) := by
  have : leapBetween now past = 0 := by
    unfold leapBetween
    rw [if_neg (by omega), if_neg (by omega)]
  rw [since, this, Int.add_zero]

@[simp] theorem since_self (t : Instant) : since t t = 0 := by
  unfold since leapBetween
  simp

end Instant

/-- A span of time in nanoseconds. -/
abbrev Span := Int

namespace Span

/-- A number of seconds. -/
def ofSeconds (n : Int) : Span := n * Instant.nanosPerSecond

/-- A number of milliseconds. -/
def ofMillis (n : Int) : Span := n * 1000000

/-- A number of days. -/
def ofDays (n : Int) : Span := ofSeconds (n * Instant.secondsPerDay)

/-- The longest span, either way. -/
def longest : Span := ofMillis (Int.pow 2 63 - 1)

/-- A span, unless it is too long. -/
def checked? (s : Span) : Option Span := if s.natAbs ≤ longest.natAbs then some s else none

/-- The whole days of a span, rounded toward zero. -/
def wholeDays (s : Span) : Int := Int.tdiv s (ofDays 1)

end Span
end KitchenFlow
