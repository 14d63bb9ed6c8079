import KitchenFlow.Time.Instant

/-!
# The time since an instant

Time goes on, but the time measured since an instant need not: a leap second is counted while it
lasts and, depending on the time of day, no more when it is over. Outside leap seconds the measure
grows with time.
-/

namespace KitchenFlow

namespace Instant

/-- An instant within a leap second. -/
def InLeapSecond (t : Instant) : Prop := nanosPerSecond ≤ t.nanos

instance (t : Instant) : Decidable t.InLeapSecond :=
  inferInstanceAs (Decidable (nanosPerSecond ≤ t.nanos))

/-- Outside leap seconds, the time since an instant grows. -/
theorem since_mono {past t u : Instant} (htu : t ≤ u) (hp : ¬ past.InLeapSecond)
    (ht : ¬ t.InLeapSecond) (hu : ¬ u.InLeapSecond) : t.since past ≤ u.since past := by
  have hp := Nat.not_le.1 hp
  have ht := Nat.not_le.1 ht
  have hu := Nat.not_le.1 hu
  rw [since_of_lt ht hp, since_of_lt hu hp]
  simp only [nanosPerSecond] at hp ht hu ⊢
  rcases le_iff.1 htu with h | ⟨h, hn⟩ <;> omega

end Instant

end KitchenFlow
