/-!
# The guard of ticks

Ticks of one scheduler are made under a guard: a flag that says whether one is going on. It is asked
for in one step, so of several ticks that ask for it at a time one is let in.
-/

namespace KitchenFlow

/-- The guard that ticks are made under. -/
structure TickGuard where
  /-- A tick is going on. -/
  running : Bool
deriving DecidableEq, Repr

namespace TickGuard

/-- The guard while no tick is going on. -/
def free : TickGuard := ⟨false⟩

/-- Asks for the guard, and says whether it is granted. -/
def tryAcquire (g : TickGuard) : Bool × TickGuard :=
  if g.running then (false, g) else (true, ⟨true⟩)

/-- Gives the guard back, whoever has it. -/
def release (_ : TickGuard) : TickGuard := free

variable {g g' : TickGuard}

theorem tryAcquire_fst (g : TickGuard) : g.tryAcquire.1 = !g.running := by
  obtain ⟨running⟩ := g
  cases running <;> rfl

theorem tryAcquire_eq_false_iff : g.tryAcquire = (false, g') ↔ g.running = true ∧ g' = g := by
  obtain ⟨running⟩ := g
  cases running <;> simp [tryAcquire, eq_comm]

theorem tryAcquire_eq_true_iff :
    g.tryAcquire = (true, g') ↔ g.running = false ∧ g' = ⟨true⟩ := by
  obtain ⟨running⟩ := g
  cases running <;> simp [tryAcquire, eq_comm]

end TickGuard
end KitchenFlow
