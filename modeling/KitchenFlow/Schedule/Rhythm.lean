import KitchenFlow.Schedule.Tick

/-!
# The rhythm of ticks

Ticks are due at multiples of a period. A tick that is still going on when the next one is due
delays it to its own end; after a delay of more than a few milliseconds the ticks missed in between
are left out, and the rhythm returns to multiples of the period.
-/

namespace KitchenFlow

/-- The delay in milliseconds that leaves the rhythm as it is. -/
def Rhythm.tolerance : Nat := 5

/-- When the next tick is due after one that was due at `due` and began at `begun`. -/
def Rhythm.next (period due begun : Nat) : Nat :=
  if due + tolerance < begun then begun + period - (begun - due) % period else due + period

theorem Rhythm.lt_next {period due begun : Nat} (hp : 0 < period) (h : due ≤ begun) :
    due < next period due begun := by
  unfold next
  split
  · have := Nat.mod_lt (begun - due) hp
    omega
  · omega

/-- A clock that moves on by a fixed step at every reading. -/
structure SteppedClock where
  reading : Instant
  /-- The seconds of a step. -/
  step : Int
deriving DecidableEq, Repr, Inhabited

/-- The clock after a reading. -/
def SteppedClock.advance (c : SteppedClock) : SteppedClock :=
  { c with reading := c.reading.addSeconds c.step }

/-- What ticking for a while comes to. -/
structure TickingResult where
  ticks : Nat
  events : List RunEvent
  clock : SteppedClock
  world : World

/-- Ticks until some milliseconds have gone by since `start`. The next tick is due `due`
milliseconds after the start, and every tick reads the clock. -/
def Scheduler.tickUntil (s : Scheduler) (busy : Bool) (src : FlowSource) (period : Nat)
    (hp : 0 < period) (start stop due : Nat) (clock : SteppedClock) (w : World) : TickingResult :=
  if _h : max due (w.clock - start) < stop then
    let begun := max due (w.clock - start)
    let t := s.tickUnless busy src clock.reading { w with clock := start + begun }
    let rest := tickUntil s busy src period hp start stop (Rhythm.next period due begun)
      clock.advance t.world
    { rest with ticks := rest.ticks + 1, events := t.events ++ rest.events }
  else ⟨0, [], clock, w⟩
termination_by stop - due
decreasing_by
  have h1 : due ≤ max due (w.clock - start) := Nat.le_max_left ..
  have h2 := Rhythm.lt_next hp h1
  have h3 : due < stop := Nat.lt_of_le_of_lt h1 _h
  show stop - Rhythm.next period due (max due (w.clock - start)) < stop - due
  omega

end KitchenFlow
