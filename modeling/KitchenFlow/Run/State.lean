import KitchenFlow.Run.Event
import KitchenFlow.Run.Result
import KitchenFlow.Run.World

/-!
# Runs on their way

While a run is on its way it keeps four records: the nodes that it has entered, the lines that it
has noted, its counts, and the events that it has told. Each of them is kept by itself, and a part
of a run writes to it where the matter arises. A part of a run also acts on the world, and breaks
off if a collaborator breaks down; what has been told and done until then stays.
-/

namespace KitchenFlow

/-- What a run has left so far. -/
structure RunState where
  /-- The nodes entered, in order. -/
  trace : List String
  /-- The lines noted, in order. -/
  log : List String
  /-- The counts. -/
  stats : RunStats
  /-- The events told, in order. -/
  events : List RunEvent
  world : World

/-- A run that has not begun. -/
def RunState.start (w : World) : RunState := ⟨[], [], .none, [], w⟩

/-- A part of a run. -/
abbrev RunM := ExceptT String (StateM RunState)

namespace RunM

variable {α β : Type}

/-- Puts a node on the trace. -/
def mark (id : String) : RunM Unit := modify fun s => { s with trace := s.trace ++ [id] }

/-- Notes a line. -/
def note (line : String) : RunM Unit := modify fun s => { s with log := s.log ++ [line] }

/-- Tells of an event. -/
def emit (event : RunEvent) : RunM Unit := modify fun s => { s with events := s.events ++ [event] }

/-- Counts one more. -/
def count (more : RunStats → RunStats) : RunM Unit :=
  modify fun s => { s with stats := more s.stats }

/-- Does something outside of the run. -/
def outside (act : World → α × World) : RunM α :=
  modifyGet fun s => ((act s.world).1, { s with world := (act s.world).2 })

/-- What a part of a run comes to, and what the run has left then. -/
def runFrom (m : RunM α) (s : RunState) : Except String α × RunState := (ExceptT.run m).run s

@[simp] theorem runFrom_pure (a : α) (s : RunState) : runFrom (pure a) s = (.ok a, s) := rfl

@[simp] theorem runFrom_throw (message : String) (s : RunState) :
    runFrom (throw message : RunM α) s = (.error message, s) := rfl

@[simp] theorem runFrom_mark (id : String) (s : RunState) :
    (mark id).runFrom s = (.ok (), { s with trace := s.trace ++ [id] }) := rfl

@[simp] theorem runFrom_note (line : String) (s : RunState) :
    (note line).runFrom s = (.ok (), { s with log := s.log ++ [line] }) := rfl

@[simp] theorem runFrom_emit (event : RunEvent) (s : RunState) :
    (emit event).runFrom s = (.ok (), { s with events := s.events ++ [event] }) := rfl

@[simp] theorem runFrom_count (more : RunStats → RunStats) (s : RunState) :
    (count more).runFrom s = (.ok (), { s with stats := more s.stats }) := rfl

@[simp] theorem runFrom_outside (act : World → α × World) (s : RunState) :
    (outside act).runFrom s = (.ok (act s.world).1, { s with world := (act s.world).2 }) := rfl

/-- What comes next goes on from what the part before has left. -/
theorem runFrom_bind (m : RunM α) (f : α → RunM β) (s : RunState) :
    (m >>= f).runFrom s =
      match m.runFrom s with
      | (.ok a, s') => (f a).runFrom s'
      | (.error message, s') => (.error message, s') := by
  have hm : (ExceptT.run m).run s = m.runFrom s := rfl
  rw [runFrom, ExceptT.run_bind, StateT.run_bind, hm]
  rcases m.runFrom s with ⟨_ | a, s'⟩ <;> rfl

end RunM
end KitchenFlow
