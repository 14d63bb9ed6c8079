import KitchenFlow.Adapter.Call
import KitchenFlow.Ledger.Basic

/-!
# The world outside a run

What a run leaves behind beyond its own result: the reservations of the ledger, the calls made to
collaborators, the credentials looked up, and the time that went by while waiting for them. Time is
counted in milliseconds and passes only when a call takes its time; a call that takes longer than is
allowed ends in a timeout.
-/

namespace KitchenFlow

/-- The world outside a run. -/
structure World where
  ledger : Ledger
  /-- The calls made, in order. -/
  calls : List Call
  /-- The credentials looked up, in order. -/
  lookups : List String
  /-- The milliseconds gone by. -/
  clock : Nat
deriving Repr, Inhabited

/-- What came of a call. -/
inductive CallResult where
  | answered (result : Except AdapterError String)
  | broke (message : String)

namespace World

/-- The world before anything happened. -/
def initial : World := ⟨.empty, [], [], 0⟩

/-- The number of calls to a service. -/
def callCount (w : World) (s : Service) : Nat := (w.calls.filter fun c => c.service == s).length

/-- The world some milliseconds later. -/
def wait (w : World) (ms : Nat) : World := { w with clock := w.clock + ms }

/-- Notes a call. -/
def record (w : World) (c : Call) : World := { w with calls := w.calls ++ [c] }

/-- Notes that a credential was looked up. -/
def noteLookup (w : World) (id : String) : World := { w with lookups := w.lookups ++ [id] }

/-- Makes a call and waits for its end, but no longer than the limit. -/
def perform (w : World) (limit : Nat) (responder : Responder) (call : Call) :
    CallResult × World :=
  let b := responder (w.callCount call.service) call
  let w := w.record call
  if limit < b.delayMs then (.answered (.error (.timeout limit)), w.wait limit)
  else
    match b.ending with
    | .answer r => (.answered r, w.wait b.delayMs)
    | .silence => (.answered (.error (.timeout limit)), w.wait limit)
    | .breakdown message => (.broke message, w.wait b.delayMs)

@[simp] theorem perform_ledger (w : World) (limit : Nat) (r : Responder) (c : Call) :
    (w.perform limit r c).2.ledger = w.ledger := by
  unfold perform
  dsimp only
  split
  · rfl
  · split <;> rfl

@[simp] theorem perform_calls (w : World) (limit : Nat) (r : Responder) (c : Call) :
    (w.perform limit r c).2.calls = w.calls ++ [c] := by
  unfold perform
  dsimp only
  split
  · rfl
  · split <;> rfl

end World
end KitchenFlow
