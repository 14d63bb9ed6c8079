import KitchenFlow.Json.Decoder
import KitchenFlow.Time.Instant

/-!
# The dispatch ledger

The ledger remembers which actions were dispatched when, so that no action is dispatched twice for
one item within a window of time. To `reserve` an action is to ask for its slot: it is refused while
an earlier reservation is younger than the window. An action that did not happen is `release`d, and
`prune` forgets what is too old to matter.
-/

namespace KitchenFlow

/-- What a reservation is for: an action node of a flow, acting on an item. -/
structure ActionKey where
  flowId : String
  itemId : String
  nodeId : String
deriving DecidableEq, Repr, Inhabited

namespace ActionKey

def toJson (k : ActionKey) : Json :=
  .object
    [("flow_id", .string k.flowId), ("item_id", .string k.itemId), ("node_id", .string k.nodeId)]

def record : Record ActionKey :=
  ActionKey.mk <$> .required "flow_id" Decoder.string <*> .required "item_id" Decoder.string
    <*> .required "node_id" Decoder.string

def decoder : Decoder ActionKey := record.decode "DedupKey"

end ActionKey

/-- The times of the latest reservations, one for each key. -/
@[ext]
structure Ledger where
  entries : List (ActionKey × Instant)
  distinct : (entries.map Prod.fst).Nodup
deriving Repr

namespace Ledger

def empty : Ledger := ⟨[], .nil⟩

instance : Inhabited Ledger := ⟨empty⟩

/-- The number of reservations. -/
def size (l : Ledger) : Nat := l.entries.length

/-- The time of the reservation of a key. -/
def get? (l : Ledger) (key : ActionKey) : Option Instant := l.entries.lookup key

/-- Whether a reservation made at `t` is still in force. -/
def inForce (now : Instant) (window : Span) (t : Instant) : Bool := now.since t < window

/-- Whether a key has a reservation in force. -/
def holds (l : Ledger) (now : Instant) (window : Span) (key : ActionKey) : Bool :=
  (l.get? key).any (inForce now window)

/-- Keeps the reservations with a property. -/
def filter (l : Ledger) (keep : ActionKey × Instant → Bool) : Ledger :=
  ⟨l.entries.filter keep, (List.filter_sublist.map _).nodup l.distinct⟩

/-- Forgets a reservation. -/
def release (l : Ledger) (key : ActionKey) : Ledger := l.filter fun e => e.1 ≠ key

theorem not_mem_release (l : Ledger) (key : ActionKey) :
    key ∉ (l.release key).entries.map Prod.fst := by
  simp [release, filter]

/-- Notes a reservation, in place of an earlier one. -/
def put (l : Ledger) (key : ActionKey) (now : Instant) : Ledger :=
  ⟨(key, now) :: (l.release key).entries,
    List.nodup_cons.2 ⟨l.not_mem_release key, (l.release key).distinct⟩⟩

/-- Asks for the slot of a key: says whether it was granted. -/
def reserve (l : Ledger) (key : ActionKey) (now : Instant) (window : Span) : Bool × Ledger :=
  if l.holds now window key then (false, l) else (true, l.put key now)

/-- Forgets the reservations no longer in force: says how many they were. -/
def prune (l : Ledger) (now : Instant) (window : Span) : Nat × Ledger :=
  let kept := l.filter fun e => inForce now window e.2
  (l.size - kept.size, kept)

/-! ### What the operations do to the reservations -/

@[simp] theorem get?_empty (key : ActionKey) : empty.get? key = none := rfl

@[simp] theorem get?_release_self (l : Ledger) (key : ActionKey) :
    (l.release key).get? key = none := by
  simp only [get?, release, filter]
  induction l.entries with
  | nil => rfl
  | cons e rest ih =>
    rw [List.filter_cons]
    split
    · next h =>
      have h : ¬ e.1 = key := by simpa using h
      rw [List.lookup_cons, beq_false_of_ne (Ne.symm h)]
      exact ih
    · exact ih

theorem get?_release_of_ne (l : Ledger) {key other : ActionKey} (h : other ≠ key) :
    (l.release key).get? other = l.get? other := by
  simp only [get?, release, filter]
  induction l.entries with
  | nil => rfl
  | cons e rest ih =>
    obtain ⟨k, t⟩ := e
    rw [List.filter_cons]
    split
    · rw [List.lookup_cons, List.lookup_cons, ih]
    · next hk =>
      have hk : k = key := by simpa using hk
      rw [List.lookup_cons, beq_false_of_ne (hk ▸ h)]
      exact ih

@[simp] theorem get?_put_self (l : Ledger) (key : ActionKey) (now : Instant) :
    (l.put key now).get? key = some now := by
  simp [get?, put]

theorem get?_put_of_ne (l : Ledger) {key other : ActionKey} (now : Instant) (h : other ≠ key) :
    (l.put key now).get? other = l.get? other := by
  have : (l.put key now).get? other = (l.release key).get? other := by
    simp only [get?, put]
    rw [List.lookup_cons, beq_false_of_ne h]
  rw [this, get?_release_of_ne l h]

end Ledger
end KitchenFlow
