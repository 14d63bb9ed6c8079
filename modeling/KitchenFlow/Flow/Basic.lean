import KitchenFlow.Flow.Kind
import KitchenFlow.Json.Basic
import KitchenFlow.Time.Instant

/-!
# Flows

A flow is a list of nodes and a list of directed edges between them, named by their ids. It is what
an author edits, so nothing about it need be right: ids may repeat, edges may dangle, and a node's
kind is just a name. Whether a flow makes sense is decided later, by validation.
-/

namespace KitchenFlow

/-- The place of a node in the editor, in single precision. -/
structure CanvasPoint where
  x : Binary64
  y : Binary64
deriving DecidableEq, Repr, Inhabited

/-- The corner of the canvas. -/
def CanvasPoint.origin : CanvasPoint := ⟨.zero, .zero⟩

/-- A node as its author wrote it. -/
structure NodeSpec where
  id : String
  kindName : String
  position : CanvasPoint
  config : Fields
deriving Repr, Inhabited

/-- An edge. A handle names the branch of a condition that the edge belongs to. -/
structure Edge where
  id : String
  source : String
  target : String
  sourceHandle : Option String
  targetHandle : Option String
  edgeType : Option String
deriving DecidableEq, Repr, Inhabited

/-- A flow definition. -/
structure Flow where
  id : String
  name : String
  nodes : List NodeSpec
  edges : List Edge
  isActive : Bool
  lastPublished : Option Instant
deriving Repr, Inhabited

/-- The side of a condition that an edge leaves from. -/
inductive Branch where
  | yes
  | no
deriving DecidableEq, Repr, Inhabited

namespace Branch

def ofBool : Bool → Branch
  | true => .yes
  | false => .no

/-- The handle of a branch on an edge. -/
def handle : Branch → String
  | .yes => "true"
  | .no => "false"

def ofHandle? (s : String) : Option Branch :=
  if s = "true" then some .yes else if s = "false" then some .no else none

@[simp] theorem ofHandle?_handle (b : Branch) : ofHandle? b.handle = some b := by
  cases b <;> rfl

theorem handle_of_ofHandle? {s : String} {b : Branch} (h : ofHandle? s = some b) :
    b.handle = s := by
  unfold ofHandle? at h
  split at h
  · next hs => cases h; exact hs.symm
  · split at h
    · next hs => cases h; exact hs.symm
    · cases h

end Branch

/-- A node of a kind, at the corner of the canvas and without configuration. -/
def NodeSpec.ofKind (id : String) (kind : NodeKind) : NodeSpec :=
  ⟨id, kind.name, .origin, []⟩

namespace Flow

/-- A flow without nodes, not yet published. -/
def empty (id name : String) : Flow := ⟨id, name, [], [], false, none⟩

/-- Adds a node behind the others. -/
def addNode (f : Flow) (n : NodeSpec) : Flow := { f with nodes := f.nodes ++ [n] }

/-- Adds an edge behind the others. -/
def addEdge (f : Flow) (e : Edge) : Flow := { f with edges := f.edges ++ [e] }

/-- Joins two nodes by an edge without a branch. -/
def connect (f : Flow) (source target : String) : Flow :=
  f.addEdge ⟨"e-" ++ source ++ "-" ++ target, source, target, none, none, none⟩

/-- Joins a branch of a condition to a node. -/
def connectBranch (f : Flow) (source : String) (branch : Branch) (target : String) : Flow :=
  f.addEdge ⟨"e-" ++ source ++ "-" ++ branch.handle ++ "-" ++ target, source, target,
    some branch.handle, none, none⟩

/-- Makes a flow active from an instant on. -/
def publish (f : Flow) (t : Instant) : Flow :=
  { f with isActive := true, lastPublished := some t }

/-- The first node with an id. -/
def findNode? (f : Flow) (id : String) : Option NodeSpec := f.nodes.find? (·.id == id)

/-- The event that a node listens for, if its kind is known and a trigger. -/
def eventOf? (n : NodeSpec) : Option TriggerEvent :=
  (NodeKind.ofName? n.kindName).bind NodeKind.triggerEvent?

/-- The events that the triggers of a flow listen for, each once, in the order of the nodes. -/
def triggerEvents (f : Flow) : List TriggerEvent :=
  (f.nodes.filterMap eventOf?).foldl
    (fun events e => if events.contains e then events else events ++ [e]) []

end Flow
end KitchenFlow
