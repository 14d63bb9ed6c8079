import KitchenFlow.Graph.Validation
import Std.Data.HashMap

/-!
# Graphs in store

A flow graph can be kept by places. The nodes stand in a row, an index says which place belongs to
an id, and an edge joins two places. To find the edges at a place fast, they are listed there, in
whatever order suits the list; so each edge carries its own place among the edges, by which what
follows a node is put in order again when it is asked for.

To put a flow in store is to check it as `Flow.validate` does. All edges are put in before the
branches are found, and get their branches in a second round.
-/

namespace KitchenFlow

/-- An edge in store. -/
structure StoredEdge (n : Nat) where
  source : Fin n
  target : Fin n
  /-- Its place among the edges. -/
  order : Nat
  branch : Option Branch
deriving DecidableEq, Repr

/-- A way to list the edges at a place: all that leave it, or all that enter it, in any order. -/
structure Listing where
  leaving {n : Nat} : List (StoredEdge n) → Fin n → List (StoredEdge n)
  entering {n : Nat} : List (StoredEdge n) → Fin n → List (StoredEdge n)
  leaving_perm {n : Nat} (edges : List (StoredEdge n)) (i : Fin n) :
    (leaving edges i).Perm (edges.filter fun e => e.source == i)
  entering_perm {n : Nat} (edges : List (StoredEdge n)) (i : Fin n) :
    (entering edges i).Perm (edges.filter fun e => e.target == i)

/-- The edge put in last is listed first. -/
def Listing.latestFirst : Listing where
  leaving edges i := (edges.filter fun e => e.source == i).reverse
  entering edges i := (edges.filter fun e => e.target == i).reverse
  leaving_perm _ _ := List.reverse_perm _
  entering_perm _ _ := List.reverse_perm _

/-- A flow graph in store. -/
structure StoredGraph where
  flowId : String
  size : Nat
  nodes : Vector GraphNode size
  index : Std.HashMap String (Fin size)
  edges : List (StoredEdge size)

namespace StoredGraph

/-- The node with an id. -/
def node? (s : StoredGraph) (id : String) : Option GraphNode := s.index[id]?.map s.nodes.get

/-- The nodes that follow a node, on one branch or on any. -/
def successors (s : StoredGraph) (l : Listing) (id : String) (branch : Option Branch) :
    List GraphNode :=
  match s.index[id]? with
  | none => []
  | some i =>
    let found := (l.leaving s.edges i).filter fun e => branch.isNone || e.branch == branch
    let targets := (found.map fun e => (e.order, e.target)).mergeSort fun a b => a.1 ≤ b.1
    targets.map fun (_, target) => s.nodes.get target

/-- The triggers at which a run can start. -/
def roots (s : StoredGraph) : List GraphNode :=
  let entered := s.edges.map StoredEdge.target
  (s.nodes.toList.filter fun n => n.capability == .trigger).filter fun n =>
    !s.index[n.id]?.any entered.contains

end StoredGraph

namespace Storage

open Validation

variable {n : Nat}

/-- An edge of a flow with the places of its ends. -/
structure PlacedEdge (n : Nat) where
  source : Fin n
  target : Fin n
  edge : Edge

/-- The id of the node at a place. -/
def idAt (nodes : Vector KindedNode n) (i : Fin n) : String := (nodes.get i).id

/-- Finds the kind of every node. -/
def kinded (r : Registry) (specs : Vector NodeSpec n) : Except FlowError (Vector KindedNode n) :=
  specs.mapM fun s => (r.resolve s.id s.kindName).map fun k => ⟨s, k⟩

/-- Enters places in the index under the ids of their nodes, none of which may be there before. -/
def indexed (nodes : Vector KindedNode n) : Std.HashMap String (Fin n) → List (Fin n) →
    Except FlowError (Std.HashMap String (Fin n))
  | index, [] => .ok index
  | index, i :: rest =>
    if index.contains (idAt nodes i) then .error (.graph (.duplicateNode (idAt nodes i)))
    else indexed nodes (index.insert (idAt nodes i) i) rest

/-- The place of an end of an edge. -/
def placeOf (index : Std.HashMap String (Fin n)) (e : Edge) (id : String) :
    Except FlowError (Fin n) :=
  match index[id]? with
  | some i => .ok i
  | none => .error (.graph (.danglingEdge e.id id))

/-- Finds the places of the ends of every edge. -/
def placed (index : Std.HashMap String (Fin n)) (edges : List Edge) :
    Except FlowError (List (PlacedEdge n)) :=
  edges.mapM fun e => do
    let source ← placeOf index e e.source
    let target ← placeOf index e e.target
    .ok ⟨source, target, e⟩

/-- Puts edges in store, without branches. -/
def stored (edges : List (PlacedEdge n)) : List (StoredEdge n) :=
  edges.mapIdx fun order e => ⟨e.source, e.target, order, none⟩

/-- Gives the edges in store their branches. -/
def branched (nodes : Vector KindedNode n) (kept : List (StoredEdge n))
    (edges : List (PlacedEdge n)) : Except FlowError (List (StoredEdge n)) :=
  (kept.zip edges).mapM fun (k, e) =>
    match branchOf e.edge ((nodes.get e.source).kind.capability == .condition) with
    | .error fault => .error (.graph (.branch (idAt nodes e.source) fault))
    | .ok branch => .ok { k with branch }

/-- What is wrong with the edges at a place. -/
def faultAt? (l : Listing) (nodes : Vector KindedNode n) (edges : List (StoredEdge n))
    (i : Fin n) : Option GraphError :=
  match (nodes.get i).kind.capability with
  | .condition =>
    [Branch.yes, Branch.no].findSome? fun b =>
      let found := ((l.leaving edges i).filter fun e => e.branch == some b).length
      if found = 1 then none else some (.branch (idAt nodes i) (.wrongCount b.handle found))
  | .trigger =>
    if (l.entering edges i).isEmpty then none else some (.triggerHasIncoming (idAt nodes i))
  | c =>
    c.maxOutgoing.bind fun limit =>
      let found := (l.leaving edges i).length
      if limit < found then some (.tooManyOutgoing (idAt nodes i) limit found) else none

/-- The arcs of the edges in store. -/
def arcs (nodes : Vector KindedNode n) (edges : List (StoredEdge n)) : Digraph :=
  edges.map fun e => ⟨idAt nodes e.source, idAt nodes e.target⟩

/-- Checks the configuration of every node. -/
def configured [UrlReader] (r : Registry) (nodes : Vector KindedNode n) :
    Except FlowError (Vector GraphNode n) :=
  nodes.mapM fun n => (r.configure n.id n.kind n.spec.config).map fun c => ⟨n.id, c⟩

end Storage

open Validation in
/-- Checks a flow and puts it in store. -/
def Flow.store [UrlReader] (f : Flow) (l : Listing) (r : Registry) :
    Except FlowError StoredGraph := do
  let nodes ← Storage.kinded r f.nodes.toArray.toVector
  let index ← Storage.indexed nodes ∅ (List.finRange _)
  let edges ← Storage.placed index f.edges
  let kept := Storage.stored edges
  refuse (((Storage.arcs nodes kept).cyclePoint? f.nodeIds).map .cycle)
  let kept ← Storage.branched nodes kept edges
  refuse ((List.finRange _).findSome? (Storage.faultAt? l nodes kept))
  refuse ((shared? (Storage.arcs nodes kept) [] (triggerIds nodes.toList)).map
    fun (node, first, second) => .sharedByTriggers node first second)
  let configs ← Storage.configured r nodes
  .ok ⟨f.id, _, configs, index, kept⟩

end KitchenFlow
