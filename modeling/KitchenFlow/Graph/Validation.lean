import KitchenFlow.Graph.Basic
import KitchenFlow.Graph.Search

/-!
# Validation of flows

A flow is checked in a fixed order, and the first fault is reported:

* every node is of a known kind;
* the ids of nodes are distinct, and edges join nodes;
* there is no cycle;
* exactly the edges that leave conditions name a branch;
* node by node: a condition has one edge for each branch, no edge enters a trigger, and an
  enrichment or an action has at most one outgoing edge;
* no node can be reached from two triggers;
* node by node: the configuration is right.

What passes is a flow graph.
-/

namespace KitchenFlow

/-- A node of a flow with its kind. -/
structure KindedNode where
  spec : NodeSpec
  kind : NodeKind
deriving Repr, Inhabited

/-- The id of a node. -/
def KindedNode.id (n : KindedNode) : String := n.spec.id

/-- An edge of a flow with its branch. -/
structure BranchedEdge where
  edge : Edge
  branch : Option Branch
deriving DecidableEq, Repr, Inhabited

/-- The link that an edge becomes. -/
def BranchedEdge.link (e : BranchedEdge) : Link := ⟨e.edge.source, e.edge.target, e.branch⟩

namespace Edge

/-- The arc of an edge. -/
def arc (e : Edge) : Arc := ⟨e.source, e.target⟩

/-- The handle of an edge; an empty one is none. -/
def handle? (e : Edge) : Option String := e.sourceHandle.filter (· ≠ "")

end Edge

namespace Flow

/-- The arcs of a flow. -/
def arcs (f : Flow) : Digraph := f.edges.map Edge.arc

/-- The ids of the nodes of a flow. -/
def nodeIds (f : Flow) : List String := f.nodes.map NodeSpec.id

end Flow

namespace Validation

/-! ### The checks -/

/-- Finds the kind of every node. -/
def kinded (r : Registry) : List NodeSpec → Except FlowError (List KindedNode)
  | [] => .ok []
  | n :: rest => do
    let kind ← r.resolve n.id n.kindName
    let nodes ← kinded r rest
    .ok (⟨n, kind⟩ :: nodes)

/-- The first name that occurred before; `seen` holds those that occurred already. -/
def repeated? : List String → List String → Option String
  | _, [] => none
  | seen, id :: rest => if seen.contains id then some id else repeated? (id :: seen) rest

/-- The first edge with an end that is no node, and that end. -/
def dangling? (ids : List String) : List Edge → Option (String × String)
  | [] => none
  | e :: rest =>
    if !ids.contains e.source then some (e.id, e.source)
    else if !ids.contains e.target then some (e.id, e.target)
    else dangling? ids rest

/-- The branch that an edge belongs to, given whether it leaves a condition. -/
def branchOf (e : Edge) (fromCondition : Bool) : Except BranchFault (Option Branch) :=
  match fromCondition, e.handle? with
  | true, some h =>
    match Branch.ofHandle? h with
    | some b => .ok (some b)
    | none => .error (.badHandle e.id h)
  | true, none => .error (.noHandle e.id)
  | false, some h => .error (.strayHandle e.id h)
  | false, none => .ok none

/-- Whether a name is that of a condition. -/
def isCondition (nodes : List KindedNode) (id : String) : Bool :=
  nodes.any fun n => n.id == id && n.kind.capability == .condition

/-- Finds the branch of every edge. -/
def branched (nodes : List KindedNode) : List Edge → Except FlowError (List BranchedEdge)
  | [] => .ok []
  | e :: rest =>
    match branchOf e (isCondition nodes e.source) with
    | .error fault => .error (.graph (.branch e.source fault))
    | .ok branch => (branched nodes rest).map fun edges => ⟨e, branch⟩ :: edges

/-- The number of edges that leave a node on a branch. -/
def branchCount (edges : List BranchedEdge) (id : String) (b : Branch) : Nat :=
  (edges.filter fun e => e.edge.source == id && e.branch == some b).length

/-- The number of edges that leave a node. -/
def outDegree (edges : List BranchedEdge) (id : String) : Nat :=
  (edges.filter fun e => e.edge.source == id).length

/-- Whether an edge enters a node. -/
def isEntered (edges : List BranchedEdge) (id : String) : Bool :=
  edges.any fun e => e.edge.target == id

/-- What is wrong with the edges at a node. -/
def nodeFault? (edges : List BranchedEdge) (n : KindedNode) : Option GraphError :=
  match n.kind.capability with
  | .condition =>
    [Branch.yes, Branch.no].findSome? fun b =>
      let found := branchCount edges n.id b
      if found = 1 then none else some (.branch n.id (.wrongCount b.handle found))
  | .trigger => if isEntered edges n.id then some (.triggerHasIncoming n.id) else none
  | c =>
    c.maxOutgoing.bind fun limit =>
      let found := outDegree edges n.id
      if limit < found then some (.tooManyOutgoing n.id limit found) else none

/-- The first node that is reached from a trigger and was reached from an earlier one, with both
triggers. `owners` says for the nodes reached already from which trigger they were. -/
def shared? (g : Digraph) :
    List (String × String) → List String → Option (String × String × String)
  | _, [] => none
  | owners, trigger :: rest =>
    let reached := g.discovery trigger
    match reached.findSome? fun v => (owners.lookup v).map fun first => (v, first, trigger) with
    | some found => some found
    | none => shared? g (reached.map (fun v => (v, trigger)) ++ owners) rest

/-- The ids of the triggers among some nodes. -/
def triggerIds (nodes : List KindedNode) : List String :=
  (nodes.filter fun n => n.kind.capability == .trigger).map KindedNode.id

/-- Checks the configuration of every node. -/
def configured [UrlReader] (r : Registry) : List KindedNode → Except FlowError (List GraphNode)
  | [] => .ok []
  | n :: rest => do
    let config ← r.configure n.id n.kind n.spec.config
    let nodes ← configured r rest
    .ok (⟨n.id, config⟩ :: nodes)

/-- Fails with a fault of the graph, if there is one. -/
def refuse : Option GraphError → Except FlowError Unit
  | none => .ok ()
  | some e => .error (.graph e)

end Validation

open Validation in
/-- Checks a flow. -/
def Flow.validate [UrlReader] (f : Flow) (r : Registry) : Except FlowError FlowGraph := do
  let nodes ← kinded r f.nodes
  refuse ((repeated? [] f.nodeIds).map .duplicateNode)
  refuse ((dangling? f.nodeIds f.edges).map fun (edge, node) => .danglingEdge edge node)
  refuse ((f.arcs.cyclePoint? f.nodeIds).map .cycle)
  let edges ← branched nodes f.edges
  refuse (nodes.findSome? (nodeFault? edges))
  refuse ((shared? f.arcs [] (triggerIds nodes)).map fun (node, first, second) =>
    .sharedByTriggers node first second)
  let configs ← configured r nodes
  .ok ⟨f.id, configs, edges.map BranchedEdge.link⟩

end KitchenFlow
