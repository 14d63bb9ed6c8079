import KitchenFlow.Config.Typed

/-!
# Flow graphs

A flow graph is a flow that has been found valid: every node has a typed configuration, and every
link leads from node to node, on a branch if it leaves a condition. Links are kept in the order of
the flow, and that order decides where a run goes first.
-/

namespace KitchenFlow

/-- A node with its configuration. -/
structure GraphNode where
  id : String
  config : NodeConfig
deriving DecidableEq, Repr, Inhabited

/-- The kind of a node. -/
def GraphNode.kind (n : GraphNode) : NodeKind := n.config.kind

/-- What a node may do. -/
def GraphNode.capability (n : GraphNode) : Capability := n.kind.capability

/-- An edge of a valid flow. -/
structure Link where
  source : String
  target : String
  branch : Option Branch
deriving DecidableEq, Repr, Inhabited

/-- A valid flow. -/
structure FlowGraph where
  flowId : String
  nodes : List GraphNode
  links : List Link
deriving DecidableEq, Repr, Inhabited

namespace FlowGraph

/-- The node with an id. -/
def node? (g : FlowGraph) (id : String) : Option GraphNode := g.nodes.find? (·.id == id)

/-- The links that leave a node, on one branch or on any. -/
def outgoing (g : FlowGraph) (id : String) (branch : Option Branch) : List Link :=
  g.links.filter fun l => l.source == id && (branch.isNone || l.branch == branch)

/-- The nodes that follow a node, on one branch or on any. -/
def successors (g : FlowGraph) (id : String) (branch : Option Branch) : List GraphNode :=
  (g.outgoing id branch).filterMap fun l => g.node? l.target

/-- Whether no link enters a node. -/
def isEntry (g : FlowGraph) (id : String) : Bool := !g.links.any (·.target == id)

/-- The triggers at which a run can start. -/
def roots (g : FlowGraph) : List GraphNode :=
  g.nodes.filter fun n => n.capability == .trigger && g.isEntry n.id

end FlowGraph
end KitchenFlow
