import KitchenFlow.Graph.Basic
import KitchenFlow.Run.Step

/-!
# Walking a flow graph

A run walks a graph depth first: it enters a node, does what is to be done there, and goes on to the
nodes that follow, the first of them and all that comes of it before the second. A node is entered
once at most; coming to it again is noted and nothing more. The walk ends early when a collaborator
breaks down.

The nodes still to come to are kept on a stack. A walk ends because a node entered uses up the links
that leave it.
-/

namespace KitchenFlow

namespace FlowGraph

/-- The links that leave nodes not yet visited. -/
def openLinks (g : FlowGraph) (visited : List String) : Nat :=
  (g.links.filter fun l => !visited.contains l.source).length

/-- Visiting a node closes exactly the links that leave it. -/
theorem openLinks_cons (g : FlowGraph) {visited : List String} {id : String}
    (h : visited.contains id = false) :
    g.openLinks (id :: visited) + (g.links.filter fun l => l.source == id).length
      = g.openLinks visited := by
  unfold openLinks
  induction g.links with
  | nil => rfl
  | cons l rest ih =>
    have hs : (id :: visited).contains l.source = (l.source == id || visited.contains l.source) :=
      List.contains_cons
    cases hb : l.source == id with
    | true =>
      have hd : visited.contains l.source = false := eq_of_beq hb ▸ h
      rw [hb, Bool.true_or] at hs
      simp only [List.filter_cons, hs, hd, hb, Bool.not_true, Bool.not_false, Bool.false_eq_true,
        if_true, if_false, List.length_cons]
      omega
    | false =>
      rw [hb, Bool.false_or] at hs
      cases hd : visited.contains l.source <;> rw [hd] at hs <;>
        simp only [List.filter_cons, hs, hd, hb, Bool.not_true, Bool.not_false, Bool.false_eq_true,
          if_true, if_false, List.length_cons] <;> omega

/-- The nodes that a run goes on to after a node. -/
def follow (g : FlowGraph) (id : String) : Next → List GraphNode
  | .stop => []
  | .go branch => g.successors id branch

theorem length_follow_le (g : FlowGraph) (id : String) (n : Next) :
    (g.follow id n).length ≤ (g.links.filter fun l => l.source == id).length := by
  cases n with
  | stop => simp [follow]
  | go branch =>
    have h : (g.outgoing id branch).length ≤ (g.links.filter fun l => l.source == id).length := by
      unfold outgoing
      induction g.links with
      | nil => simp
      | cons l rest ih =>
        simp only [List.filter_cons]
        cases h1 : l.source == id
        · simpa using ih
        · cases h2 : (branch.isNone || l.branch == branch) <;>
            simp only [Bool.true_and, Bool.false_eq_true, if_true, if_false,
              List.length_cons] <;> omega
    exact Nat.le_trans (List.length_filterMap_le _ _) h

end FlowGraph

/-- Enters a node. -/
def RunM.enter (n : GraphNode) : RunM Unit := do
  mark n.id
  note ("Entering node " ++ n.id ++ " (" ++ n.kind.name ++ ")")
  emit (.nodeEntered n.id n.kind)

namespace FlowGraph

/-- Enters the nodes of a stack, the first of them first, and all that follows from them. Gives the
payload at the end. -/
def traverse (g : FlowGraph) (e : Engine) (x : RunContext) (stack : List GraphNode)
    (visited : List String) (p : Payload) : RunM Payload :=
  match stack with
  | [] => return p
  | n :: rest =>
    if _h : visited.contains n.id then do
      RunM.note ("Node " ++ n.id ++ " already visited; not re-entering")
      g.traverse e x rest visited p
    else do
      RunM.enter n
      let (p, next) ← n.config.task.execute e x n.id p
      g.traverse e x (g.follow n.id next ++ rest) (n.id :: visited) p
termination_by stack.length + g.openLinks visited
decreasing_by
  · simp
  · have h1 := g.openLinks_cons (Bool.eq_false_iff.2 _h)
    have h2 := g.length_follow_le n.id next
    simp only [List.length_append, List.length_cons]
    omega

/-- Traverses a graph from each of several nodes in turn, nothing being visited at the start of
each. -/
def traverseAll (g : FlowGraph) (e : Engine) (x : RunContext) (roots : List GraphNode)
    (p : Payload) : RunM Payload :=
  roots.foldlM (fun p root => g.traverse e x [root] [] p) p

end FlowGraph
end KitchenFlow
