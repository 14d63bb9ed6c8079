import KitchenFlow.Command.Example
import KitchenFlow.Proofs.Graph.Storage

/-!
# What a graph says of its flow

A run never looks at the flow that it belongs to. It asks the graph, and the graph can be asked for
three things: the node with an id, the nodes that follow a node, and the roots. What it has to
answer can be said of the flow alone, without any links or places, and is said by
`GraphView.Presents`. The main statement is that the graph of an accepted flow answers so, and that
it does not matter whether the graph or what is in store is asked:

    presents_of_validate   f.validate r = .ok g →  g.view.Presents r f  and
                           f.store l r  succeeds, with  s.view l = g.view

Three facts make it up. Nodes stand in the graph as in the flow, each with its configuration
(`Passed.becomes`); links stand in the graph as edges do in the flow, and the branch of a link is
what the handle of its edge says (`Passed.map_target_outgoing`); and every link leads to a node, so
that none is lost when the nodes at their ends are looked up (`Depicts.map_id_successors`).
-/

namespace KitchenFlow

open Fallible

/-! ## Questions and answers -/

/-- What a graph can be asked. -/
structure GraphView where
  node? : String → Option GraphNode
  successors : String → Option Branch → List GraphNode
  roots : List GraphNode

/-- The answers of a graph. -/
def FlowGraph.view (g : FlowGraph) : GraphView := ⟨g.node?, g.successors, g.roots⟩

/-- The answers of a graph in store. -/
def StoredGraph.view (s : StoredGraph) (l : Listing) : GraphView :=
  ⟨s.node?, s.successors l, s.roots⟩

theorem StoredGraph.Sound.view_eq {s : StoredGraph} (h : s.Sound) (l : Listing) :
    s.view l = s.graph.view := by
  rw [StoredGraph.view, FlowGraph.view, funext h.node?_eq, h.roots_eq,
    funext fun id => funext (h.successors_eq l id)]

/-- Whether a node is of a kind of trigger. -/
def NodeSpec.isTrigger (r : Registry) (n : NodeSpec) : Bool :=
  (r.resolve? n.kindName).any fun k => k.capability == .trigger

/-- What is to be answered is said by the flow. -/
structure GraphView.Presents [UrlReader] (v : GraphView) (r : Registry) (f : Flow) : Prop where
  /-- What follows a node is what the edges that leave it lead to, in their order. -/
  follows : ∀ id, (v.successors id none).map GraphNode.id = (f.leaving id).map Edge.target
  /-- What follows it on a branch is what those of them with the handle of the branch lead to. -/
  followsBy : ∀ id b, (v.successors id (some b)).map GraphNode.id =
    (f.leavingBy id b.handle).map Edge.target
  /-- One node follows a condition on each branch. -/
  forks : ∀ n ∈ f.nodes, ∀ k, n.IsKind r k → k.capability = .condition →
    ∀ b, ∃ m, v.successors n.id (some b) = [m]
  /-- The roots are all triggers of the flow, in their order. -/
  starts : v.roots.map GraphNode.id = (f.nodes.filter (·.isTrigger r)).map NodeSpec.id
  /-- What follows a node, and what is a root, is the node that is found by its id. -/
  found : ∀ n, (n ∈ v.roots ∨ ∃ id b, n ∈ v.successors id b) → v.node? n.id = some n
  /-- A node of the flow is found by its id, with its kind and its configuration checked. -/
  node : ∀ n ∈ f.nodes, ∃ k c, n.IsKind r k ∧ r.configure n.id k n.config = .ok c ∧
    c.kind = k ∧ v.node? n.id = some ⟨n.id, c⟩
  /-- Nothing else is found. -/
  absent : ∀ id, v.node? id = none ↔ id ∉ f.nodeIds

/-! ## Nodes -/

theorem NodeSpec.IsKind.isTrigger {r : Registry} {n : NodeSpec} {k : NodeKind}
    (h : n.IsKind r k) : n.isTrigger r = (k.capability == .trigger) := by
  rw [NodeSpec.isTrigger, NodeSpec.isKind_iff.1 h, Option.any_some]

/-- A node of a flow becomes a node of a graph: it gets a kind and a configuration. -/
structure NodeSpec.Becomes [UrlReader] (r : Registry) (s : NodeSpec) (n : GraphNode) : Prop where
  id : n.id = s.id
  kind : s.IsKind r n.kind
  config : r.configure s.id n.kind s.config = .ok n.config

/-- It is a trigger exactly if it was of a kind of trigger. -/
theorem map_id_triggers [UrlReader] {r : Registry} {specs : List NodeSpec} {ns : List GraphNode}
    (h : List.Forall₂ (NodeSpec.Becomes r) specs ns) :
    (ns.filter fun n => n.capability = .trigger).map GraphNode.id =
      (specs.filter (·.isTrigger r)).map NodeSpec.id := by
  induction h with
  | nil => rfl
  | @cons s n _ _ hn _ ih =>
    have htrigger : s.isTrigger r = decide (n.capability = .trigger) := by
      rw [hn.kind.isTrigger, Bool.eq_iff_iff, beq_iff_eq, decide_eq_true_iff]
      rfl
    rw [List.filter_cons, List.filter_cons, htrigger]
    split
    · rw [List.map_cons, List.map_cons, ih, hn.id]
    · exact ih

namespace FlowGraph

variable {g : FlowGraph} {r : Registry} {f : Flow}

theorem Depicts.node?_eq_some_iff [UrlReader] (h : g.Depicts r f) (hf : f.WellFormed r)
    {id : String}
    {n : GraphNode} : g.node? id = some n ↔ n ∈ g.nodes ∧ n.id = id := by
  refine ⟨mem_nodes_of_node?, ?_⟩
  rintro ⟨hn, rfl⟩
  cases hm : g.node? n.id with
  | none => exact (List.find?_eq_none.1 hm n hn (beq_self_eq_true _)).elim
  | some m =>
    obtain ⟨hmem, hid⟩ := mem_nodes_of_node? hm
    rw [h.eq_of_id hf hmem hn hid]

theorem Depicts.node?_eq_none_iff (h : g.Depicts r f) {id : String} :
    g.node? id = none ↔ id ∉ f.nodeIds := by
  rw [node?, List.find?_eq_none, ← h.nodeIds, List.mem_map]
  simp

theorem Depicts.node?_of_mem [UrlReader] (h : g.Depicts r f) (hf : f.WellFormed r) {n : GraphNode}
    (hn : n ∈ g.roots ∨ ∃ id b, n ∈ g.successors id b) : g.node? n.id = some n := by
  refine (h.node?_eq_some_iff hf).2 ⟨?_, rfl⟩
  rcases hn with hn | ⟨id, b, hn⟩
  · exact (mem_roots hn).1
  · exact (mem_successors hn).1

/-- Each link leads to a node, so what follows a node are the ends of its links, one by one. -/
theorem Depicts.map_id_successors [UrlReader] (h : g.Depicts r f) (hf : f.WellFormed r)
    (id : String)
    (b : Option Branch) :
    (g.successors id b).map GraphNode.id = (g.outgoing id b).map Link.target := by
  rw [successors, List.map_filterMap, ← List.filterMap_eq_map]
  refine List.filterMap_congr fun k hk => ?_
  have harrow : f.arcs.Arrow k.source k.target :=
    h.arcs ▸ List.mem_map.2 ⟨k, (List.mem_filter.1 hk).1, rfl⟩
  obtain ⟨e, he, -, htarget⟩ := Flow.arrow_arcs_iff.1 harrow
  have hmem : k.target ∈ f.nodeIds := htarget ▸ (hf.joined e he).2
  obtain ⟨n, hn⟩ := Option.ne_none_iff_exists'.1 (mt h.node?_eq_none_iff.1 (not_not.2 hmem))
  rw [hn, Option.map_some, (mem_nodes_of_node? hn).2]
  rfl

end FlowGraph

/-! ## Accepted flows -/

namespace Validation

variable {r : Registry} {f : Flow} {nodes : List KindedNode} {edges : List BranchedEdge}
  {configs : List GraphNode}

theorem Passed.becomes [UrlReader] (h : Passed r f nodes edges configs) :
    List.Forall₂ (NodeSpec.Becomes r) f.nodes configs := by
  obtain ⟨hspecs, hkinds⟩ := kinded_eq_ok_iff.1 h.kinds
  rw [← hspecs, List.forall₂_map_left_iff]
  have hall := (List.forall₂_and_left _ _).2 ⟨hkinds, configured_eq_ok_iff.1 h.configs⟩
  refine hall.imp fun n g ⟨hkind, hid, hconfig⟩ => ?_
  have hk : g.kind = n.kind := Registry.kind_of_configure hconfig
  exact ⟨hid, hk ▸ hkind, hk ▸ hconfig⟩

/-- The branch of an edge is the one with its handle, whatever it leaves. -/
theorem branch_eq_some_iff {e : Edge} {fromCondition : Bool} {o : Option Branch}
    (h : branchOf e fromCondition = .ok o) (b : Branch) :
    o = some b ↔ e.sourceHandle = some b.handle := by
  cases fromCondition with
  | true =>
    obtain ⟨c, hc, rfl⟩ := branchOf_condition_eq_ok_iff.1 h
    rw [hc]
    cases b <;> cases c <;> decide
  | false =>
    -- an empty handle is allowed here, but no branch goes by it
    obtain ⟨hhandle, rfl⟩ := branchOf_plain_eq_ok_iff.1 h
    rcases hhandle with hhandle | hhandle <;> rw [hhandle] <;> cases b <;> decide

/-- If a test of edges says which of them are on a branch, the links that leave a node on it lead
where the edges do that pass the test. -/
theorem Passed.map_target_outgoing [UrlReader] (h : Passed r f nodes edges configs) {g : FlowGraph}
    (hlinks : g.links = edges.map BranchedEdge.link) {b : Option Branch} {p : Edge → Bool}
    (hp : ∀ e ∈ edges, (b.isNone || e.branch == b) = p e.edge) (id : String) :
    (g.outgoing id b).map Link.target = ((f.leaving id).filter p).map Edge.target := by
  have hfilter : edges.filter
      ((fun l => l.source == id && (b.isNone || l.branch == b)) ∘ BranchedEdge.link) =
        edges.filter fun e =>
          (p ∘ BranchedEdge.edge) e && ((fun e => e.source == id) ∘ BranchedEdge.edge) e := by
    refine List.filter_congr fun e he => ?_
    rw [Function.comp_apply (f := p), ← hp e he, Bool.and_comm]
    rfl
  rw [FlowGraph.outgoing, hlinks, Flow.leaving, ← (branched_eq_ok_iff.1 h.branches).1,
    List.filter_map, List.filter_map, List.filter_map, List.filter_filter, List.map_map,
    List.map_map, hfilter]
  rfl

theorem Passed.presents [UrlReader] (h : Passed r f nodes edges configs) :
    (FlowGraph.view ⟨f.id, configs, edges.map BranchedEdge.link⟩).Presents r f := by
  have hd := h.depicts
  have hf := h.wellFormed
  set g : FlowGraph := ⟨f.id, configs, edges.map BranchedEdge.link⟩
  have hfollows (id : String) :
      (g.successors id none).map GraphNode.id = (f.leaving id).map Edge.target := by
    have hall := h.map_target_outgoing (g := g) (b := none) (p := fun _ => true) rfl
      (fun _ _ => rfl) id
    rw [hd.map_id_successors hf, hall, List.filter_true]
  have hfollowsBy (id : String) (b : Branch) :
      (g.successors id (some b)).map GraphNode.id = (f.leavingBy id b.handle).map Edge.target := by
    rw [hd.map_id_successors hf]
    refine h.map_target_outgoing rfl (fun e he => ?_) id
    rw [Option.isNone_some, Bool.false_or, Bool.eq_iff_iff, beq_iff_eq, beq_iff_eq]
    exact branch_eq_some_iff ((branched_eq_ok_iff.1 h.branches).2 e he) b
  have hforks (n : NodeSpec) (hn : n ∈ f.nodes) (k : NodeKind) (hk : n.IsKind r k)
      (hc : k.capability = .condition) (b : Branch) : ∃ m, g.successors n.id (some b) = [m] := by
    have hone : (f.leavingBy n.id b.handle).length = 1 := by
      cases b
      exacts [(hf.forked n hn k hk hc).1, (hf.forked n hn k hk hc).2]
    rw [← List.length_eq_one_iff, ← List.length_map GraphNode.id, hfollowsBy, List.length_map, hone]
  have hnode (s : NodeSpec) (hs : s ∈ f.nodes) : ∃ k c, s.IsKind r k ∧
      r.configure s.id k s.config = .ok c ∧ c.kind = k ∧ g.node? s.id = some ⟨s.id, c⟩ := by
    obtain ⟨n, hn, hbecomes⟩ := exists_mem_of_forall₂ h.becomes.flip hs
    refine ⟨n.kind, n.config, hbecomes.kind, hbecomes.config, rfl, ?_⟩
    rw [← hbecomes.id]
    exact (hd.node?_eq_some_iff hf).2 ⟨hn, rfl⟩
  exact
    { follows := hfollows
      followsBy := hfollowsBy
      forks := hforks
      starts := (congrArg _ (hd.roots_eq hf)).trans (map_id_triggers h.becomes)
      found := fun _ hn => hd.node?_of_mem hf hn
      node := hnode
      absent := fun _ => hd.node?_eq_none_iff }

end Validation

/-- The graph of an accepted flow answers as the flow says, and so does what is in store, however
the edges are listed there. -/
theorem Flow.presents_of_validate [UrlReader] {f : Flow} {r : Registry} {g : FlowGraph}
    (hg : f.validate r = .ok g) : g.view.Presents r f ∧
      ∀ l : Listing, ∃ s, f.store l r = .ok s ∧ s.view l = g.view := by
  constructor
  · obtain ⟨nodes, edges, configs, hpassed, rfl⟩ := Validation.validate_eq_ok_iff.1 hg
    exact hpassed.presents
  · intro l
    have halike := f.store_alike l r
    rw [hg] at halike
    obtain ⟨s, hs, hsound, rfl⟩ := halike.exists_eq_ok
    exact ⟨s, hs, hsound.view_eq l⟩

namespace Example

/-- Two edges lead from the trigger to the condition, one of them with an empty handle, and the
condition stands before the trigger. -/
def doubled : Flow :=
  { Flow.empty "flow-doubled" "Dairy, seen twice" with
    nodes :=
      [node "dairy" .conditionalBranch 0 0
          [("checkField", .string "category"), ("operator", .string "=="),
            ("checkValue", .string "Dairy")],
        node "soon" .expirationTrigger 0 0 [("timeOffset", .ofNat 3)],
        node "recipe" .generateRecipe 0 0 [("servings", .ofNat 4)],
        node "note" .updateData 0 0
          [("targetField", .string "note"), ("value", .string "no dairy")]]
    edges :=
      [⟨"e1", "dairy", "note", some "false", none, none⟩,
        ⟨"e2", "soon", "dairy", none, none, none⟩,
        ⟨"e3", "dairy", "recipe", some "true", none, none⟩,
        ⟨"e4", "soon", "dairy", some "", none, none⟩] }

end Example

/-- The condition follows the trigger twice, and what follows the condition is in the order of the
edges, although the store lists the last edge first. -/
theorem Flow.presents_of_validate_doubled : ∃ g s,
    Example.doubled.validate .builtin = .ok g ∧ g.view.Presents .builtin Example.doubled ∧
    Example.doubled.store .latestFirst .builtin = .ok s ∧ s.view .latestFirst = g.view ∧
    (s.successors .latestFirst "soon" none).map GraphNode.id = ["dairy", "dairy"] ∧
    (s.successors .latestFirst "dairy" none).map GraphNode.id = ["note", "recipe"] ∧
    (s.successors .latestFirst "dairy" (some .yes)).map GraphNode.id = ["recipe"] ∧
    s.roots.map GraphNode.id = ["soon"] := by
  have hsome : (Example.doubled.validate .builtin).toOption.isSome = true := by decide +kernel
  obtain ⟨g, hg⟩ := Option.isSome_iff_exists.1 hsome
  have hg := toOption_eq_some_iff.1 hg
  obtain ⟨hpresents, hstore⟩ := Flow.presents_of_validate hg
  obtain ⟨s, hs, hview⟩ := hstore .latestFirst
  have hstored : (s.view .latestFirst).Presents .builtin Example.doubled := hview ▸ hpresents
  refine ⟨g, s, hg, hpresents, hs, hview, ?_, ?_, ?_, ?_⟩
  · exact (hstored.follows "soon").trans (by decide)
  · exact (hstored.follows "dairy").trans (by decide)
  · exact (hstored.followsBy "dairy" .yes).trans (by decide)
  · exact hstored.starts.trans (by decide)

end KitchenFlow
