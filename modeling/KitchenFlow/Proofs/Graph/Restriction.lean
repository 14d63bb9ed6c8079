import KitchenFlow.Proofs.Graph.Depiction

/-!
# Parts of flows

A part of a flow that no edge leads out of is a flow of its own. If the whole flow is accepted, so
is the part, and its graph is the same part of the graph of the whole:

    Flow.validate_within   f.validate r = .ok g → (f.within ids).validate r = .ok (g.within ids)

What can be reached from some nodes is such a part.
-/

namespace KitchenFlow

/-- No arc leads out of some vertices. -/
def Digraph.Closed (g : Digraph) (ids : List String) : Prop :=
  ∀ u v, g.Arrow u v → u ∈ ids → v ∈ ids

namespace Flow

/-- The part of a flow that consists of some nodes and the edges that leave them. -/
def within (f : Flow) (ids : List String) : Flow :=
  { f with
    nodes := f.nodes.filter fun n => ids.contains n.id
    edges := f.edges.filter fun e => ids.contains e.source }

/-- The nodes that can be reached from some nodes. -/
def reached (f : Flow) (ids : List String) : List String := (f.arcs.searchAll ids).discovered

theorem mem_reached_iff {f : Flow} {ids : List String} {id : String} :
    id ∈ f.reached ids ↔ ∃ start ∈ ids, f.arcs.Reaches start id :=
  Digraph.mem_searchAll_iff

theorem closed_reached (f : Flow) (ids : List String) : f.arcs.Closed (f.reached ids) := by
  intro u v harrow hu
  obtain ⟨start, hstart, hreach⟩ := mem_reached_iff.1 hu
  exact mem_reached_iff.2 ⟨start, hstart, hreach.tail harrow⟩

variable {f : Flow} {ids : List String}

theorem mem_nodeIds_within_iff {id : String} :
    id ∈ (f.within ids).nodeIds ↔ id ∈ f.nodeIds ∧ id ∈ ids := by
  simp only [nodeIds, within, List.mem_map, List.mem_filter, List.contains_iff_mem]
  constructor
  · rintro ⟨n, ⟨hn, hid⟩, rfl⟩
    exact ⟨⟨n, hn, rfl⟩, hid⟩
  · rintro ⟨⟨n, hn, rfl⟩, hid⟩
    exact ⟨n, ⟨hn, hid⟩, rfl⟩

theorem arrow_arcs_within_iff {u v : String} :
    (f.within ids).arcs.Arrow u v ↔ f.arcs.Arrow u v ∧ u ∈ ids := by
  simp only [arrow_arcs_iff, within, List.mem_filter, List.contains_iff_mem]
  constructor
  · rintro ⟨e, ⟨he, hid⟩, rfl, rfl⟩
    exact ⟨⟨e, he, rfl, rfl⟩, hid⟩
  · rintro ⟨⟨e, he, rfl, rfl⟩, hid⟩
    exact ⟨e, ⟨he, hid⟩, rfl, rfl⟩

theorem reaches_of_within {u v : String} (h : (f.within ids).arcs.Reaches u v) :
    f.arcs.Reaches u v :=
  Relation.ReflTransGen.mono (fun _ _ harrow => (arrow_arcs_within_iff.1 harrow).1) _ _ h

theorem acyclic_within (h : f.arcs.Acyclic) : (f.within ids).arcs.Acyclic :=
  fun v hv => h v (Relation.TransGen.mono (fun _ _ ha => (arrow_arcs_within_iff.1 ha).1) v v hv)

end Flow

/-- The part of a graph that consists of some nodes and the links that leave them. -/
def FlowGraph.within (g : FlowGraph) (ids : List String) : FlowGraph :=
  { g with
    nodes := g.nodes.filter fun n => ids.contains n.id
    links := g.links.filter fun l => ids.contains l.source }

/-- What holds of a node of a part, and of no other node, does not depend on the rest. -/
theorem contains_and_beq_and {ids : List String} {id : String} (hid : id ∈ ids) (s : String)
    (b : Bool) : (ids.contains s && (s == id && b)) = (s == id && b) := by
  by_cases hs : s = id
  · rw [hs, List.contains_iff_mem.2 hid, Bool.true_and]
  · rw [beq_false_of_ne hs, Bool.false_and, Bool.and_false]

/-- What belongs to a node of a part is there in the part. -/
theorem filter_own {α : Type} {ids : List String} {id : String} (hid : id ∈ ids) (key : α → String)
    (q : α → Bool) (l : List α) :
    (l.filter fun a => ids.contains (key a)).filter (fun a => key a == id && q a) =
      l.filter fun a => key a == id && q a := by
  rw [List.filter_filter]
  exact List.filter_congr fun a _ => (Bool.and_comm _ _).trans (contains_and_beq_and hid _ _)

namespace Validation

variable {r : Registry} {f : Flow} {ids : List String} {nodes : List KindedNode}
  {edges : List BranchedEdge} {configs : List GraphNode}

theorem kinded_within (h : kinded r f.nodes = .ok nodes) :
    kinded r (f.within ids).nodes = .ok (nodes.filter fun n => ids.contains n.id) := by
  obtain ⟨hspecs, hkinds⟩ := kinded_eq_ok_iff.1 h
  refine kinded_eq_ok_iff.2 ⟨?_, fun n hn => hkinds n (List.mem_of_mem_filter hn)⟩
  rw [Flow.within, ← hspecs, List.filter_map]
  rfl

/-- A node of the part is a condition if it is one in the whole. -/
theorem isCondition_filter {id : String} (hid : id ∈ ids) :
    isCondition (nodes.filter fun n => ids.contains n.id) id = isCondition nodes id := by
  rw [isCondition, isCondition, List.any_filter]
  exact congrArg (List.any nodes) (funext fun n => contains_and_beq_and hid n.id _)

theorem branched_within (h : branched nodes f.edges = .ok edges) :
    branched (nodes.filter fun n => ids.contains n.id) (f.within ids).edges =
      .ok (edges.filter fun e => ids.contains e.edge.source) := by
  obtain ⟨hedges, hbranches⟩ := branched_eq_ok_iff.1 h
  refine branched_eq_ok_iff.2 ⟨?_, fun e he => ?_⟩
  · rw [Flow.within, ← hedges, List.filter_map]
    rfl
  · obtain ⟨he, hid⟩ := List.mem_filter.1 he
    rw [isCondition_filter (List.contains_iff_mem.1 hid)]
    exact hbranches e he

theorem nodeFault?_within {n : KindedNode} (hid : n.id ∈ ids) (h : nodeFault? edges n = none) :
    nodeFault? (edges.filter fun e => ids.contains e.edge.source) n = none := by
  obtain ⟨hcondition, htrigger, hother⟩ := nodeFault?_eq_none_iff.1 h
  refine nodeFault?_eq_none_iff.2 ⟨fun hc b => ?_, fun hc => ?_, fun hc => ?_⟩
  · rw [branchCount, filter_own hid fun e : BranchedEdge => e.edge.source]
    exact hcondition hc b
  · have hnone := htrigger hc
    rw [isEntered, List.any_eq_false] at hnone ⊢
    exact fun e he => hnone e (List.mem_of_mem_filter he)
  · have hall : outDegree (edges.filter fun e => ids.contains e.edge.source) n.id =
        outDegree edges n.id := by
      simpa [outDegree] using congrArg List.length
        (filter_own hid (fun e : BranchedEdge => e.edge.source) (fun _ => true) edges)
    rw [hall]
    exact hother hc

/-- A part of a flow that no edge leads out of passes all checks that the flow passes. -/
theorem Passed.within [UrlReader] (h : Passed r f nodes edges configs)
    (hclosed : f.arcs.Closed ids) :
    Passed r (f.within ids) (nodes.filter fun n => ids.contains n.id)
      (edges.filter fun e => ids.contains e.edge.source)
      (configs.filter fun n => ids.contains n.id) := by
  have hnd : f.nodeIds.Nodup := (repeated?_eq_none_iff.1 h.names).1
  have hnd' : (f.within ids).nodeIds.Nodup := hnd.sublist (List.filter_sublist.map _)
  have hends := dangling?_eq_none_iff.1 h.ends
  have hends' : ∀ e ∈ (f.within ids).edges,
      e.source ∈ (f.within ids).nodeIds ∧ e.target ∈ (f.within ids).nodeIds := by
    intro e he
    obtain ⟨he, hid⟩ := List.mem_filter.1 he
    have hid := List.contains_iff_mem.1 hid
    obtain ⟨hsource, htarget⟩ := hends e he
    have harrow := hclosed _ _ (Flow.arrow_arcs_iff.2 ⟨e, he, rfl, rfl⟩) hid
    exact ⟨Flow.mem_nodeIds_within_iff.2 ⟨hsource, hid⟩,
      Flow.mem_nodeIds_within_iff.2 ⟨htarget, harrow⟩⟩
  have hacyclic : f.arcs.Acyclic :=
    (Digraph.cyclePoint?_eq_none_iff (within_arcs_iff.2 hends)).1 h.cycles
  have hkinds' : kinded r (f.within ids).nodes = _ := kinded_within h.kinds
  refine
    { kinds := hkinds'
      names := repeated?_eq_none_iff.2 ⟨hnd', by simp⟩
      ends := dangling?_eq_none_iff.2 hends'
      cycles := (Digraph.cyclePoint?_eq_none_iff (within_arcs_iff.2 hends')).2
        (Flow.acyclic_within hacyclic)
      branches := branched_within h.branches
      counts := fun n hn => ?_
      sharing := (shared?_triggerIds_eq_none_iff hkinds' hnd').2 ?_
      configs := ?_ }
  · obtain ⟨hn, hid⟩ := List.mem_filter.1 hn
    exact nodeFault?_within (List.contains_iff_mem.1 hid) (h.counts n hn)
  · intro m hm hmt n hn hnt hne id hid
    exact (shared?_triggerIds_eq_none_iff h.kinds hnd).1 h.sharing m (List.mem_of_mem_filter hm) hmt
      n (List.mem_of_mem_filter hn) hnt hne id
      ⟨Flow.reaches_of_within hid.1, Flow.reaches_of_within hid.2⟩
  · refine configured_eq_ok_iff.2 (List.rel_filter (fun n c hnc => ?_)
      (configured_eq_ok_iff.1 h.configs))
    show ids.contains n.id = true ↔ ids.contains c.id = true
    rw [hnc.1]

end Validation

/-- A part of an accepted flow that no edge leads out of is accepted, and becomes the same part of
the graph. -/
theorem Flow.validate_within [UrlReader] {f : Flow} {r : Registry} {g : FlowGraph}
    {ids : List String}
    (hg : f.validate r = .ok g) (hclosed : f.arcs.Closed ids) :
    (f.within ids).validate r = .ok (g.within ids) := by
  obtain ⟨nodes, edges, configs, hp, rfl⟩ := Validation.validate_eq_ok_iff.1 hg
  refine Validation.validate_eq_ok_iff.2 ⟨_, _, _, hp.within hclosed, ?_⟩
  rw [FlowGraph.within, List.filter_map]
  rfl

namespace FlowGraph

variable {g : FlowGraph} {ids : List String}

theorem node?_within {id : String} (hid : id ∈ ids) : (g.within ids).node? id = g.node? id := by
  rw [node?, node?, within, List.find?_filter]
  refine congrArg (List.find? · g.nodes) (funext fun n => ?_)
  by_cases hn : n.id = id
  · simp [hn, hid]
  · simp [hn]

theorem outgoing_within {id : String} (hid : id ∈ ids) (branch : Option Branch) :
    (g.within ids).outgoing id branch = g.outgoing id branch :=
  filter_own hid Link.source _ g.links

/-- The same nodes follow a node of the part as follow it in the whole. -/
theorem successors_within (hclosed : g.arcs.Closed ids) {id : String} (hid : id ∈ ids)
    (branch : Option Branch) : (g.within ids).successors id branch = g.successors id branch := by
  rw [successors, successors, outgoing_within hid]
  refine List.filterMap_congr fun l hl => node?_within ?_
  obtain ⟨hl, hsource⟩ := List.mem_filter.1 hl
  have hsource : l.source = id := eq_of_beq (Bool.and_eq_true_iff.1 hsource).1
  exact hclosed l.source l.target (List.mem_map.2 ⟨l, hl, rfl⟩) (hsource ▸ hid)

end FlowGraph
end KitchenFlow
