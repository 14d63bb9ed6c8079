import KitchenFlow.Proofs.Config.Typed
import KitchenFlow.Proofs.Graph.WellFormed

/-!
# The graph of a flow

The graph that an accepted flow becomes has the nodes of the flow, of the kinds that their names
stand for, and its links lead where the edges of the flow do. A run goes from link to link, so it
stays among the nodes that the flow reaches from the trigger it started at. No link enters a
trigger, so that the roots are the triggers, and the triggers of a flow have nothing in common.
-/

namespace KitchenFlow

open Fallible

/-- The arcs of a graph. -/
def FlowGraph.arcs (g : FlowGraph) : Digraph := g.links.map fun l => ⟨l.source, l.target⟩

/-- What a graph has in common with the flow it was made of. -/
structure FlowGraph.Depicts (g : FlowGraph) (r : Registry) (f : Flow) : Prop where
  flowId : g.flowId = f.id
  nodeIds : g.nodes.map GraphNode.id = f.nodeIds
  kinds : ∀ n ∈ g.nodes, ∃ s ∈ f.nodes, s.id = n.id ∧ s.IsKind r n.kind
  arcs : g.arcs = f.arcs

namespace Validation

variable {r : Registry} {f : Flow} {nodes : List KindedNode} {edges : List BranchedEdge}
  {configs : List GraphNode}

/-- Configured nodes are the nodes they were made of. -/
theorem forall₂_of_configured [UrlReader] (h : configured r nodes = .ok configs) :
    List.Forall₂ (fun n g => g.id = n.id ∧ g.kind = n.kind) nodes configs :=
  (configured_eq_ok_iff.1 h).imp fun _ _ ⟨hid, hc⟩ => ⟨hid, Registry.kind_of_configure hc⟩

theorem Passed.depicts [UrlReader] (h : Passed r f nodes edges configs) :
    FlowGraph.Depicts ⟨f.id, configs, edges.map BranchedEdge.link⟩ r f := by
  have hconf := forall₂_of_configured h.configs
  obtain ⟨hspecs, hkinds⟩ := kinded_eq_ok_iff.1 h.kinds
  refine ⟨rfl, ?_, ?_, ?_⟩
  · rw [← map_id_of_kinded h.kinds]
    -- the checks are about the lists as a whole, which the induction takes apart
    clear h hspecs hkinds
    induction hconf with
    | nil => rfl
    | cons hn _ ih => rw [List.map_cons, List.map_cons, hn.1, ih]
  · intro g hg
    obtain ⟨n, hn, hid, hkind⟩ := exists_mem_of_forall₂ hconf hg
    refine ⟨n.spec, hspecs ▸ List.mem_map_of_mem hn, hid.symm, ?_⟩
    rw [hkind]
    exact hkinds n hn
  · rw [Flow.arcs, ← (branched_eq_ok_iff.1 h.branches).1, FlowGraph.arcs, List.map_map,
      List.map_map]
    rfl

end Validation

theorem Flow.depicts_of_validate [UrlReader] {f : Flow} {r : Registry} {g : FlowGraph}
    (h : f.validate r = .ok g) : g.Depicts r f := by
  obtain ⟨nodes, edges, configs, hp, rfl⟩ := Validation.validate_eq_ok_iff.1 h
  exact hp.depicts

theorem Flow.wellFormed_of_validate [UrlReader] {f : Flow} {r : Registry} {g : FlowGraph}
    (h : f.validate r = .ok g) : f.WellFormed r := by
  obtain ⟨nodes, edges, configs, hp, -⟩ := Validation.validate_eq_ok_iff.1 h
  exact hp.wellFormed

namespace FlowGraph

variable {g : FlowGraph} {r : Registry} {f : Flow}

theorem mem_nodes_of_node? {id : String} {n : GraphNode} (h : g.node? id = some n) :
    n ∈ g.nodes ∧ n.id = id :=
  ⟨List.mem_of_find?_eq_some h, by simpa using List.find?_some h⟩

/-- What follows a node is a node at the other end of an arc. -/
theorem mem_successors {id : String} {b : Option Branch} {n : GraphNode}
    (h : n ∈ g.successors id b) : n ∈ g.nodes ∧ g.arcs.Arrow id n.id := by
  obtain ⟨l, hl, hn⟩ := List.mem_filterMap.1 h
  obtain ⟨hmem, hid⟩ := mem_nodes_of_node? hn
  obtain ⟨hl, hs⟩ := List.mem_filter.1 hl
  have hs : l.source = id := eq_of_beq (Bool.and_eq_true_iff.1 hs).1
  exact ⟨hmem, List.mem_map.2 ⟨l, hl, by rw [hs, hid]⟩⟩

theorem mem_roots {n : GraphNode} (h : n ∈ g.roots) : n ∈ g.nodes ∧ n.capability = .trigger := by
  obtain ⟨hn, hc⟩ := List.mem_filter.1 h
  exact ⟨hn, eq_of_beq (Bool.and_eq_true_iff.1 hc).1⟩

/-- Each node is listed once. -/
theorem Depicts.nodup [UrlReader] (h : g.Depicts r f) (hf : f.WellFormed r) :
    (g.nodes.map GraphNode.id).Nodup := h.nodeIds ▸ hf.distinct

/-- A node is known by its id. -/
theorem Depicts.eq_of_id [UrlReader] (h : g.Depicts r f) (hf : f.WellFormed r) {m n : GraphNode}
    (hm : m ∈ g.nodes) (hn : n ∈ g.nodes) (hid : m.id = n.id) : m = n :=
  List.inj_on_of_nodup_map (h.nodup hf) hm hn hid

/-- No link enters a trigger. -/
theorem Depicts.not_arrow [UrlReader] (h : g.Depicts r f) (hf : f.WellFormed r) {n : GraphNode}
    (hn : n ∈ g.nodes) (ht : n.capability = .trigger) (id : String) : ¬ g.arcs.Arrow id n.id := by
  rw [h.arcs, Flow.arrow_arcs_iff]
  rintro ⟨e, he, -, htarget⟩
  obtain ⟨spec, hspec, hid, hkind⟩ := h.kinds n hn
  exact hf.unentered spec hspec _ hkind ht e he (htarget.trans hid.symm)

/-- The roots are all triggers there are. -/
theorem Depicts.mem_roots_iff [UrlReader] (h : g.Depicts r f) (hf : f.WellFormed r)
    {n : GraphNode} :
    n ∈ g.roots ↔ n ∈ g.nodes ∧ n.capability = .trigger := by
  constructor
  · exact mem_roots
  · rintro ⟨hn, ht⟩
    have hentry : g.isEntry n.id = true := by
      rw [isEntry, Bool.not_eq_true', List.any_eq_false]
      intro l hl htarget
      refine h.not_arrow hf hn ht l.source (List.mem_map.2 ⟨l, hl, ?_⟩)
      rw [eq_of_beq htarget]
    refine List.mem_filter.2 ⟨hn, ?_⟩
    rw [ht, hentry]
    rfl

/-- The roots of an accepted flow are its triggers. -/
theorem Depicts.roots_eq [UrlReader] (h : g.Depicts r f) (hf : f.WellFormed r) :
    g.roots = g.nodes.filter fun n => n.capability = .trigger := by
  refine List.filter_congr fun n hn => ?_
  have hroot := h.mem_roots_iff hf (n := n)
  rw [roots, List.mem_filter, and_congr_right_iff] at hroot
  rw [Bool.eq_iff_iff, hroot hn, decide_eq_true_iff]

/-- No node is reached from two roots. -/
theorem Depicts.separate [UrlReader] (h : g.Depicts r f) (hf : f.WellFormed r) {m n : GraphNode}
    (hm : m ∈ g.roots) (hn : n ∈ g.roots) (hne : m.id ≠ n.id) {id : String}
    (hmid : g.arcs.Reaches m.id id) : ¬ g.arcs.Reaches n.id id := by
  rw [h.arcs] at hmid ⊢
  intro hnid
  obtain ⟨hm, hmt⟩ := mem_roots hm
  obtain ⟨hn, hnt⟩ := mem_roots hn
  obtain ⟨s, hs, hsid, hsk⟩ := h.kinds m hm
  obtain ⟨t, ht, htid, htk⟩ := h.kinds n hn
  refine hf.separate s hs _ hsk hmt t ht _ htk hnt ?_ id ?_
  · rwa [hsid, htid]
  · rw [hsid, htid]
    exact ⟨hmid, hnid⟩

/-- Roots are told apart by what they reach. -/
theorem Depicts.pairwise_roots [UrlReader] (h : g.Depicts r f) (hf : f.WellFormed r) :
    g.roots.Pairwise fun m n => ∀ id, g.arcs.Reaches m.id id → ¬ g.arcs.Reaches n.id id := by
  have hne : g.roots.Pairwise fun m n => m.id ≠ n.id :=
    (List.pairwise_map.1 (h.nodup hf)).sublist List.filter_sublist
  exact hne.imp_of_mem fun hm hn hne id hmid => h.separate hf hm hn hne hmid

end FlowGraph
end KitchenFlow
