import KitchenFlow.Proofs.Graph.Checks

/-!
# Well-formed flows

What makes a flow well formed is said here without any reference to how flows are checked: by the
kinds of its nodes, the edges at each of them, and the paths that the edges make. The main statement
is that validation accepts exactly the well-formed flows:

    exists_validate_eq_ok_iff   (∃ g, f.validate r = .ok g) ↔ f.WellFormed r
-/

namespace KitchenFlow

/-- The edges that leave a node. -/
def Flow.leaving (f : Flow) (id : String) : List Edge := f.edges.filter fun e => e.source == id

/-- The edges that leave a node with a handle. -/
def Flow.leavingBy (f : Flow) (id handle : String) : List Edge :=
  (f.leaving id).filter fun e => e.sourceHandle == some handle

/-- A flow that makes sense with the kinds in use. -/
structure Flow.WellFormed [UrlReader] (f : Flow) (r : Registry) : Prop where
  /-- Every node is of a kind in use. -/
  known : ∀ n ∈ f.nodes, ∃ k, n.IsKind r k
  /-- No two nodes have one id. -/
  distinct : f.nodeIds.Nodup
  /-- Every edge joins two nodes. -/
  joined : ∀ e ∈ f.edges, e.source ∈ f.nodeIds ∧ e.target ∈ f.nodeIds
  /-- No path, not even a single edge, leads from a node back to it. -/
  acyclic : f.arcs.Acyclic
  /-- The edges that leave a condition name a branch each. -/
  named : ∀ n ∈ f.nodes, ∀ k, n.IsKind r k → k.capability = .condition →
    ∀ e ∈ f.leaving n.id, e.sourceHandle = some "true" ∨ e.sourceHandle = some "false"
  /-- One edge leaves a condition for each branch. -/
  forked : ∀ n ∈ f.nodes, ∀ k, n.IsKind r k → k.capability = .condition →
    (f.leavingBy n.id "true").length = 1 ∧ (f.leavingBy n.id "false").length = 1
  /-- The edges that leave any other node name no branch. -/
  unnamed : ∀ n ∈ f.nodes, ∀ k, n.IsKind r k → k.capability ≠ .condition →
    ∀ e ∈ f.leaving n.id, e.sourceHandle = none ∨ e.sourceHandle = some ""
  /-- No edge enters a trigger. -/
  unentered : ∀ n ∈ f.nodes, ∀ k, n.IsKind r k → k.capability = .trigger →
    ∀ e ∈ f.edges, e.target ≠ n.id
  /-- At most one edge leaves an enrichment or an action. -/
  narrow : ∀ n ∈ f.nodes, ∀ k, n.IsKind r k →
    k.capability = .enrichment ∨ k.capability = .action → (f.leaving n.id).length ≤ 1
  /-- No two triggers reach one node. -/
  separate : ∀ m ∈ f.nodes, ∀ j, m.IsKind r j → j.capability = .trigger →
    ∀ n ∈ f.nodes, ∀ k, n.IsKind r k → k.capability = .trigger → m.id ≠ n.id →
      ∀ id, ¬ (f.arcs.Reaches m.id id ∧ f.arcs.Reaches n.id id)
  /-- Every node has a configuration that its kind accepts. -/
  configured : ∀ n ∈ f.nodes, ∀ k, n.IsKind r k → ∃ c, r.configure n.id k n.config = .ok c

namespace Validation

open Fallible

/-! ## Validation as a conjunction of checks -/

/-- A flow passes all checks, with the kinds, branches and configurations found on the way. -/
structure Passed [UrlReader] (r : Registry) (f : Flow) (nodes : List KindedNode)
    (edges : List BranchedEdge)
    (configs : List GraphNode) : Prop where
  kinds : kinded r f.nodes = .ok nodes
  names : repeated? [] f.nodeIds = none
  ends : dangling? f.nodeIds f.edges = none
  cycles : f.arcs.cyclePoint? f.nodeIds = none
  branches : branched nodes f.edges = .ok edges
  counts : ∀ n ∈ nodes, nodeFault? edges n = none
  sharing : shared? f.arcs [] (triggerIds nodes) = none
  configs : configured r nodes = .ok configs

theorem refuse_eq_ok_iff {o : Option GraphError} {u : Unit} : refuse o = .ok u ↔ o = none := by
  cases o <;> simp [refuse]

/-- A flow is accepted when it passes all checks, and the graph is made of what they found. -/
theorem validate_eq_ok_iff [UrlReader] {f : Flow} {r : Registry} {g : FlowGraph} :
    f.validate r = .ok g ↔
      ∃ nodes edges configs, Passed r f nodes edges configs ∧
        g = ⟨f.id, configs, edges.map BranchedEdge.link⟩ := by
  simp only [Flow.validate, bind_eq_ok_iff, refuse_eq_ok_iff, Option.map_eq_none_iff,
    List.findSome?_eq_none_iff, exists_const, Except.ok.injEq]
  constructor
  · rintro ⟨nodes, hk, hn, hd, hc, edges, hb, hf, hs, configs, hg, rfl⟩
    exact ⟨nodes, edges, configs, ⟨hk, hn, hd, hc, hb, hf, hs, hg⟩, rfl⟩
  · rintro ⟨nodes, edges, configs, h, rfl⟩
    exact ⟨nodes, h.kinds, h.names, h.ends, h.cycles, edges, h.branches, h.counts, h.sharing,
      configs, h.configs, rfl⟩

variable {r : Registry} {f : Flow} {nodes : List KindedNode} {edges : List BranchedEdge}
  {configs : List GraphNode}

theorem map_id_of_kinded (h : kinded r f.nodes = .ok nodes) :
    nodes.map KindedNode.id = f.nodeIds := by
  rw [Flow.nodeIds, ← (kinded_eq_ok_iff.1 h).1, List.map_map]
  rfl

theorem mem_nodeIds_iff (h : kinded r f.nodes = .ok nodes) {id : String} :
    id ∈ f.nodeIds ↔ ∃ n ∈ nodes, n.id = id := by
  rw [← map_id_of_kinded h, List.mem_map]

theorem within_arcs_iff : f.arcs.Within f.nodeIds ↔
    ∀ e ∈ f.edges, e.source ∈ f.nodeIds ∧ e.target ∈ f.nodeIds := by
  simp only [Digraph.Within, Flow.arrow_arcs_iff]
  constructor
  · exact fun h e he => h _ _ ⟨e, he, rfl, rfl⟩
  · rintro h _ _ ⟨e, he, rfl, rfl⟩
    exact h e he

theorem mem_triggerIds_iff {id : String} :
    id ∈ triggerIds nodes ↔ ∃ n ∈ nodes, n.kind.capability = .trigger ∧ n.id = id := by
  simp [triggerIds, and_assoc]

theorem exists_branchOf_condition_iff {e : Edge} : (∃ b, branchOf e true = .ok b) ↔
    e.sourceHandle = some "true" ∨ e.sourceHandle = some "false" := by
  simp only [branchOf_condition_eq_ok_iff]
  constructor
  · rintro ⟨_, c, hc, rfl⟩
    cases c
    exacts [.inl hc, .inr hc]
  · rintro (h | h)
    exacts [⟨_, .yes, h, rfl⟩, ⟨_, .no, h, rfl⟩]

theorem exists_branchOf_plain_iff {e : Edge} : (∃ b, branchOf e false = .ok b) ↔
    e.sourceHandle = none ∨ e.sourceHandle = some "" := by
  simp [branchOf_plain_eq_ok_iff]

/-- Every edge names a branch exactly if it leaves a condition. -/
theorem exists_branched_iff (hk : kinded r f.nodes = .ok nodes) (hnd : f.nodeIds.Nodup)
    (hends : ∀ e ∈ f.edges, e.source ∈ f.nodeIds ∧ e.target ∈ f.nodeIds) :
    (∃ edges, branched nodes f.edges = .ok edges) ↔
      (∀ n ∈ nodes, n.kind.capability = .condition →
        ∀ e ∈ f.leaving n.id, e.sourceHandle = some "true" ∨ e.sourceHandle = some "false") ∧
      ∀ n ∈ nodes, n.kind.capability ≠ .condition →
        ∀ e ∈ f.leaving n.id, e.sourceHandle = none ∨ e.sourceHandle = some "" := by
  have hcond : ∀ n ∈ nodes, isCondition nodes n.id = true ↔ n.kind.capability = .condition :=
    fun n hn => isCondition_iff (map_id_of_kinded hk ▸ hnd) hn
  rw [exists_branched_eq_ok_iff]
  simp only [Flow.leaving, List.mem_filter, beq_iff_eq]
  constructor
  · refine fun h => ⟨?_, ?_⟩
    · rintro n hn hc e ⟨he, hs⟩
      rw [← exists_branchOf_condition_iff]
      have := h e he
      rwa [hs, (hcond n hn).2 hc] at this
    · rintro n hn hc e ⟨he, hs⟩
      rw [← exists_branchOf_plain_iff]
      have := h e he
      rwa [hs, Bool.eq_false_iff.2 fun ht => hc ((hcond n hn).1 ht)] at this
  · rintro ⟨hyes, hno⟩ e he
    -- every edge leaves some node, and the node says which of the two is asked of it
    obtain ⟨n, hn, hs⟩ := (mem_nodeIds_iff hk).1 (hends e he).1
    by_cases hc : n.kind.capability = .condition
    · rw [← hs, (hcond n hn).2 hc, exists_branchOf_condition_iff]
      exact hyes n hn hc e ⟨he, hs.symm⟩
    · rw [← hs, Bool.eq_false_iff.2 fun ht => hc ((hcond n hn).1 ht), exists_branchOf_plain_iff]
      exact hno n hn hc e ⟨he, hs.symm⟩

theorem branchCount_eq_leavingBy (hk : kinded r f.nodes = .ok nodes) (hnd : f.nodeIds.Nodup)
    (hb : branched nodes f.edges = .ok edges) {n : KindedNode} (hn : n ∈ nodes)
    (hc : n.kind.capability = .condition) (b : Branch) :
    branchCount edges n.id b = (f.leavingBy n.id b.handle).length := by
  have hcond := (isCondition_iff (map_id_of_kinded hk ▸ hnd) hn).2 hc
  rw [branchCount_eq hb hcond, Flow.leavingBy, Flow.leaving, List.filter_filter]
  simp only [Bool.and_comm]

/-- The counts at a node are right. -/
theorem nodeFault?_eq_none_iff_leaving (hk : kinded r f.nodes = .ok nodes) (hnd : f.nodeIds.Nodup)
    (hb : branched nodes f.edges = .ok edges) {n : KindedNode} (hn : n ∈ nodes) :
    nodeFault? edges n = none ↔
      (n.kind.capability = .condition →
        (f.leavingBy n.id "true").length = 1 ∧ (f.leavingBy n.id "false").length = 1) ∧
      (n.kind.capability = .trigger → ∀ e ∈ f.edges, e.target ≠ n.id) ∧
      (n.kind.capability = .enrichment ∨ n.kind.capability = .action →
        (f.leaving n.id).length ≤ 1) := by
  have hedges := (branched_eq_ok_iff.1 hb).1
  have hcount : n.kind.capability = .condition → ((∀ b, branchCount edges n.id b = 1) ↔
      (f.leavingBy n.id "true").length = 1 ∧ (f.leavingBy n.id "false").length = 1) := by
    intro hc
    simp only [branchCount_eq_leavingBy hk hnd hb hn hc]
    exact ⟨fun h => ⟨h .yes, h .no⟩, fun h b => by cases b; exacts [h.1, h.2]⟩
  have hentered : isEntered edges n.id = false ↔ ∀ e ∈ f.edges, e.target ≠ n.id := by
    rw [Bool.eq_false_iff, ne_eq, isEntered_iff hedges]
    simp
  rw [nodeFault?_eq_none_iff, outDegree_eq hedges, hentered]
  exact and_congr_left fun _ => forall_congr' hcount

/-- The counts at all nodes are right. -/
theorem nodeFault?_all_eq_none_iff (hk : kinded r f.nodes = .ok nodes) (hnd : f.nodeIds.Nodup)
    (hb : branched nodes f.edges = .ok edges) :
    (∀ n ∈ nodes, nodeFault? edges n = none) ↔
      (∀ n ∈ nodes, n.kind.capability = .condition →
        (f.leavingBy n.id "true").length = 1 ∧ (f.leavingBy n.id "false").length = 1) ∧
      (∀ n ∈ nodes, n.kind.capability = .trigger → ∀ e ∈ f.edges, e.target ≠ n.id) ∧
      ∀ n ∈ nodes, n.kind.capability = .enrichment ∨ n.kind.capability = .action →
        (f.leaving n.id).length ≤ 1 := by
  have hnode (n) (hn : n ∈ nodes) := nodeFault?_eq_none_iff_leaving hk hnd hb hn
  constructor
  · intro h
    exact ⟨fun n hn => ((hnode n hn).1 (h n hn)).1, fun n hn => ((hnode n hn).1 (h n hn)).2.1,
      fun n hn => ((hnode n hn).1 (h n hn)).2.2⟩
  · rintro ⟨hfork, hin, hout⟩ n hn
    exact (hnode n hn).2 ⟨hfork n hn, hin n hn, hout n hn⟩

/-- No two triggers share a node. -/
theorem shared?_triggerIds_eq_none_iff (hk : kinded r f.nodes = .ok nodes)
    (hnd : f.nodeIds.Nodup) :
    shared? f.arcs [] (triggerIds nodes) = none ↔
      ∀ m ∈ nodes, m.kind.capability = .trigger → ∀ n ∈ nodes, n.kind.capability = .trigger →
        m.id ≠ n.id → ∀ id, ¬ (f.arcs.Reaches m.id id ∧ f.arcs.Reaches n.id id) := by
  have hids : (triggerIds nodes).Nodup := by
    rw [← map_id_of_kinded hk] at hnd
    exact hnd.sublist ((List.filter_sublist).map _)
  rw [shared?_eq_none_iff]
  simp only [List.lookup_nil, implies_true, true_and]
  constructor
  · intro h m hm hmt n hn hnt hne id hid
    have : Std.Symm fun s t => ∀ v, f.arcs.Reaches s v → ¬ f.arcs.Reaches t v :=
      ⟨fun s t hst v htv hsv => hst v hsv htv⟩
    exact h.forall (mem_triggerIds_iff.2 ⟨m, hm, hmt, rfl⟩)
      (mem_triggerIds_iff.2 ⟨n, hn, hnt, rfl⟩) hne id hid.1 hid.2
  · intro h
    refine hids.pairwise_of_forall_ne fun s hs t ht hne v hsv htv => ?_
    obtain ⟨m, hm, hmt, rfl⟩ := mem_triggerIds_iff.1 hs
    obtain ⟨n, hn, hnt, rfl⟩ := mem_triggerIds_iff.1 ht
    exact h m hm hmt n hn hnt hne v ⟨hsv, htv⟩

/-! ## What is accepted is well formed, and the converse -/

theorem Passed.wellFormed [UrlReader] (h : Passed r f nodes edges configs) : f.WellFormed r := by
  have hnd : f.nodeIds.Nodup := (repeated?_eq_none_iff.1 h.names).1
  have hends := dangling?_eq_none_iff.1 h.ends
  obtain ⟨hnamed, hunnamed⟩ := (exists_branched_iff h.kinds hnd hends).1 ⟨edges, h.branches⟩
  obtain ⟨hforked, hunentered, hnarrow⟩ :=
    (nodeFault?_all_eq_none_iff h.kinds hnd h.branches).1 h.counts
  -- checks speak of the kinds that were found, well-formedness of all kinds a node is of
  have all {P : NodeSpec → NodeKind → Prop} : (∀ n ∈ nodes, P n.spec n.kind) →
      ∀ n ∈ f.nodes, ∀ k, n.IsKind r k → P n k := (forall_kinded_iff h.kinds).1
  refine
    { known := exists_kinded_eq_ok_iff.1 ⟨nodes, h.kinds⟩
      distinct := hnd
      joined := hends
      acyclic := (Digraph.cyclePoint?_eq_none_iff (within_arcs_iff.2 hends)).1 h.cycles
      named := all hnamed
      forked := all hforked
      unnamed := all hunnamed
      unentered := all hunentered
      narrow := all hnarrow
      separate := ?_
      configured := all (exists_configured_eq_ok_iff.1 ⟨configs, h.configs⟩) }
  -- two nodes are spoken of here, so the kinds found are replaced twice
  have hsep := (shared?_triggerIds_eq_none_iff h.kinds hnd).1 h.sharing
  refine all (P := fun m j => j.capability = .trigger → ∀ n ∈ f.nodes, ∀ k, n.IsKind r k →
    k.capability = .trigger → m.id ≠ n.id → ∀ id, ¬ (f.arcs.Reaches m.id id ∧
      f.arcs.Reaches n.id id)) fun m hm hmt => ?_
  exact all (P := fun n k => k.capability = .trigger → m.id ≠ n.id →
    ∀ id, ¬ (f.arcs.Reaches m.id id ∧ f.arcs.Reaches n.id id)) (hsep m hm hmt)

theorem exists_passed [UrlReader] (h : f.WellFormed r) :
    ∃ nodes edges configs, Passed r f nodes edges configs := by
  obtain ⟨nodes, hk⟩ := exists_kinded_eq_ok_iff.2 h.known
  have all {P : NodeSpec → NodeKind → Prop} : (∀ n ∈ f.nodes, ∀ k, n.IsKind r k → P n k) →
      ∀ n ∈ nodes, P n.spec n.kind := (forall_kinded_iff hk).2
  obtain ⟨edges, hb⟩ := (exists_branched_iff hk h.distinct h.joined).2
    ⟨all h.named, all h.unnamed⟩
  obtain ⟨configs, hc⟩ := exists_configured_eq_ok_iff.2 (all h.configured)
  refine ⟨nodes, edges, configs,
    { kinds := hk
      names := repeated?_eq_none_iff.2 ⟨h.distinct, by simp⟩
      ends := dangling?_eq_none_iff.2 h.joined
      cycles := (Digraph.cyclePoint?_eq_none_iff (within_arcs_iff.2 h.joined)).2 h.acyclic
      branches := hb
      counts := (nodeFault?_all_eq_none_iff hk h.distinct hb).2
        ⟨all h.forked, all h.unentered, all h.narrow⟩
      sharing := (shared?_triggerIds_eq_none_iff hk h.distinct).2 ?_
      configs := hc }⟩
  intro m hm hmt n hn hnt
  have hkind := (kinded_eq_ok_iff.1 hk).2
  have hmem : ∀ n ∈ nodes, n.spec ∈ f.nodes := fun n hn =>
    (kinded_eq_ok_iff.1 hk).1 ▸ List.mem_map_of_mem hn
  exact h.separate m.spec (hmem m hm) m.kind (hkind m hm) hmt n.spec (hmem n hn) n.kind
    (hkind n hn) hnt

end Validation

/-- Exactly the well-formed flows are accepted. -/
theorem Flow.exists_validate_eq_ok_iff [UrlReader] (f : Flow) (r : Registry) :
    (∃ g, f.validate r = .ok g) ↔ f.WellFormed r := by
  simp only [Validation.validate_eq_ok_iff]
  constructor
  · rintro ⟨_, nodes, edges, configs, h, rfl⟩
    exact h.wellFormed
  · intro h
    obtain ⟨nodes, edges, configs, h⟩ := Validation.exists_passed h
    exact ⟨_, nodes, edges, configs, h, rfl⟩

end KitchenFlow
