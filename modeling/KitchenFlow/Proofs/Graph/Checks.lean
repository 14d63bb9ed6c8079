import KitchenFlow.Graph.Validation
import KitchenFlow.Proofs.Fallible
import KitchenFlow.Proofs.Graph.Cycles
import Mathlib.Data.List.Pairwise

/-!
# What the checks of a flow say

Validation is a chain of checks. This module says of each check what it means for a flow to pass it,
in terms of the nodes and edges of the flow and not of how the check goes about it; how the checks
add up is the matter of `Proofs.Graph.WellFormed`.
-/

namespace KitchenFlow

/-- A node is of a kind in use. -/
def NodeSpec.IsKind (r : Registry) (n : NodeSpec) (k : NodeKind) : Prop :=
  k.name = n.kindName ∧ ∃ m ∈ r.entries, m.kind = k

theorem NodeSpec.isKind_iff {r : Registry} {n : NodeSpec} {k : NodeKind} :
    n.IsKind r k ↔ r.resolve? n.kindName = some k := by
  rw [IsKind, Registry.resolve?, Option.filter_eq_some_iff, Registry.has_iff]
  refine and_congr_left fun _ => ⟨fun h => ?_, NodeKind.name_of_ofName?⟩
  rw [← h, NodeKind.ofName?_name]

/-- Fields are registered for the kind of a node. -/
theorem NodeSpec.IsKind.exists_schema? {r : Registry} {n : NodeSpec} {k : NodeKind}
    (h : n.IsKind r k) : ∃ specs, r.schema? k = some specs := by
  rw [← Option.isSome_iff_exists, Registry.isSome_schema?, Registry.has_iff]
  exact h.2

/-- A node is of one kind at most. -/
theorem NodeSpec.IsKind.unique {r : Registry} {n : NodeSpec} {k l : NodeKind} (hk : n.IsKind r k)
    (hl : n.IsKind r l) : k = l := by
  rw [NodeSpec.isKind_iff] at hk hl
  exact Option.some.inj (hk.symm.trans hl)

theorem Registry.resolve_eq_ok_iff {r : Registry} {n : NodeSpec} {k : NodeKind} :
    r.resolve n.id n.kindName = .ok k ↔ n.IsKind r k := by
  rw [NodeSpec.isKind_iff, Registry.resolve]
  split
  · next h => simp [h]
  · next h => simp [h]

theorem Flow.arrow_arcs_iff {f : Flow} {u v : String} :
    f.arcs.Arrow u v ↔ ∃ e ∈ f.edges, e.source = u ∧ e.target = v := by
  simp [Digraph.Arrow, Flow.arcs, Edge.arc]

namespace Validation

open Fallible

/-! ## Kinds and names -/

theorem kinded_eq_mapM (r : Registry) (ns : List NodeSpec) :
    kinded r ns = ns.mapM fun n => (r.resolve n.id n.kindName).map fun k => ⟨n, k⟩ := by
  induction ns with
  | nil => rfl
  | cons n ns ih =>
    rw [mapM_cons, ← ih, kinded]
    cases r.resolve n.id n.kindName <;> rfl

/-- Kinds are found for the nodes as they stand. -/
theorem kinded_eq_ok_iff {r : Registry} {ns : List NodeSpec} {ks : List KindedNode} :
    kinded r ns = .ok ks ↔
      ks.map KindedNode.spec = ns ∧ ∀ n ∈ ks, n.spec.IsKind r n.kind := by
  rw [kinded_eq_mapM]
  refine mapM_eq_ok_iff_map fun n k => ?_
  rw [map_eq_ok_iff]
  simp only [Registry.resolve_eq_ok_iff]
  constructor
  · rintro ⟨l, hl, rfl⟩
    exact ⟨rfl, hl⟩
  · rintro ⟨rfl, hk⟩
    exact ⟨k.kind, hk, rfl⟩

theorem exists_kinded_eq_ok_iff {r : Registry} {ns : List NodeSpec} :
    (∃ ks, kinded r ns = .ok ks) ↔ ∀ n ∈ ns, ∃ k, n.IsKind r k := by
  simp only [kinded_eq_mapM, exists_mapM_eq_ok_iff, exists_map_eq_ok_iff,
    Registry.resolve_eq_ok_iff]

/-- What holds of all nodes with the kinds found holds of all nodes and kinds they are of. -/
theorem forall_kinded_iff {r : Registry} {ns : List NodeSpec} {ks : List KindedNode}
    (h : kinded r ns = .ok ks) {P : NodeSpec → NodeKind → Prop} :
    (∀ n ∈ ks, P n.spec n.kind) ↔ ∀ n ∈ ns, ∀ k, n.IsKind r k → P n k := by
  obtain ⟨rfl, hk⟩ := kinded_eq_ok_iff.1 h
  simp only [List.forall_mem_map]
  refine forall₂_congr fun n hn => ⟨fun hP k hkk => ?_, fun hP => hP n.kind (hk n hn)⟩
  rwa [hkk.unique (hk n hn)]

/-- No name occurs twice, nor did one occur before. -/
theorem repeated?_eq_none_iff {seen ids : List String} :
    repeated? seen ids = none ↔ ids.Nodup ∧ ∀ id ∈ ids, id ∉ seen := by
  induction ids generalizing seen with
  | nil => simp [repeated?]
  | cons id ids ih =>
    rw [repeated?]
    split
    · next h =>
      have h : id ∈ seen := List.contains_iff_mem.1 h
      simp [h]
    · next h =>
      have h : id ∉ seen := fun hm => h (List.contains_iff_mem.2 hm)
      rw [ih, List.nodup_cons, List.forall_mem_cons]
      simp only [List.mem_cons, not_or]
      constructor
      · rintro ⟨hnd, hs⟩
        exact ⟨⟨fun hm => (hs id hm).1 rfl, hnd⟩, h, fun x hx => (hs x hx).2⟩
      · rintro ⟨⟨hid, hnd⟩, -, hs⟩
        exact ⟨hnd, fun x hx => ⟨fun e => hid (e ▸ hx), hs x hx⟩⟩

/-- All edges join nodes. -/
theorem dangling?_eq_none_iff {ids : List String} {es : List Edge} :
    dangling? ids es = none ↔ ∀ e ∈ es, e.source ∈ ids ∧ e.target ∈ ids := by
  induction es with
  | nil => simp [dangling?]
  | cons e es ih =>
    rw [dangling?, List.forall_mem_cons]
    split
    · next h => simp_all
    · split
      · next h => simp_all
      · simp_all

/-! ## Branches -/

theorem handle?_eq_some_iff {e : Edge} {s : String} :
    e.handle? = some s ↔ e.sourceHandle = some s ∧ s ≠ "" := by
  simp [Edge.handle?, Option.filter_eq_some_iff]

theorem handle?_eq_none_iff {e : Edge} :
    e.handle? = none ↔ e.sourceHandle = none ∨ e.sourceHandle = some "" := by
  rw [Edge.handle?]
  cases e.sourceHandle <;> simp [Option.filter_some]

theorem ofHandle?_eq_some_iff {s : String} {b : Branch} :
    Branch.ofHandle? s = some b ↔ s = b.handle :=
  ⟨fun h => (Branch.handle_of_ofHandle? h).symm, fun h => h ▸ Branch.ofHandle?_handle b⟩

theorem branchOf_condition_eq_ok_iff {e : Edge} {b : Option Branch} :
    branchOf e true = .ok b ↔ ∃ c, e.sourceHandle = some c.handle ∧ b = some c := by
  -- an empty handle counts as none, but no branch goes by it
  have hne : ∀ c : Branch, c.handle ≠ "" := by
    intro c
    cases c <;> decide
  have hsource : ∀ c : Branch, e.sourceHandle = some c.handle ↔ e.handle? = some c.handle :=
    fun c => by simp [handle?_eq_some_iff, hne]
  simp only [hsource]
  unfold branchOf
  cases e.handle? with
  | none => simp
  | some s =>
    cases hs : Branch.ofHandle? s with
    | none => simp [hs, ← ofHandle?_eq_some_iff]
    | some c => simp [← ofHandle?_eq_some_iff, hs, eq_comm]

theorem branchOf_plain_eq_ok_iff {e : Edge} {b : Option Branch} :
    branchOf e false = .ok b ↔ (e.sourceHandle = none ∨ e.sourceHandle = some "") ∧ b = none := by
  rw [← handle?_eq_none_iff]
  unfold branchOf
  cases e.handle? with
  | none => simp [eq_comm]
  | some s => simp

theorem branched_eq_mapM (nodes : List KindedNode) (es : List Edge) :
    branched nodes es = es.mapM fun e =>
      match branchOf e (isCondition nodes e.source) with
      | .error fault => .error (.graph (.branch e.source fault))
      | .ok b => .ok ⟨e, b⟩ := by
  induction es with
  | nil => rfl
  | cons e es ih =>
    rw [mapM_cons, ← ih, branched]
    cases branchOf e (isCondition nodes e.source) <;> rfl

/-- Branches are found for the edges as they stand. -/
theorem branched_eq_ok_iff {nodes : List KindedNode} {es : List Edge} {bs : List BranchedEdge} :
    branched nodes es = .ok bs ↔
      bs.map BranchedEdge.edge = es ∧
        ∀ b ∈ bs, branchOf b.edge (isCondition nodes b.edge.source) = .ok b.branch := by
  rw [branched_eq_mapM]
  refine mapM_eq_ok_iff_map fun e b => ?_
  constructor
  · intro h
    split at h
    · cases h
    · next c hc =>
      cases h
      exact ⟨rfl, hc⟩
  · rintro ⟨rfl, h⟩
    simp [h]

theorem exists_branched_eq_ok_iff {nodes : List KindedNode} {es : List Edge} :
    (∃ bs, branched nodes es = .ok bs) ↔
      ∀ e ∈ es, ∃ b, branchOf e (isCondition nodes e.source) = .ok b := by
  rw [branched_eq_mapM, exists_mapM_eq_ok_iff]
  refine forall₂_congr fun e _ => ?_
  cases branchOf e (isCondition nodes e.source) <;> simp

/-- If names are distinct, a node is told from its name to be a condition. -/
theorem isCondition_iff {nodes : List KindedNode} (hnd : (nodes.map KindedNode.id).Nodup)
    {n : KindedNode} (hn : n ∈ nodes) :
    isCondition nodes n.id = true ↔ n.kind.capability = .condition := by
  rw [isCondition, List.any_eq_true]
  constructor
  · rintro ⟨m, hm, h⟩
    obtain ⟨hid, hc⟩ := Bool.and_eq_true_iff.1 h
    -- some node of that id is a condition, and there is only one
    rw [← List.inj_on_of_nodup_map hnd hm hn (eq_of_beq hid)]
    exact eq_of_beq hc
  · intro h
    exact ⟨n, hn, by simp [h]⟩

/-! ## Counts of edges -/

theorem outDegree_eq {es : List Edge} {bs : List BranchedEdge}
    (h : bs.map BranchedEdge.edge = es) (id : String) :
    outDegree bs id = (es.filter fun e => e.source == id).length := by
  subst h
  rw [List.filter_map, List.length_map]
  rfl

theorem isEntered_iff {es : List Edge} {bs : List BranchedEdge}
    (h : bs.map BranchedEdge.edge = es) (id : String) :
    isEntered bs id = true ↔ ∃ e ∈ es, e.target = id := by
  subst h
  simp [isEntered]

/-- At a condition, the edges of a branch are those with its handle. -/
theorem branchCount_eq {nodes : List KindedNode} {es : List Edge} {bs : List BranchedEdge}
    (h : branched nodes es = .ok bs) {id : String} (hid : isCondition nodes id = true)
    (b : Branch) :
    branchCount bs id b =
      (es.filter fun e => e.source == id && e.sourceHandle == some b.handle).length := by
  obtain ⟨rfl, hb⟩ := branched_eq_ok_iff.1 h
  rw [List.filter_map, List.length_map]
  refine congrArg List.length (List.filter_congr fun e he => ?_)
  rw [Function.comp_apply]
  by_cases hs : e.edge.source = id
  · subst hs
    obtain ⟨c, hc, hbranch⟩ := branchOf_condition_eq_ok_iff.1 (hid ▸ hb e he)
    have hinj : c.handle = b.handle ↔ c = b := by
      cases c <;> cases b <;> decide
    rw [hc, hbranch, Bool.eq_iff_iff]
    simp [hinj]
  · rw [beq_false_of_ne hs, Bool.false_and, Bool.false_and]

theorem nodeFault?_eq_none_iff {bs : List BranchedEdge} {n : KindedNode} :
    nodeFault? bs n = none ↔
      (n.kind.capability = .condition → ∀ b, branchCount bs n.id b = 1) ∧
      (n.kind.capability = .trigger → isEntered bs n.id = false) ∧
      (n.kind.capability = .enrichment ∨ n.kind.capability = .action →
        outDegree bs n.id ≤ 1) := by
  rw [nodeFault?]
  cases n.kind.capability with
  | condition =>
    have hall : (∀ b, branchCount bs n.id b = 1) ↔
        branchCount bs n.id .yes = 1 ∧ branchCount bs n.id .no = 1 :=
      ⟨fun h => ⟨h .yes, h .no⟩, fun h b => by cases b; exacts [h.1, h.2]⟩
    simp [hall]
  | trigger => simp
  | enrichment => simp [Capability.maxOutgoing]
  | action => simp [Capability.maxOutgoing]

/-! ## Sharing -/

theorem lookup_reached_eq_none_iff {reached : List String} {owners : List (String × String)}
    {t v : String} :
    (reached.map (fun v => (v, t)) ++ owners).lookup v = none ↔
      v ∉ reached ∧ owners.lookup v = none := by
  induction reached with
  | nil => simp
  | cons w reached ih =>
    rw [List.map_cons, List.cons_append, List.lookup_cons]
    by_cases h : v = w
    · simp [h]
    · rw [beq_false_of_ne h]
      simp [ih, h]

/-- No two triggers reach one node, and none reaches a node that has an owner. -/
theorem shared?_eq_none_iff {g : Digraph} {owners : List (String × String)}
    {triggers : List String} :
    shared? g owners triggers = none ↔
      (∀ t ∈ triggers, ∀ v, g.Reaches t v → owners.lookup v = none) ∧
      triggers.Pairwise fun s t => ∀ v, g.Reaches s v → ¬ g.Reaches t v := by
  induction triggers generalizing owners with
  | nil => simp [shared?]
  | cons t rest ih =>
    have hfind : ((g.discovery t).findSome? fun v =>
        (owners.lookup v).map fun first => (v, first, t)) = none ↔
        ∀ v, g.Reaches t v → owners.lookup v = none := by
      simp [List.findSome?_eq_none_iff, Digraph.mem_discovery_iff]
    rw [shared?, List.forall_mem_cons, List.pairwise_cons]
    split
    · next found h =>
      have hsome : ¬ ∀ v, g.Reaches t v → owners.lookup v = none := by
        rw [← hfind, h]
        exact Option.some_ne_none _
      exact ⟨fun h => (Option.some_ne_none _ h).elim, fun h => (hsome h.1.1).elim⟩
    -- what `t` reaches has an owner from now on, so no later trigger may reach it
    · next h =>
      rw [ih]
      simp only [lookup_reached_eq_none_iff, Digraph.mem_discovery_iff]
      constructor
      · rintro ⟨hrest, hpair⟩
        refine ⟨⟨hfind.1 h, fun s hs v hv => (hrest s hs v hv).2⟩, ?_, hpair⟩
        exact fun s hs v htv hsv => (hrest s hs v hsv).1 htv
      · rintro ⟨⟨-, hrest⟩, ht, hpair⟩
        exact ⟨fun s hs v hv => ⟨fun htv => ht s hs v htv hv, hrest s hs v hv⟩, hpair⟩

/-! ## Configurations -/

theorem configured_eq_mapM [UrlReader] (r : Registry) (ns : List KindedNode) :
    configured r ns = ns.mapM fun n =>
      (r.configure n.id n.kind n.spec.config).map fun c => ⟨n.id, c⟩ := by
  induction ns with
  | nil => rfl
  | cons n ns ih =>
    rw [mapM_cons, ← ih, configured]
    cases r.configure n.id n.kind n.spec.config <;> rfl

theorem configured_eq_ok_iff [UrlReader] {r : Registry} {ns : List KindedNode}
    {gs : List GraphNode} :
    configured r ns = .ok gs ↔
      List.Forall₂ (fun n g => g.id = n.id ∧ r.configure n.id n.kind n.spec.config = .ok g.config)
        ns gs := by
  have h : ∀ (n : KindedNode) (g : GraphNode),
      (r.configure n.id n.kind n.spec.config).map (fun c => ⟨n.id, c⟩) = .ok g ↔
        g.id = n.id ∧ r.configure n.id n.kind n.spec.config = .ok g.config := by
    intro n g
    rw [map_eq_ok_iff]
    constructor
    · rintro ⟨c, hc, rfl⟩
      exact ⟨rfl, hc⟩
    · rintro ⟨hid, hc⟩
      exact ⟨g.config, hc, hid ▸ rfl⟩
  rw [configured_eq_mapM, mapM_eq_ok_iff]
  simp only [h]

theorem exists_configured_eq_ok_iff [UrlReader] {r : Registry} {ns : List KindedNode} :
    (∃ gs, configured r ns = .ok gs) ↔
      ∀ n ∈ ns, ∃ c, r.configure n.id n.kind n.spec.config = .ok c := by
  simp only [configured_eq_mapM, exists_mapM_eq_ok_iff, exists_map_eq_ok_iff]

end Validation
end KitchenFlow
