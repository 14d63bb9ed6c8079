import KitchenFlow.Graph.Storage
import KitchenFlow.Proofs.Graph.Depiction
import Mathlib.Data.List.FinRange
import Mathlib.Data.List.Perm.Basic

/-!
# What is in store is the graph

A graph in store is kept by places: its index leads from ids to places, its edges join places, and
at each place they are listed in some order. The graph that it stands for, `StoredGraph.graph`, is
what is left when places are replaced by the ids of their nodes. Two things make a graph in store
`Sound`, that the index says of each place the id that is there, and that edges know in what order
they came; and all questions to a sound one are answered as the graph answers them,

    Sound.node?_eq         s.node? id = s.graph.node? id
    Sound.successors_eq    s.successors l id b = s.graph.successors id b
    Sound.roots_eq         s.roots = s.graph.roots

however the edges are listed. Putting a flow in store goes through the checks of validation one by
one. Of each there are two versions, by places and by ids, and they end `Alike`: both succeed, with
results that fit together, or both fail with the same fault. So the whole does:

    Flow.store_alike       f.store l r  ends as  f.validate r  does, with a sound graph in store
-/

namespace KitchenFlow

open Fallible

/-! ## Rows and orders -/

/-- A row lists what is at its places, place by place. -/
theorem toList_eq_map_get {α : Type} {n : Nat} (v : Vector α n) :
    v.toList = (List.finRange n).map v.get := by
  calc v.toList = (Vector.ofFn v.get).toList := congrArg Vector.toList Vector.ofFn_getElem.symm
    _ = (List.finRange n).map v.get := by rw [Vector.toList_ofFn, List.ofFn_eq_map]

theorem mem_toList_iff_get {α : Type} {n : Nat} {v : Vector α n} {a : α} :
    a ∈ v.toList ↔ ∃ i, v.get i = a := by
  rw [toList_eq_map_get, List.mem_map]
  simp only [List.mem_finRange, true_and]

/-- Entries that know their order are put back into it. -/
theorem mergeSort_eq_of_ordered {α : Type} {ps qs : List (Nat × α)} (hperm : ps.Perm qs)
    (hqs : qs.Pairwise fun p q => p.1 < q.1) : ps.mergeSort (fun p q => p.1 ≤ q.1) = qs := by
  have htrans (p q r : Nat × α) : decide (p.1 ≤ q.1) = true → decide (q.1 ≤ r.1) = true →
      decide (p.1 ≤ r.1) = true := by
    simp only [decide_eq_true_iff]
    exact Nat.le_trans
  have htotal (p q : Nat × α) : (decide (p.1 ≤ q.1) || decide (q.1 ≤ p.1)) = true := by
    simp only [Bool.or_eq_true, decide_eq_true_iff]
    exact Nat.le_total p.1 q.1
  have hsorted : (ps.mergeSort fun p q => p.1 ≤ q.1).Pairwise fun p q => p.1 ≤ q.1 :=
    (List.pairwise_mergeSort htrans htotal ps).imp of_decide_eq_true
  have hnodup : (qs.map Prod.fst).Nodup := List.pairwise_map.2 (hqs.imp Nat.ne_of_lt)
  refine List.Perm.eq_of_pairwise (fun p q hp hq hpq hqp => ?_) hsorted (hqs.imp Nat.le_of_lt)
    ((List.mergeSort_perm ps _).trans hperm)
  have hp : p ∈ qs := hperm.mem_iff.1 (List.mem_mergeSort.1 hp)
  exact List.inj_on_of_nodup_map hnodup hp hq (Nat.le_antisymm hpq hqp)

/-! ## Indices -/

/-- An index says for the id at each place that it is there, and nothing else. -/
def Indexes {n : Nat} (index : Std.HashMap String (Fin n)) (idAt : Fin n → String) : Prop :=
  ∀ id i, index[id]? = some i ↔ idAt i = id

namespace Indexes

variable {n : Nat} {index : Std.HashMap String (Fin n)} {idAt : Fin n → String}

theorem index_idAt (h : Indexes index idAt) (i : Fin n) : index[idAt i]? = some i :=
  (h _ _).2 rfl

theorem idAt_eq_iff (h : Indexes index idAt) {i j : Fin n} : idAt i = idAt j ↔ i = j := by
  rw [← h, h.index_idAt, Option.some.injEq, eq_comm]

theorem idAt_beq (h : Indexes index idAt) (i j : Fin n) : (idAt i == idAt j) = (i == j) := by
  rw [Bool.eq_iff_iff, beq_iff_eq, beq_iff_eq, h.idAt_eq_iff]

theorem exists_idAt_iff (h : Indexes index idAt) {id : String} :
    (∃ i, idAt i = id) ↔ index[id]? ≠ none := by
  simp only [← h id, ← Option.isSome_iff_exists, Option.isSome_iff_ne_none]

/-- To look an id up in the index is to search the places for it. -/
theorem find?_finRange (h : Indexes index idAt) (id : String) :
    (List.finRange n).find? (fun i => idAt i == id) = index[id]? := by
  refine Option.ext fun i => ⟨fun hi => ?_, fun hi => ?_⟩
  · have hid := List.find?_some hi
    exact (h id i).2 (eq_of_beq hid)
  · have hid := (h id i).1 hi
    cases hj : (List.finRange n).find? fun i => idAt i == id with
    | none => exact (List.find?_eq_none.1 hj i (List.mem_finRange i) (beq_iff_eq.2 hid)).elim
    | some j =>
      have hjd := List.find?_some hj
      rw [h.idAt_eq_iff.1 ((eq_of_beq hjd).trans hid.symm)]

end Indexes

/-! ## Questions to a graph in store -/

/-- The link that an edge in store stands for, given the ids of the places. -/
def StoredEdge.link {n : Nat} (idAt : Fin n → String) (e : StoredEdge n) : Link :=
  ⟨idAt e.source, idAt e.target, e.branch⟩

/-- An edge in store as it was before it had a branch. -/
def StoredEdge.bare {n : Nat} (e : StoredEdge n) : StoredEdge n := { e with branch := none }

namespace StoredGraph

/-- The id of the node at a place. -/
def idAt (s : StoredGraph) (i : Fin s.size) : String := (s.nodes.get i).id

/-- The graph that is in store. -/
def graph (s : StoredGraph) : FlowGraph :=
  ⟨s.flowId, s.nodes.toList, s.edges.map (StoredEdge.link s.idAt)⟩

/-- The index leads to the nodes, and the edges know their order. -/
structure Sound (s : StoredGraph) : Prop where
  indexed : Indexes s.index s.idAt
  ordered : s.edges.Pairwise fun d e => d.order < e.order

namespace Sound

variable {s : StoredGraph}

theorem node?_eq (h : s.Sound) (id : String) : s.node? id = s.graph.node? id := by
  rw [FlowGraph.node?, graph, toList_eq_map_get, List.find?_map]
  exact congrArg (Option.map s.nodes.get) (h.indexed.find?_finRange id).symm

theorem graph_node?_idAt (h : s.Sound) (i : Fin s.size) :
    s.graph.node? (s.idAt i) = some (s.nodes.get i) := by
  rw [← h.node?_eq, node?, h.indexed.index_idAt, Option.map_some]

/-- No link leaves an id that is not in the index. -/
theorem outgoing_eq_nil (h : s.Sound) {id : String} (hid : s.index[id]? = none)
    (b : Option Branch) : s.graph.outgoing id b = [] := by
  refine List.filter_eq_nil_iff.2 fun k hk hout => ?_
  obtain ⟨e, -, rfl⟩ := List.mem_map.1 hk
  have hs : s.idAt e.source = id := eq_of_beq (Bool.and_eq_true_iff.1 hout).1
  rw [(h.indexed _ _).2 hs] at hid
  cases hid

/-- The links that leave a node are those of the edges at its place. -/
theorem outgoing_idAt (h : s.Sound) (i : Fin s.size) (b : Option Branch) :
    s.graph.outgoing (s.idAt i) b =
      ((s.edges.filter fun e => e.source == i).filter fun e =>
        b.isNone || e.branch == b).map (StoredEdge.link s.idAt) := by
  rw [FlowGraph.outgoing, graph, List.filter_map, List.filter_filter]
  refine congrArg _ (List.filter_congr fun e _ => ?_)
  rw [← h.indexed.idAt_beq, Bool.and_comm]
  rfl

/-- A link leads to the node at the place where its edge ends. -/
theorem filterMap_node?_link (h : s.Sound) (es : List (StoredEdge s.size)) :
    (es.map (StoredEdge.link s.idAt)).filterMap (fun k => s.graph.node? k.target) =
      es.map fun e => s.nodes.get e.target := by
  rw [List.filterMap_map, ← List.filterMap_eq_map]
  exact List.filterMap_congr fun e _ => h.graph_node?_idAt e.target

theorem successors_eq (h : s.Sound) (l : Listing) (id : String) (b : Option Branch) :
    s.successors l id b = s.graph.successors id b := by
  rw [successors, FlowGraph.successors]
  cases hi : s.index[id]? with
  | none => rw [h.outgoing_eq_nil hi, List.filterMap_nil]
  | some i =>
    rw [← (h.indexed _ _).1 hi, h.outgoing_idAt, h.filterMap_node?_link]
    -- what is listed is a permutation of what stands in order among the edges
    have hperm := ((l.leaving_perm s.edges i).filter fun e => b.isNone || e.branch == b).map
      fun e => (e.order, e.target)
    have hordered : (((s.edges.filter fun e => e.source == i).filter fun e =>
        b.isNone || e.branch == b).map fun e => (e.order, e.target)).Pairwise
          fun p q => p.1 < q.1 :=
      List.pairwise_map.2 ((h.ordered.sublist List.filter_sublist).sublist List.filter_sublist)
    dsimp only
    rw [mergeSort_eq_of_ordered hperm hordered, List.map_map]
    rfl

/-- A link enters a node exactly if an edge in store ends at its place. -/
theorem isEntry_idAt (h : s.Sound) (i : Fin s.size) :
    s.graph.isEntry (s.idAt i) = !(s.edges.map StoredEdge.target).contains i := by
  have htarget : (fun e : StoredEdge s.size => i == e.target) =
      (fun k : Link => k.target == s.idAt i) ∘ StoredEdge.link s.idAt := by
    refine funext fun e => ?_
    rw [← h.indexed.idAt_beq, BEq.comm]
    rfl
  rw [FlowGraph.isEntry, graph, List.any_map, List.contains_map, htarget]

theorem roots_eq (h : s.Sound) : s.roots = s.graph.roots := by
  rw [roots, FlowGraph.roots, List.filter_filter]
  refine List.filter_congr fun n hn => ?_
  obtain ⟨i, rfl⟩ := mem_toList_iff_get.1 hn
  have hindex : s.index[(s.nodes.get i).id]? = some i := h.indexed.index_idAt i
  have hentry : s.graph.isEntry (s.nodes.get i).id = _ := h.isEntry_idAt i
  rw [hindex, Option.any_some, hentry, Bool.and_comm]

end Sound
end StoredGraph

/-! ## Putting a flow in store -/

namespace Storage

open Validation

variable {n : Nat} {nodes : Vector KindedNode n}

/-! ### Nodes -/

theorem kinded_alike (r : Registry) (specs : Vector NodeSpec n) :
    Alike (fun nodes kinds => nodes.toList = kinds) (kinded r specs)
      (Validation.kinded r specs.toList) := by
  rw [kinded_eq_mapM]
  exact .of_map_eq (map_toList_mapM specs)

theorem configured_alike [UrlReader] (r : Registry) (nodes : Vector KindedNode n) :
    Alike (fun configs gs => configs.toList = gs) (configured r nodes)
      (Validation.configured r nodes.toList) := by
  rw [configured_eq_mapM]
  exact .of_map_eq (map_toList_mapM nodes)

/-- A node keeps its id when its configuration is found. -/
theorem id_configured [UrlReader] {r : Registry} {configs : Vector GraphNode n}
    (h : Validation.configured r nodes.toList = .ok configs.toList) (i : Fin n) :
    (configs.get i).id = idAt nodes i := by
  have hall := forall₂_of_configured h
  rw [toList_eq_map_get, toList_eq_map_get, List.forall₂_map_left_iff, List.forall₂_map_right_iff,
    List.forall₂_same] at hall
  exact (hall i (List.mem_finRange i)).1

theorem map_idAt_finRange (nodes : Vector KindedNode n) :
    (List.finRange n).map (idAt nodes) = nodes.toList.map KindedNode.id := by
  rw [toList_eq_map_get, List.map_map]
  rfl

theorem getElem?_insert_iff {index : Std.HashMap String (Fin n)} {a id : String} {i j : Fin n}
    (h : index[a]? = none) :
    (index.insert a i)[id]? = some j ↔ (j = i ∧ a = id) ∨ index[id]? = some j := by
  rw [Std.HashMap.getElem?_insert]
  by_cases hid : a = id
  · subst hid
    rw [if_pos (beq_self_eq_true _), h]
    simp [eq_comm]
  · rw [if_neg (mt eq_of_beq hid)]
    simp [hid]

/-- An id is in the index already exactly if it occurred before. Once some places are entered, the
index leads to them and to where it led before. -/
theorem indexed_alike (nodes : Vector KindedNode n) (is : List (Fin n))
    {index : Std.HashMap String (Fin n)} {seen : List String}
    (hseen : ∀ id, index.contains id = seen.contains id) :
    Alike (fun out _ => ∀ id i, out[id]? = some i ↔
        index[id]? = some i ∨ i ∈ is ∧ idAt nodes i = id)
      (indexed nodes index is)
      (refuse ((repeated? seen (is.map (idAt nodes))).map .duplicateNode)) := by
  induction is generalizing index seen with
  | nil => exact .ok (by simp)
  | cons i is ih =>
    rw [indexed, List.map_cons, repeated?, hseen]
    split
    · exact .error _
    · next hi =>
      have hnone : index[idAt nodes i]? = none := by
        rw [← hseen] at hi
        simpa using hi
      have hseen' (id : String) : (index.insert (idAt nodes i) i).contains id =
          (idAt nodes i :: seen).contains id := by
        rw [Std.HashMap.contains_insert, hseen, List.contains_cons, BEq.comm]
      refine (ih hseen').imp fun out _ h id j => ?_
      rw [h, getElem?_insert_iff hnone, List.mem_cons]
      constructor
      · rintro ((⟨rfl, hid⟩ | hold) | ⟨hj, hid⟩)
        exacts [.inr ⟨.inl rfl, hid⟩, .inl hold, .inr ⟨.inr hj, hid⟩]
      · rintro (hold | ⟨rfl | hj, hid⟩)
        exacts [.inl (.inr hold), .inl (.inl ⟨rfl, hid⟩), .inr ⟨hj, hid⟩]

/-- To enter all places in an index is to see that no id occurs twice. -/
theorem index_alike (nodes : Vector KindedNode n) :
    Alike (fun index _ => Indexes index (idAt nodes)) (indexed nodes ∅ (List.finRange n))
      (refuse ((repeated? [] (nodes.toList.map KindedNode.id)).map .duplicateNode)) := by
  rw [← map_idAt_finRange]
  refine (indexed_alike nodes (List.finRange n) fun id => ?_).imp fun index _ h id i => ?_
  · rw [Std.HashMap.contains_empty, List.contains_nil]
  · rw [h, Std.HashMap.getElem?_empty]
    simp

/-! ### Edges -/

/-- The places of an edge are those of its ends. -/
structure PlacedEdge.Fits (idAt : Fin n → String) (p : PlacedEdge n) : Prop where
  source : idAt p.source = p.edge.source
  target : idAt p.target = p.edge.target

section Ends

variable {index : Std.HashMap String (Fin n)} {idAt : Fin n → String} {ids : List String}

/-- An end has a place exactly if it is an id. -/
theorem placeOf_cases (hindex : Indexes index idAt) (hids : ∀ id, id ∈ ids ↔ ∃ i, idAt i = id)
    (e : Edge) (id : String) :
    (∃ i, placeOf index e id = .ok i ∧ idAt i = id ∧ ids.contains id = true) ∨
      placeOf index e id = .error (.graph (.danglingEdge e.id id)) ∧ ids.contains id = false := by
  rw [placeOf]
  cases hi : index[id]? with
  | none =>
    refine .inr ⟨rfl, Bool.eq_false_iff.2 fun hc => ?_⟩
    exact hindex.exists_idAt_iff.1 ((hids id).1 (List.contains_iff_mem.1 hc)) hi
  | some i =>
    have hid := (hindex id i).1 hi
    exact .inl ⟨i, rfl, hid, List.contains_iff_mem.2 ((hids id).2 ⟨i, hid⟩)⟩

/-- All edges can be placed exactly if none dangles. -/
theorem placed_alike (hindex : Indexes index idAt) (hids : ∀ id, id ∈ ids ↔ ∃ i, idAt i = id)
    (es : List Edge) :
    Alike (fun ps _ => ps.map PlacedEdge.edge = es ∧ ∀ p ∈ ps, p.Fits idAt) (placed index es)
      (refuse ((dangling? ids es).map fun (edge, node) => .danglingEdge edge node)) := by
  induction es with
  | nil => exact .ok ⟨rfl, by simp⟩
  | cons e es ih =>
    rw [placed, mapM_cons, ← placed, dangling?]
    -- the source is looked up first, and the target only if there is a source
    rcases placeOf_cases hindex hids e e.source with ⟨i, hi, hs, hc⟩ | ⟨hi, hc⟩
    · rcases placeOf_cases hindex hids e e.target with ⟨j, hj, ht, hd⟩ | ⟨hj, hd⟩
      · rw [hi, hj, hc, hd]
        exact ih.bind_ok fun ps _ hps =>
          ⟨congrArg (e :: ·) hps.1, List.forall_mem_cons.2 ⟨⟨hs, ht⟩, hps.2⟩⟩
      · rw [hi, hj, hc, hd]
        exact .error _
    · rw [hi, hc]
      exact .error _

end Ends

/-- An edge is kept in store as one that joins the places it was given. -/
structure PlacedEdge.KeptAs (p : PlacedEdge n) (e : StoredEdge n) : Prop where
  source : e.source = p.source
  target : e.target = p.target

theorem keptAs_stored (ps : List (PlacedEdge n)) :
    List.Forall₂ PlacedEdge.KeptAs ps (stored ps) := by
  refine List.forall₂_iff_get.2 ⟨List.length_mapIdx.symm, fun i _ _ => ⟨?_, ?_⟩⟩
  · simp [stored]
  · simp [stored]

theorem pairwise_order_stored (ps : List (PlacedEdge n)) :
    ((stored ps).map StoredEdge.order).Pairwise (· < ·) := by
  have horder : (stored ps).map StoredEdge.order = List.range ps.length := by
    refine List.ext_getElem (by simp [stored]) fun i _ _ => ?_
    simp [stored]
  rw [horder]
  exact List.pairwise_lt_range

theorem arcs_eq_of_keptAs {ps : List (PlacedEdge n)} {kept : List (StoredEdge n)}
    (hfits : ∀ p ∈ ps, p.Fits (idAt nodes)) (hkept : List.Forall₂ PlacedEdge.KeptAs ps kept) :
    arcs nodes kept = (ps.map PlacedEdge.edge).map Edge.arc := by
  rw [arcs]
  induction hkept with
  | nil => rfl
  | cons hj _ ih =>
    obtain ⟨hp, hfits⟩ := List.forall_mem_cons.1 hfits
    rw [List.map_cons, List.map_cons, List.map_cons, ih hfits, hj.source, hj.target, hp.source,
      hp.target]
    rfl

/-! ### Branches -/

theorem arcs_map_bare (kept : List (StoredEdge n)) :
    arcs nodes (kept.map StoredEdge.bare) = arcs nodes kept :=
  List.map_map

theorem map_order_bare (kept : List (StoredEdge n)) :
    (kept.map StoredEdge.bare).map StoredEdge.order = kept.map StoredEdge.order :=
  List.map_map

/-- A place is told to have a condition as its id is. -/
theorem isCondition_idAt (hnd : (nodes.toList.map KindedNode.id).Nodup) (i : Fin n) :
    isCondition nodes.toList (idAt nodes i) = ((nodes.get i).kind.capability == .condition) := by
  rw [Bool.eq_iff_iff, beq_iff_eq]
  exact isCondition_iff hnd (mem_toList_iff_get.2 ⟨i, rfl⟩)

/-- The edges in store get the branches that those of the flow have, and are as before otherwise. -/
theorem branched_alike (hnd : (nodes.toList.map KindedNode.id).Nodup)
    {ps : List (PlacedEdge n)} {kept : List (StoredEdge n)}
    (hfits : ∀ p ∈ ps, p.Fits (idAt nodes)) (hkept : List.Forall₂ PlacedEdge.KeptAs ps kept) :
    Alike (fun out edges =>
        out.map (StoredEdge.link (idAt nodes)) = edges.map BranchedEdge.link ∧
          out.map StoredEdge.bare = kept.map StoredEdge.bare)
      (branched nodes kept ps) (Validation.branched nodes.toList (ps.map PlacedEdge.edge)) := by
  rw [branched_eq_mapM]
  induction hkept with
  | nil => exact .ok ⟨rfl, rfl⟩
  | @cons p e ps kept hj _ ih =>
    obtain ⟨hp, hfits⟩ := List.forall_mem_cons.1 hfits
    rw [branched, List.zip_cons_cons, mapM_cons, ← branched, List.map_cons, List.map_cons,
      mapM_cons, ← hp.source, isCondition_idAt hnd]
    dsimp only
    cases branchOf p.edge ((nodes.get p.source).kind.capability == .condition) with
    | error fault => exact .error _
    | ok b =>
      refine (ih hfits).bind fun out edges hout => .ok ⟨?_, ?_⟩
      · rw [List.map_cons, List.map_cons, hout.1, StoredEdge.link, BranchedEdge.link, hj.source,
          hj.target, hp.source, hp.target]
      · rw [List.map_cons, hout.2]
        rfl

/-! ### The edges at a place -/

section Counts

variable {l : Listing} {idAt : Fin n → String} {index : Std.HashMap String (Fin n)}
  {kept : List (StoredEdge n)} {edges : List BranchedEdge}

/-- Edges are counted in store as they are in the flow. -/
theorem length_filter_link (hlinks : kept.map (StoredEdge.link idAt) = edges.map BranchedEdge.link)
    (p : Link → Bool) : (kept.filter fun e => p (e.link idAt)).length =
      (edges.filter fun e => p e.link).length := by
  have h := congrArg (fun ks => (ks.filter p).length) hlinks
  rwa [List.filter_map, List.filter_map, List.length_map, List.length_map] at h

theorem length_leaving (hindex : Indexes index idAt)
    (hlinks : kept.map (StoredEdge.link idAt) = edges.map BranchedEdge.link) (i : Fin n) :
    (l.leaving kept i).length = outDegree edges (idAt i) := by
  rw [(l.leaving_perm kept i).length_eq, outDegree]
  simp only [← hindex.idAt_beq]
  exact length_filter_link hlinks fun k => k.source == idAt i

theorem length_leaving_branch (hindex : Indexes index idAt)
    (hlinks : kept.map (StoredEdge.link idAt) = edges.map BranchedEdge.link) (i : Fin n)
    (b : Branch) :
    ((l.leaving kept i).filter fun e => e.branch == some b).length =
      branchCount edges (idAt i) b := by
  rw [((l.leaving_perm kept i).filter _).length_eq, List.filter_filter, branchCount]
  simp only [← hindex.idAt_beq, Bool.and_comm (_ == some b)]
  exact length_filter_link hlinks fun k => k.source == idAt i && k.branch == some b

theorem isEmpty_entering (hindex : Indexes index idAt)
    (hlinks : kept.map (StoredEdge.link idAt) = edges.map BranchedEdge.link) (i : Fin n) :
    (l.entering kept i).isEmpty = !isEntered edges (idAt i) := by
  have hcount : (l.entering kept i).length =
      (edges.filter fun e => e.link.target == idAt i).length := by
    rw [(l.entering_perm kept i).length_eq]
    simp only [← hindex.idAt_beq]
    exact length_filter_link hlinks fun k => k.target == idAt i
  rw [Bool.eq_iff_iff, List.isEmpty_iff, ← List.length_eq_zero_iff, hcount,
    List.length_eq_zero_iff, List.filter_eq_nil_iff, Bool.not_eq_true', isEntered,
    List.any_eq_false]
  rfl

end Counts

section Faults

variable {index : Std.HashMap String (Fin n)} {kept : List (StoredEdge n)}
  {edges : List BranchedEdge}

/-- What is wrong with the edges at a place is what is wrong with those at its node. -/
theorem faultAt?_eq (l : Listing) (hindex : Indexes index (idAt nodes))
    (hlinks : kept.map (StoredEdge.link (idAt nodes)) = edges.map BranchedEdge.link) (i : Fin n) :
    faultAt? l nodes kept i = nodeFault? edges (nodes.get i) := by
  rw [faultAt?, nodeFault?]
  simp only [length_leaving hindex hlinks, length_leaving_branch hindex hlinks,
    isEmpty_entering hindex hlinks]
  cases (nodes.get i).kind.capability with
  | condition => rfl
  | trigger =>
    change (if !isEntered edges (idAt nodes i) then _ else _) =
      if isEntered edges (idAt nodes i) then _ else _
    cases isEntered edges (idAt nodes i) <;> rfl
  | enrichment => rfl
  | action => rfl

theorem findSome?_faultAt? (l : Listing) (hindex : Indexes index (idAt nodes))
    (hlinks : kept.map (StoredEdge.link (idAt nodes)) = edges.map BranchedEdge.link) :
    (List.finRange n).findSome? (faultAt? l nodes kept) =
      nodes.toList.findSome? (nodeFault? edges) := by
  rw [toList_eq_map_get, List.findSome?_map]
  exact congrArg (List.findSome? · _) (funext fun i => faultAt?_eq l hindex hlinks i)

end Faults

end Storage

open Storage Validation in
/-- A flow can be put in store exactly if it is accepted, and is refused for the same fault. What
is in store then is the graph of the flow. -/
theorem Flow.store_alike [UrlReader] (f : Flow) (l : Listing) (r : Registry) :
    Alike (fun s g => s.Sound ∧ s.graph = g) (f.store l r) (f.validate r) := by
  rw [Flow.store, Flow.validate]
  have hkinded := (kinded_alike r f.nodes.toArray.toVector).and_results
  have hspecs : f.nodes.toArray.toVector.toList = f.nodes := by simp
  rw [hspecs] at hkinded
  refine hkinded.bind fun nodes kinds hnodes => ?_
  obtain ⟨rfl, -, hkinds⟩ := hnodes
  -- the ids of the flow are those at the places, and the index tells them apart
  have hids : (List.finRange _).map (idAt nodes) = f.nodeIds := by
    rw [map_idAt_finRange, map_id_of_kinded hkinds]
  have hindexed := index_alike nodes
  rw [map_id_of_kinded hkinds] at hindexed
  refine hindexed.bind fun index _ hindex => ?_
  have hmem (id : String) : id ∈ f.nodeIds ↔ ∃ i, idAt nodes i = id := by
    rw [← hids, List.mem_map]
    simp only [List.mem_finRange, true_and]
  have hnd : (nodes.toList.map KindedNode.id).Nodup := by
    rw [← map_idAt_finRange]
    exact (List.nodup_finRange _).map fun i j => hindex.idAt_eq_iff.1
  refine (placed_alike hindex hmem f.edges).bind fun ps _ hplaced => ?_
  obtain ⟨hps, hfits⟩ := hplaced
  have harcs : Storage.arcs nodes (stored ps) = f.arcs := by
    rw [arcs_eq_of_keptAs hfits (keptAs_stored ps), hps, Flow.arcs]
  dsimp only
  rw [harcs]
  refine (Alike.refl _).bind fun _ _ _ => ?_
  rw [← hps]
  refine (branched_alike hnd hfits (keptAs_stored ps)).bind fun kept edges hbranched => ?_
  obtain ⟨hlinks, hbare⟩ := hbranched
  rw [findSome?_faultAt? l hindex hlinks]
  refine (Alike.refl _).bind fun _ _ _ => ?_
  rw [← arcs_map_bare kept, hbare, arcs_map_bare, harcs]
  refine (Alike.refl _).bind fun _ _ _ => ?_
  refine (configured_alike r nodes).and_results.bind fun configs gs hconfigured => .ok ?_
  obtain ⟨rfl, -, hconfigs⟩ := hconfigured
  have hidAt : StoredGraph.idAt ⟨f.id, _, configs, index, kept⟩ = idAt nodes :=
    funext fun i => id_configured hconfigs i
  have hordered := pairwise_order_stored ps
  rw [← map_order_bare, ← hbare, map_order_bare] at hordered
  refine ⟨⟨hidAt ▸ hindex, List.pairwise_map.1 hordered⟩, ?_⟩
  rw [StoredGraph.graph, hidAt, hlinks]

end KitchenFlow
