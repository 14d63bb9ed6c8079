import KitchenFlow.Proofs.Config.Rules
import KitchenFlow.Proofs.Config.Typed
import KitchenFlow.Proofs.Graph.Reports
import KitchenFlow.Proofs.Graph.WellFormed

/-!
# Defects of flows

A flow that is refused is refused for a reason, and for the first one. What the checks ask of a flow
is said here again, one check at a time (`Flow.Passes`); together they ask for the flow to be well
formed (`wellFormed_iff_passes`). What each error says of a flow is `Flow.Faulty`. The main
statement is that an error is true, and that all checks before the one that reports it are passed:

    validate_truthful   f.validate r = .error err →
                          (∀ c, c.Precedes err.check → f.Passes r c) ∧ f.Faulty r err

A check that goes through nodes or edges is also passed by all of them before the one reported.
-/

namespace KitchenFlow

/-! ## The checks and what they ask for -/

/-- The checks of a flow. -/
inductive Check where
  | kinds
  | names
  | ends
  | cycles
  | handles
  | counts
  | sharing
  | configs
deriving DecidableEq, Repr

namespace Check

/-- The checks in their order. -/
def order : List Check :=
  [.kinds, .names, .ends, .cycles, .handles, .counts, .sharing, .configs]

/-- The place of a check. -/
def rank (c : Check) : Nat := order.idxOf c

/-- One check is made before another. -/
def Precedes (c d : Check) : Prop := c.rank < d.rank

instance (c d : Check) : Decidable (c.Precedes d) := inferInstanceAs (Decidable (_ < _))

theorem mem_order (c : Check) : c ∈ order := by
  cases c <;> decide

theorem eq_of_rank_eq {c d : Check} (h : c.rank = d.rank) : c = d :=
  (List.idxOf_inj (mem_order c)).1 h

end Check

/-- The check that reports an error. -/
def FlowError.check : FlowError → Check
  | .unknownKind .. => .kinds
  | .graph (.duplicateNode _) => .names
  | .graph (.danglingEdge ..) => .ends
  | .graph (.cycle _) => .cycles
  | .graph (.branch _ (.wrongCount ..)) | .graph (.triggerHasIncoming _)
  | .graph (.tooManyOutgoing ..) => .counts
  | .graph (.branch ..) => .handles
  | .graph (.sharedByTriggers ..) => .sharing
  | .config _ => .configs

namespace NodeSpec

/-- A node is a trigger. -/
def IsTrigger (r : Registry) (n : NodeSpec) : Prop :=
  ∃ k, n.IsKind r k ∧ k.capability = .trigger

/-- A node has a configuration that its kind accepts. -/
def Configured [UrlReader] (r : Registry) (n : NodeSpec) : Prop :=
  ∀ k, n.IsKind r k → ∃ c, r.configure n.id k n.config = .ok c

end NodeSpec

namespace Flow

/-- An edge joins two nodes. -/
def Joined (f : Flow) (e : Edge) : Prop := e.source ∈ f.nodeIds ∧ e.target ∈ f.nodeIds

/-- An edge names a branch exactly if it leaves a condition. -/
def Named (f : Flow) (r : Registry) (e : Edge) : Prop :=
  ∀ n ∈ f.nodes, ∀ k, n.IsKind r k → n.id = e.source →
    (k.capability = .condition →
      e.sourceHandle = some "true" ∨ e.sourceHandle = some "false") ∧
    (k.capability ≠ .condition → e.sourceHandle = none ∨ e.sourceHandle = some "")

/-- A node has as many edges as its kind allows or asks for. -/
def Counted (f : Flow) (r : Registry) (n : NodeSpec) : Prop :=
  ∀ k, n.IsKind r k →
    (k.capability = .condition →
      (f.leavingBy n.id "true").length = 1 ∧ (f.leavingBy n.id "false").length = 1) ∧
    (k.capability = .trigger → ∀ e ∈ f.edges, e.target ≠ n.id) ∧
    (k.capability = .enrichment ∨ k.capability = .action → (f.leaving n.id).length ≤ 1)

/-- No two triggers among some nodes reach one node. -/
def Separate (f : Flow) (r : Registry) (ns : List NodeSpec) : Prop :=
  ∀ m ∈ ns, m.IsTrigger r → ∀ n ∈ ns, n.IsTrigger r → m.id ≠ n.id →
    ∀ id, ¬ (f.arcs.Reaches m.id id ∧ f.arcs.Reaches n.id id)

/-- What a check asks of a flow. -/
def Passes [UrlReader] (f : Flow) (r : Registry) : Check → Prop
  | .kinds => ∀ n ∈ f.nodes, ∃ k, n.IsKind r k
  | .names => f.nodeIds.Nodup
  | .ends => ∀ e ∈ f.edges, f.Joined e
  | .cycles => f.arcs.Acyclic
  | .handles => ∀ e ∈ f.edges, f.Named r e
  | .counts => ∀ n ∈ f.nodes, f.Counted r n
  | .sharing => f.Separate r f.nodes
  | .configs => ∀ n ∈ f.nodes, n.Configured r

/-- What an error says of a flow. -/
inductive Faulty [UrlReader] (f : Flow) (r : Registry) : FlowError → Prop where
  /-- A node is of no kind in use. -/
  | unknownKind {before n after} : f.nodes = before ++ n :: after →
      (∀ m ∈ before, ∃ k, m.IsKind r k) → (∀ k, ¬ n.IsKind r k) →
      Faulty f r (.unknownKind n.id n.kindName)
  /-- An id occurs again. -/
  | duplicateNode {before id after} : f.nodeIds = before ++ id :: after → before.Nodup →
      id ∈ before → Faulty f r (.graph (.duplicateNode id))
  /-- An edge has an end that is no node. -/
  | danglingEdge {before e after node} : f.edges = before ++ e :: after →
      (∀ d ∈ before, f.Joined d) → node ∉ f.nodeIds →
      (node = e.source ∨ (node = e.target ∧ e.source ∈ f.nodeIds)) →
      Faulty f r (.graph (.danglingEdge e.id node))
  /-- A node lies on a cycle. -/
  | cycle {id} : id ∈ f.nodeIds → f.arcs.OnCycle id → Faulty f r (.graph (.cycle id))
  /-- An edge has a handle that does not suit its source. -/
  | handle {before e after n k fault} : f.edges = before ++ e :: after →
      (∀ d ∈ before, f.Named r d) → n ∈ f.nodes → n.id = e.source → n.IsKind r k →
      Validation.HandleFault e (k.capability == .condition) fault →
      Faulty f r (.graph (.branch n.id fault))
  /-- Not just one edge leaves a condition for a branch; "true" is looked at first. -/
  | wrongCount {before n after k} (b : Branch) : f.nodes = before ++ n :: after →
      (∀ m ∈ before, f.Counted r m) → n.IsKind r k → k.capability = .condition →
      (f.leavingBy n.id b.handle).length ≠ 1 →
      (b = .no → (f.leavingBy n.id "true").length = 1) →
      Faulty f r (.graph (.branch n.id (.wrongCount b.handle (f.leavingBy n.id b.handle).length)))
  /-- An edge enters a trigger. -/
  | triggerHasIncoming {before n after k e} : f.nodes = before ++ n :: after →
      (∀ m ∈ before, f.Counted r m) → n.IsKind r k → k.capability = .trigger → e ∈ f.edges →
      e.target = n.id → Faulty f r (.graph (.triggerHasIncoming n.id))
  /-- More edges leave a node than its kind allows. -/
  | tooManyOutgoing {before n after k limit} : f.nodes = before ++ n :: after →
      (∀ m ∈ before, f.Counted r m) → n.IsKind r k → k.capability.maxOutgoing = some limit →
      limit < (f.leaving n.id).length →
      Faulty f r (.graph (.tooManyOutgoing n.id limit (f.leaving n.id).length))
  /-- A trigger reaches a node that a trigger declared before it reaches as well. -/
  | sharedByTriggers {before m n after id} : f.nodes = before ++ n :: after →
      f.Separate r before → m ∈ before → m.IsTrigger r → n.IsTrigger r → m.id ≠ n.id →
      id ∈ f.nodeIds → f.arcs.Reaches m.id id → f.arcs.Reaches n.id id →
      Faulty f r (.graph (.sharedByTriggers id m.id n.id))
  /-- A configuration has a field at fault, the first of those that are registered for its kind. -/
  | config {before n after k specs earlier spec later fault} : f.nodes = before ++ n :: after →
      (∀ m ∈ before, m.Configured r) → n.IsKind r k → r.schema? k = some specs →
      specs = earlier ++ spec :: later →
      (∀ e ∈ earlier, ∃ w, Config.normalField e (n.config.get? e.key) = .ok w) →
      Config.normalField spec (n.config.get? spec.key) = .error fault →
      Faulty f r (.config ⟨n.id, spec.key, fault⟩)
  /-- No field of a configuration is at fault, but what they become is not read for its kind. -/
  | untyped {before n after k specs fields e} : f.nodes = before ++ n :: after →
      (∀ m ∈ before, m.Configured r) → n.IsKind r k → r.schema? k = some specs →
      Config.normalise n.config specs = .ok fields →
      Decoder.ofJson (NodeConfig.decoder k) (.object fields) = .error e →
      Faulty f r (.config ⟨n.id, NodeConfig.wholeConfig, .untyped e⟩)

variable {f : Flow} {r : Registry}

/-- A flow is well formed if it passes all checks. -/
theorem wellFormed_iff_passes [UrlReader] : f.WellFormed r ↔ ∀ c, f.Passes r c := by
  constructor
  · intro h c
    cases c with
    | kinds => exact h.known
    | names => exact h.distinct
    | ends => exact h.joined
    | cycles => exact h.acyclic
    | handles =>
      intro e he n hn k hk hs
      have hleaving : e ∈ f.leaving n.id := List.mem_filter.2 ⟨he, by simp [hs]⟩
      exact ⟨fun hc => h.named n hn k hk hc e hleaving,
        fun hc => h.unnamed n hn k hk hc e hleaving⟩
    | counts =>
      intro n hn k hk
      exact ⟨h.forked n hn k hk, h.unentered n hn k hk, h.narrow n hn k hk⟩
    | sharing =>
      rintro m hm ⟨j, hj, hjt⟩ n hn ⟨k, hk, hkt⟩
      exact h.separate m hm j hj hjt n hn k hk hkt
    | configs => exact h.configured
  · intro h
    have hnamed {n e k} (hn : n ∈ f.nodes) (he : e ∈ f.leaving n.id) (hk : n.IsKind r k) :=
      h .handles e (List.mem_of_mem_filter he) n hn k hk (eq_of_beq (List.mem_filter.1 he).2).symm
    exact
      { known := h .kinds
        distinct := h .names
        joined := h .ends
        acyclic := h .cycles
        named := fun n hn k hk hc e he => (hnamed hn he hk).1 hc
        forked := fun n hn k hk => (h .counts n hn k hk).1
        unnamed := fun n hn k hk hc e he => (hnamed hn he hk).2 hc
        unentered := fun n hn k hk => (h .counts n hn k hk).2.1
        narrow := fun n hn k hk => (h .counts n hn k hk).2.2
        separate := fun m hm j hj hjt n hn k hk hkt =>
          h .sharing m hm ⟨j, hj, hjt⟩ n hn ⟨k, hk, hkt⟩
        configured := h .configs }

end Flow

namespace Validation

open Fallible

variable {f : Flow} {r : Registry} {nodes before after : List KindedNode} {n : KindedNode}
  {edges : List BranchedEdge} {err : FlowError}

/-! ## What is reported is a defect -/

/-- Nodes with the kinds found are nodes as they stand. -/
theorem kinded_split (hk : kinded r f.nodes = .ok (before ++ n :: after)) :
    f.nodes = before.map KindedNode.spec ++ n.spec :: after.map KindedNode.spec ∧
      kinded r (before.map KindedNode.spec) = .ok before ∧ n.spec.IsKind r n.kind := by
  obtain ⟨hspec, hkind⟩ := kinded_eq_ok_iff.1 hk
  obtain ⟨hbefore, hrest⟩ := List.forall_mem_append.1 hkind
  refine ⟨?_, kinded_eq_ok_iff.2 ⟨rfl, hbefore⟩, hrest n List.mem_cons_self⟩
  rw [← hspec, List.map_append, List.map_cons]

theorem faulty_of_kinded [UrlReader] (h : kinded r f.nodes = .error err) :
    err.check = .kinds ∧ f.Faulty r err := by
  obtain ⟨before, n, after, hns, hbefore, hn, rfl⟩ := kinded_eq_error_iff.1 h
  exact ⟨rfl, .unknownKind hns hbefore hn⟩

theorem faulty_of_repeated? [UrlReader] {id : String} (h : repeated? [] f.nodeIds = some id) :
    f.Faulty r (.graph (.duplicateNode id)) := by
  obtain ⟨before, after, hids, hbefore, hid⟩ := repeated?_eq_some h
  have hnd : before.Nodup := (repeated?_eq_none_iff.1 hbefore).1
  exact .duplicateNode hids hnd (hid.resolve_right List.not_mem_nil)

theorem faulty_of_dangling? [UrlReader] {edge node : String}
    (h : dangling? f.nodeIds f.edges = some (edge, node)) :
    f.Faulty r (.graph (.danglingEdge edge node)) := by
  obtain ⟨before, e, after, hes, hbefore, rfl, hnode, hend⟩ := dangling?_eq_some h
  exact .danglingEdge hes (dangling?_eq_none_iff.1 hbefore) hnode hend

theorem faulty_of_cyclePoint? [UrlReader] (hends : ∀ e ∈ f.edges, f.Joined e) {id : String}
    (h : f.arcs.cyclePoint? f.nodeIds = some id) : f.Faulty r (.graph (.cycle id)) := by
  have hwithin : f.arcs.Within f.nodeIds := within_arcs_iff.2 hends
  have hcycle := Digraph.onCycle_of_cyclePoint?_eq_some hwithin h
  -- the cycle has a last arc, which leads to the node
  obtain ⟨u, -, hlast⟩ := Relation.TransGen.tail'_iff.1 hcycle
  exact .cycle (hwithin u id hlast).2 hcycle

/-- Whether an edge leaves a condition is what the kind of its source says. -/
theorem isCondition_eq (hk : kinded r f.nodes = .ok nodes) (hnd : f.nodeIds.Nodup)
    (hn : n ∈ nodes) : isCondition nodes n.id = (n.kind.capability == .condition) := by
  have hcond := isCondition_iff (map_id_of_kinded hk ▸ hnd) hn
  rw [Bool.eq_iff_iff, hcond, beq_iff_eq]

theorem exists_branchOf_iff_named (hk : kinded r f.nodes = .ok nodes) (hnd : f.nodeIds.Nodup)
    {e : Edge} (he : e.source ∈ f.nodeIds) :
    (∃ b, branchOf e (isCondition nodes e.source) = .ok b) ↔ f.Named r e := by
  obtain ⟨n, hn, hs⟩ := (mem_nodeIds_iff hk).1 he
  -- the source is one node only, and so there is one kind to look at
  have honly : f.Named r e ↔
      (n.kind.capability = .condition →
        e.sourceHandle = some "true" ∨ e.sourceHandle = some "false") ∧
      (n.kind.capability ≠ .condition → e.sourceHandle = none ∨ e.sourceHandle = some "") := by
    unfold Flow.Named
    rw [← forall_kinded_iff hk]
    constructor
    · exact fun h => h n hn hs
    · intro h m hm hms
      have heq : m = n :=
        List.inj_on_of_nodup_map (map_id_of_kinded hk ▸ hnd) hm hn (hms.trans hs.symm)
      rwa [heq]
  rw [honly, ← hs, isCondition_eq hk hnd hn]
  by_cases hc : n.kind.capability = .condition
  · simp [hc, exists_branchOf_condition_iff]
  · simp [hc, beq_false_of_ne hc, exists_branchOf_plain_iff]

theorem faulty_of_branched [UrlReader] (hk : kinded r f.nodes = .ok nodes) (hnd : f.nodeIds.Nodup)
    (hends : ∀ e ∈ f.edges, f.Joined e) (h : branched nodes f.edges = .error err) :
    err.check = .handles ∧ f.Faulty r err := by
  obtain ⟨before, e, after, fault, hes, hbefore, hfault, rfl⟩ := branched_eq_error h
  have hjoined : ∀ d ∈ before ++ e :: after, f.Joined d := hes ▸ hends
  have hnamed : ∀ d ∈ before, f.Named r d := fun d hd =>
    (exists_branchOf_iff_named hk hnd (hjoined d (List.mem_append_left _ hd)).1).1 (hbefore d hd)
  obtain ⟨n, hn, hs⟩ := (mem_nodeIds_iff hk).1 (hjoined e (by simp)).1
  rw [← hs, isCondition_eq hk hnd hn] at hfault
  obtain ⟨hspec, hkind⟩ := kinded_eq_ok_iff.1 hk
  have hmem : n.spec ∈ f.nodes := hspec ▸ List.mem_map_of_mem hn
  refine ⟨?_, hs ▸ .handle hes hnamed hmem hs (hkind n hn) hfault⟩
  generalize (n.kind.capability == .condition) = fromCondition at hfault
  cases hfault <;> rfl

/-- The counts at some nodes are right. -/
theorem forall_counted_iff (hk : kinded r f.nodes = .ok nodes) (hnd : f.nodeIds.Nodup)
    (hb : branched nodes f.edges = .ok edges) {specs : List NodeSpec} {ks : List KindedNode}
    (hks : kinded r specs = .ok ks) (hsub : ks ⊆ nodes) :
    (∀ n ∈ ks, nodeFault? edges n = none) ↔ ∀ n ∈ specs, f.Counted r n := by
  unfold Flow.Counted
  rw [← forall_kinded_iff hks]
  exact forall₂_congr fun n hn => nodeFault?_eq_none_iff_leaving hk hnd hb (hsub hn)

theorem faulty_of_nodeFault? [UrlReader] (hk : kinded r f.nodes = .ok nodes) (hnd : f.nodeIds.Nodup)
    (hb : branched nodes f.edges = .ok edges) {e : GraphError}
    (h : nodes.findSome? (nodeFault? edges) = some e) :
    (FlowError.graph e).check = .counts ∧ f.Faulty r (.graph e) := by
  obtain ⟨before, n, after, rfl, hn, hbefore⟩ := List.findSome?_eq_some_iff.1 h
  obtain ⟨hns, hkbefore, hkind⟩ := kinded_split hk
  have hcounted : ∀ m ∈ before.map KindedNode.spec, f.Counted r m :=
    (forall_counted_iff hk hnd hb hkbefore (List.subset_append_left _ _)).1 hbefore
  have hmem : n ∈ before ++ n :: after := by simp
  have hedges := (branched_eq_ok_iff.1 hb).1
  cases countFault_of_nodeFault? hn with
  | @wrongCount b hc hcount hyes =>
    simp only [branchCount_eq_leavingBy hk hnd hb hmem hc] at hcount hyes ⊢
    exact ⟨rfl, .wrongCount b hns hcounted hkind hc hcount hyes⟩
  | triggerHasIncoming hc hin =>
    obtain ⟨d, hd, htarget⟩ := (isEntered_iff hedges n.id).1 hin
    exact ⟨rfl, .triggerHasIncoming hns hcounted hkind hc hd htarget⟩
  | tooManyOutgoing hlimit hlt =>
    rw [outDegree_eq hedges] at hlt ⊢
    exact ⟨rfl, .tooManyOutgoing hns hcounted hkind hlimit hlt⟩

/-- What holds of all nodes found to be triggers holds of all triggers. -/
theorem forall_isTrigger_iff {specs : List NodeSpec} (hk : kinded r specs = .ok nodes)
    {P : NodeSpec → Prop} :
    (∀ n ∈ nodes, n.kind.capability = .trigger → P n.spec) ↔
      ∀ n ∈ specs, n.IsTrigger r → P n := by
  rw [forall_kinded_iff hk (P := fun n k => k.capability = .trigger → P n)]
  refine forall₂_congr fun n _ => ⟨?_, fun h k hk ht => h ⟨k, hk, ht⟩⟩
  rintro h ⟨k, hk, ht⟩
  exact h k hk ht

/-- The triggers among some nodes share nothing. -/
theorem shared?_eq_none_iff_separate {specs : List NodeSpec} (hk : kinded r specs = .ok nodes)
    (hnd : (specs.map NodeSpec.id).Nodup) :
    shared? f.arcs [] (triggerIds nodes) = none ↔ f.Separate r specs := by
  -- the arcs are those of a flow that has the same edges and just these nodes
  rw [show f.arcs = ({ f with nodes := specs } : Flow).arcs from rfl,
    shared?_triggerIds_eq_none_iff (f := { f with nodes := specs }) hk hnd]
  unfold Flow.Separate
  rw [← forall_isTrigger_iff hk]
  refine forall₃_congr fun m _ _ => ?_
  exact forall_isTrigger_iff hk
    (P := fun n => m.id ≠ n.id → ∀ id, ¬ (f.arcs.Reaches m.id id ∧ f.arcs.Reaches n.id id))

theorem faulty_of_shared? [UrlReader] (hk : kinded r f.nodes = .ok nodes) (hnd : f.nodeIds.Nodup)
    (hends : ∀ e ∈ f.edges, f.Joined e) {id first second : String}
    (h : shared? f.arcs [] (triggerIds nodes) = some (id, first, second)) :
    f.Faulty r (.graph (.sharedByTriggers id first second)) := by
  obtain ⟨ids, rest, hids, hnone, hsecond, howner⟩ := shared?_eq_some h
  obtain ⟨hmem, hfirst⟩ := howner.resolve_right (by simp)
  obtain ⟨before, n, after, rfl, rfl, hnt, rfl⟩ := triggerIds_eq_append hids
  obtain ⟨m, hm, hmt, rfl⟩ := mem_triggerIds_iff.1 hmem
  obtain ⟨hns, hkbefore, hkind⟩ := kinded_split hk
  have hspec : m.spec ∈ before.map KindedNode.spec := List.mem_map_of_mem hm
  have hdistinct := map_id_of_kinded hk ▸ hnd
  rw [List.map_append, List.map_cons] at hdistinct
  obtain ⟨hndbefore, -, hne⟩ := List.nodup_append.1 hdistinct
  have hseparate : f.Separate r (before.map KindedNode.spec) := by
    refine (shared?_eq_none_iff_separate hkbefore ?_).1 hnone
    rwa [List.map_map]
  have hid : id ∈ f.nodeIds := by
    have hwithin : f.arcs.Within f.nodeIds := within_arcs_iff.2 hends
    refine hsecond.of_closed (fun u v ha _ => (hwithin u v ha).2) ?_
    exact (mem_nodeIds_iff hk).2 ⟨n, by simp, rfl⟩
  have hmkind := (kinded_eq_ok_iff.1 hkbefore).2 m hm
  exact .sharedByTriggers hns hseparate hspec ⟨m.kind, hmkind, hmt⟩ ⟨n.kind, hkind, hnt⟩
    (hne _ (List.mem_map_of_mem hm) _ List.mem_cons_self) hid hfirst hsecond

theorem faulty_of_configured [UrlReader] (hk : kinded r f.nodes = .ok nodes)
    (h : configured r nodes = .error err) : err.check = .configs ∧ f.Faulty r err := by
  obtain ⟨before, n, after, rfl, hbefore, hn⟩ := configured_eq_error_iff.1 h
  obtain ⟨hns, hkbefore, hkind⟩ := kinded_split hk
  have hconfigured : ∀ m ∈ before.map KindedNode.spec, m.Configured r :=
    (forall_kinded_iff hkbefore).1 hbefore
  obtain ⟨specs, hspecs⟩ := hkind.exists_schema?
  obtain ⟨field, fault, hraw, rfl⟩ := (Registry.configure_eq_error_iff hspecs).1 hn
  refine ⟨rfl, ?_⟩
  rcases NodeConfig.ofRaw_eq_error_iff.1 hraw with hfield | ⟨fields, e, hfields, he, rfl, rfl⟩
  · obtain ⟨earlier, spec, later, hsplit, hearlier, hspec, rfl⟩ :=
      Config.normalise_eq_error_iff.1 hfield
    exact .config hns hconfigured hkind hspecs hsplit hearlier hspec
  · exact .untyped hns hconfigured hkind hspecs hfields he

theorem refuse_map_eq_ok_iff {α : Type} {o : Option α} {g : α → GraphError} {u : Unit} :
    refuse (o.map g) = .ok u ↔ o = none := by
  rw [refuse_eq_ok_iff, Option.map_eq_none_iff]

end Validation

/-! ## Errors are true -/

namespace Flow

open Validation Fallible

variable {f : Flow} {r : Registry} {α β : Type} {c d : Check}

/-- A flow passes all checks before one. -/
def PassesBefore [UrlReader] (f : Flow) (r : Registry) (c : Check) : Prop :=
  ∀ b : Check, b.Precedes c → f.Passes r b

theorem passesBefore_kinds [UrlReader] : f.PassesBefore r .kinds := fun b hb =>
  absurd hb (Nat.not_lt_zero b.rank)

theorem PassesBefore.next [UrlReader] (h : f.PassesBefore r c) (hc : f.Passes r c)
    (hrank : d.rank = c.rank + 1) : f.PassesBefore r d := by
  intro b hb
  have hle : b.rank ≤ c.rank := by
    have hlt : b.rank < d.rank := hb
    rw [hrank] at hlt
    exact Nat.lt_succ_iff.1 hlt
  rcases Nat.lt_or_eq_of_le hle with hlt | heq
  · exact h b hlt
  · rwa [Check.eq_of_rank_eq heq]

/-- The errors of a part of validation are true, and the checks before them are passed. -/
def Truthful [UrlReader] (f : Flow) (r : Registry) (x : Except FlowError α) : Prop :=
  ∀ err, x = .error err → f.PassesBefore r err.check ∧ f.Faulty r err

/-- The check made next reports a defect, or what comes after it is truthful. -/
theorem PassesBefore.truthful_bind [UrlReader] {x : Except FlowError α}
    {next : α → Except FlowError β}
    (h : f.PassesBefore r c) (hreport : ∀ err, x = .error err → err.check = c ∧ f.Faulty r err)
    (hnext : ∀ a, x = .ok a → f.Truthful r (next a)) : f.Truthful r (x >>= next) := by
  intro err herr
  obtain hx | ⟨a, ha, hrest⟩ := bind_eq_error_iff.1 herr
  · obtain ⟨hcheck, hfaulty⟩ := hreport err hx
    exact ⟨hcheck ▸ h, hfaulty⟩
  · exact hnext a ha err hrest

theorem report_of_refuse [UrlReader] {o : Option GraphError}
    (h : ∀ e, o = some e → (FlowError.graph e).check = c ∧ f.Faulty r (.graph e)) :
    ∀ err, refuse o = .error err → err.check = c ∧ f.Faulty r err := by
  intro err herr
  cases o with
  | none => cases herr
  | some e =>
    cases herr
    exact h e rfl

theorem report_of_refuse_map [UrlReader] {o : Option α} {g : α → GraphError}
    (hcheck : ∀ a, (FlowError.graph (g a)).check = c)
    (h : ∀ a, o = some a → f.Faulty r (.graph (g a))) :
    ∀ err, refuse (o.map g) = .error err → err.check = c ∧ f.Faulty r err := by
  refine report_of_refuse fun e he => ?_
  obtain ⟨a, ha, rfl⟩ := Option.map_eq_some_iff.1 he
  exact ⟨hcheck a, h a ha⟩

theorem truthful_validate [UrlReader] (f : Flow) (r : Registry) : f.Truthful r (f.validate r) := by
  have hkinds : f.PassesBefore r .kinds := passesBefore_kinds
  refine hkinds.truthful_bind (fun _ => faulty_of_kinded) fun nodes hk => ?_
  have hnames : f.PassesBefore r .names :=
    hkinds.next (exists_kinded_eq_ok_iff.1 ⟨nodes, hk⟩) rfl
  refine hnames.truthful_bind
    (report_of_refuse_map (fun _ => rfl) fun _ => faulty_of_repeated?) fun _ hnone => ?_
  have hnd : f.nodeIds.Nodup := (repeated?_eq_none_iff.1 (refuse_map_eq_ok_iff.1 hnone)).1
  have hends : f.PassesBefore r .ends := hnames.next hnd rfl
  refine hends.truthful_bind
    (report_of_refuse_map (fun _ => rfl) fun _ => faulty_of_dangling?) fun _ hnone => ?_
  have hjoined : ∀ e ∈ f.edges, f.Joined e :=
    dangling?_eq_none_iff.1 (refuse_map_eq_ok_iff.1 hnone)
  have hcycles : f.PassesBefore r .cycles := hends.next hjoined rfl
  refine hcycles.truthful_bind
    (report_of_refuse_map (fun _ => rfl) fun _ => faulty_of_cyclePoint? hjoined) fun _ hnone => ?_
  have hacyclic : f.arcs.Acyclic :=
    (Digraph.cyclePoint?_eq_none_iff (within_arcs_iff.2 hjoined)).1 (refuse_map_eq_ok_iff.1 hnone)
  have hhandles : f.PassesBefore r .handles := hcycles.next hacyclic rfl
  refine hhandles.truthful_bind (fun _ => faulty_of_branched hk hnd hjoined) fun edges hb => ?_
  have hnamed : ∀ e ∈ f.edges, f.Named r e := fun e he =>
    (exists_branchOf_iff_named hk hnd (hjoined e he).1).1
      (exists_branched_eq_ok_iff.1 ⟨edges, hb⟩ e he)
  have hcounts : f.PassesBefore r .counts := hhandles.next hnamed rfl
  refine hcounts.truthful_bind
    (report_of_refuse fun _ => faulty_of_nodeFault? hk hnd hb) fun _ hnone => ?_
  have hcounted : ∀ n ∈ f.nodes, f.Counted r n :=
    (forall_counted_iff hk hnd hb hk (List.Subset.refl _)).1
      (List.findSome?_eq_none_iff.1 (refuse_eq_ok_iff.1 hnone))
  have hsharing : f.PassesBefore r .sharing := hcounts.next hcounted rfl
  refine hsharing.truthful_bind
    (report_of_refuse_map (fun _ => rfl) fun _ => faulty_of_shared? hk hnd hjoined)
    fun _ hnone => ?_
  have hseparate : f.Separate r f.nodes :=
    (shared?_eq_none_iff_separate hk hnd).1 (refuse_map_eq_ok_iff.1 hnone)
  have hconfigs : f.PassesBefore r .configs := hsharing.next hseparate rfl
  exact hconfigs.truthful_bind (fun _ => faulty_of_configured hk) fun _ _ => nofun

/-- A flow that is refused passes all checks before the one that reports the error, and has the
defect that the error tells of. -/
theorem validate_truthful [UrlReader] {err : FlowError} (h : f.validate r = .error err) :
    (∀ c : Check, c.Precedes err.check → f.Passes r c) ∧ f.Faulty r err :=
  truthful_validate f r err h

/-- With no fields registered for its kind, nothing of what a trigger is told is kept, and the
trigger is refused as a whole. -/
example :
    let bare := { NodeMetadata.builtin .expirationTrigger with fields := [] }
    (match (Flow.empty "flow-1" "Soon" |>.addNode (.ofKind "soon" .expirationTrigger)).validate
        (Registry.builtin.register bare) with
      | .error (.config e) => some (e.nodeId, e.field)
      | _ => none) = some ("soon", "config") := by
  decide +kernel

namespace Example

/-- Two triggers lead to one notification, and nothing is configured yet. -/
def junction : Flow :=
  Flow.empty "flow-junction" "Two ways to a warning"
    |>.addNode (.ofKind "trigger-1" .expirationTrigger)
    |>.addNode (.ofKind "trigger-2" .inventoryStatusTrigger)
    |>.addNode (.ofKind "notify-1" .sendNotification)
    |>.connect "trigger-1" "notify-1"
    |>.connect "trigger-2" "notify-1"

end Example

/-- The triggers are reported, and not the missing configurations: the graph is acyclic, and both
triggers reach the notification. -/
theorem validate_truthful_junction :
    ∃ err, Example.junction.validate .builtin = .error err ∧
      err = .graph (.sharedByTriggers "notify-1" "trigger-1" "trigger-2") ∧
      Example.junction.arcs.Acyclic ∧ Example.junction.Faulty .builtin err := by
  have hreport : (match Example.junction.validate .builtin with
      | .error (.graph (.sharedByTriggers node first second)) => some (node, first, second)
      | _ => none) = some ("notify-1", "trigger-1", "trigger-2") := by
    decide +kernel
  split at hreport
  · next node first second h =>
    obtain ⟨hpasses, hfaulty⟩ := validate_truthful h
    cases hreport
    exact ⟨_, h, rfl, hpasses .cycles (by decide), hfaulty⟩
  · cases hreport

end Flow
end KitchenFlow
