import KitchenFlow.Proofs.Graph.Checks

/-!
# What the checks of a flow report

A check that goes through the nodes, the edges or the triggers of a flow in their order reports the
first of them that it finds fault with. This module says so of each check: the list splits into what
is passed, what is reported, and a rest that was not looked at. What this means for the flow is the
matter of `Proofs.Graph.Defects`.
-/

namespace KitchenFlow

theorem Registry.resolve_eq_error_iff {r : Registry} {n : NodeSpec} {err : FlowError} :
    r.resolve n.id n.kindName = .error err ↔
      (∀ k, ¬ n.IsKind r k) ∧ err = .unknownKind n.id n.kindName := by
  simp only [NodeSpec.isKind_iff, Registry.resolve]
  cases r.resolve? n.kindName with
  | none => simp [eq_comm]
  | some k => simp

namespace Validation

open Fallible

/-! ## Kinds and names -/

theorem kinded_eq_error_iff {r : Registry} {ns : List NodeSpec} {err : FlowError} :
    kinded r ns = .error err ↔
      ∃ before n after, ns = before ++ n :: after ∧ (∀ m ∈ before, ∃ k, m.IsKind r k) ∧
        (∀ k, ¬ n.IsKind r k) ∧ err = .unknownKind n.id n.kindName := by
  rw [kinded_eq_mapM, mapM_eq_error_iff]
  simp only [exists_map_eq_ok_iff, map_eq_error_iff, Registry.resolve_eq_ok_iff,
    Registry.resolve_eq_error_iff]

/-- The name reported is the first that occurred before. -/
theorem repeated?_eq_some {seen ids : List String} {id : String}
    (h : repeated? seen ids = some id) :
    ∃ before after, ids = before ++ id :: after ∧ repeated? seen before = none ∧
      (id ∈ before ∨ id ∈ seen) := by
  induction ids generalizing seen with
  | nil => cases h
  | cons x ids ih =>
    rw [repeated?] at h
    split at h
    · next hx =>
      cases h
      exact ⟨[], ids, rfl, rfl, .inr (List.contains_iff_mem.1 hx)⟩
    · next hx =>
      obtain ⟨before, after, rfl, hbefore, hid⟩ := ih h
      refine ⟨x :: before, after, rfl, ?_, ?_⟩
      · rw [repeated?, if_neg hx, hbefore]
      · rw [List.mem_cons] at hid ⊢
        tauto

/-- The edge reported is the first that does not join nodes. -/
theorem dangling?_eq_some {ids : List String} {es : List Edge} {edge node : String}
    (h : dangling? ids es = some (edge, node)) :
    ∃ before e after, es = before ++ e :: after ∧ dangling? ids before = none ∧ edge = e.id ∧
      node ∉ ids ∧ (node = e.source ∨ (node = e.target ∧ e.source ∈ ids)) := by
  induction es with
  | nil => cases h
  | cons e es ih =>
    rw [dangling?] at h
    split at h
    · next hs =>
      cases h
      exact ⟨[], e, es, rfl, rfl, rfl, by simpa using hs, .inl rfl⟩
    · next hs =>
      split at h
      · next ht =>
        cases h
        exact ⟨[], e, es, rfl, rfl, rfl, by simpa using ht, .inr ⟨rfl, by simpa using hs⟩⟩
      · next ht =>
        obtain ⟨before, d, after, rfl, hbefore, hd⟩ := ih h
        refine ⟨e :: before, d, after, rfl, ?_, hd⟩
        rw [dangling?, if_neg hs, if_neg ht, hbefore]

/-! ## Branches -/

/-- What can be wrong with the handle of an edge, given whether it leaves a condition. -/
inductive HandleFault (e : Edge) : Bool → BranchFault → Prop where
  | badHandle {h} : e.sourceHandle = some h → h ≠ "" → h ≠ "true" → h ≠ "false" →
      HandleFault e true (.badHandle e.id h)
  | noHandle : e.sourceHandle = none ∨ e.sourceHandle = some "" →
      HandleFault e true (.noHandle e.id)
  | strayHandle {h} : e.sourceHandle = some h → h ≠ "" → HandleFault e false (.strayHandle e.id h)

theorem handleFault_of_branchOf {e : Edge} {fromCondition : Bool} {fault : BranchFault}
    (h : branchOf e fromCondition = .error fault) : HandleFault e fromCondition fault := by
  unfold branchOf at h
  split at h
  · next s hs =>
    obtain ⟨hsource, hne⟩ := handle?_eq_some_iff.1 hs
    split at h
    · cases h
    · next hnone =>
      cases h
      have hno : ∀ b : Branch, s ≠ b.handle := by
        rintro b rfl
        rw [Branch.ofHandle?_handle] at hnone
        cases hnone
      exact .badHandle hsource hne (hno .yes) (hno .no)
  · next hnone =>
    cases h
    exact .noHandle (handle?_eq_none_iff.1 hnone)
  · next s hs =>
    cases h
    obtain ⟨hsource, hne⟩ := handle?_eq_some_iff.1 hs
    exact .strayHandle hsource hne
  · cases h

theorem branched_eq_error {nodes : List KindedNode} {es : List Edge} {err : FlowError}
    (h : branched nodes es = .error err) :
    ∃ before e after fault, es = before ++ e :: after ∧
      (∀ d ∈ before, ∃ b, branchOf d (isCondition nodes d.source) = .ok b) ∧
      HandleFault e (isCondition nodes e.source) fault ∧
      err = .graph (.branch e.source fault) := by
  rw [branched_eq_mapM, mapM_eq_error_iff] at h
  obtain ⟨before, e, after, rfl, hbefore, he⟩ := h
  have hok : ∀ d ∈ before, ∃ b, branchOf d (isCondition nodes d.source) = .ok b := by
    intro d hd
    obtain ⟨_, hb⟩ := hbefore d hd
    split at hb
    · cases hb
    · next b hb' => exact ⟨b, hb'⟩
  split at he
  · next fault hfault =>
    cases he
    exact ⟨before, e, after, fault, rfl, hok, handleFault_of_branchOf hfault, rfl⟩
  · cases he

/-! ## Counts of edges -/

/-- What can be wrong with the number of edges at a node. -/
inductive CountFault (bs : List BranchedEdge) (n : KindedNode) : GraphError → Prop where
  | wrongCount {b} : n.kind.capability = .condition → branchCount bs n.id b ≠ 1 →
      (b = .no → branchCount bs n.id .yes = 1) →
      CountFault bs n (.branch n.id (.wrongCount b.handle (branchCount bs n.id b)))
  | triggerHasIncoming : n.kind.capability = .trigger → isEntered bs n.id = true →
      CountFault bs n (.triggerHasIncoming n.id)
  | tooManyOutgoing {limit} : n.kind.capability.maxOutgoing = some limit →
      limit < outDegree bs n.id →
      CountFault bs n (.tooManyOutgoing n.id limit (outDegree bs n.id))

theorem countFault_of_nodeFault? {bs : List BranchedEdge} {n : KindedNode} {e : GraphError}
    (h : nodeFault? bs n = some e) : CountFault bs n e := by
  rw [nodeFault?] at h
  split at h
  · next hc =>
    rw [List.findSome?_cons, List.findSome?_cons, List.findSome?_nil] at h
    -- the edges for "true" are counted first
    by_cases hyes : branchCount bs n.id .yes = 1
    · by_cases hno : branchCount bs n.id .no = 1
      · simp only [hyes, hno, if_true, reduceCtorEq] at h
      · simp only [hyes, hno, if_true, if_false, Option.some.injEq] at h
        subst h
        exact .wrongCount hc hno fun _ => hyes
    · simp only [hyes, if_false, Option.some.injEq] at h
      subst h
      exact .wrongCount hc hyes fun hb => by cases hb
  · next hc =>
    split at h
    · next hin =>
      cases h
      exact .triggerHasIncoming hc hin
    · cases h
  · obtain ⟨limit, hlimit, h⟩ := Option.bind_eq_some_iff.1 h
    dsimp only at h
    split at h
    · next hlt =>
      cases h
      exact .tooManyOutgoing hlimit hlt
    · cases h

/-! ## Sharing -/

theorem lookup_reached_eq_some {reached : List String} {owners : List (String × String)}
    {t v first : String}
    (h : (reached.map (fun v => (v, t)) ++ owners).lookup v = some first) :
    (v ∈ reached ∧ first = t) ∨ owners.lookup v = some first := by
  induction reached with
  | nil => exact .inr h
  | cons w reached ih =>
    rw [List.map_cons, List.cons_append, List.lookup_cons] at h
    by_cases hw : v = w
    · rw [hw, beq_self_eq_true] at h
      exact .inl ⟨hw ▸ List.mem_cons_self, (Option.some.inj h).symm⟩
    · rw [beq_false_of_ne hw] at h
      exact (ih h).imp_left fun hreached => ⟨List.mem_cons_of_mem _ hreached.1, hreached.2⟩

/-- The second trigger reported is the first that reaches what has an owner, and the first trigger
reported is an owner of what it reaches. -/
theorem shared?_eq_some {g : Digraph} {owners : List (String × String)} {triggers : List String}
    {v first second : String} (h : shared? g owners triggers = some (v, first, second)) :
    ∃ before after, triggers = before ++ second :: after ∧ shared? g owners before = none ∧
      g.Reaches second v ∧
      ((first ∈ before ∧ g.Reaches first v) ∨ owners.lookup v = some first) := by
  induction triggers generalizing owners with
  | nil => cases h
  | cons t rest ih =>
    rw [shared?] at h
    split at h
    · next found hfound =>
      cases h
      obtain ⟨u, hu, hmap⟩ := List.exists_of_findSome?_eq_some hfound
      obtain ⟨owner, howner, heq⟩ := Option.map_eq_some_iff.1 hmap
      cases heq
      exact ⟨[], rest, rfl, rfl, Digraph.mem_discovery_iff.1 hu, .inr howner⟩
    · next hnone =>
      obtain ⟨before, after, rfl, hbefore, hreach, hfirst⟩ := ih h
      refine ⟨t :: before, after, rfl, ?_, hreach, ?_⟩
      · rw [shared?, hnone]
        exact hbefore
      -- an owner is a trigger searched from on the way, or it was an owner before
      · rcases hfirst with ⟨hmem, hfirst⟩ | howner
        · exact .inl ⟨List.mem_cons_of_mem _ hmem, hfirst⟩
        · refine (lookup_reached_eq_some howner).imp_left ?_
          rintro ⟨hv, rfl⟩
          exact ⟨List.mem_cons_self, Digraph.mem_discovery_iff.1 hv⟩

/-- The triggers before a trigger are those of the nodes before it. -/
theorem triggerIds_eq_append {nodes : List KindedNode} {ids rest : List String} {id : String}
    (h : triggerIds nodes = ids ++ id :: rest) :
    ∃ before n after, nodes = before ++ n :: after ∧ triggerIds before = ids ∧
      n.kind.capability = .trigger ∧ n.id = id := by
  unfold triggerIds at h
  obtain ⟨front, back, hfilter, hfront, hback⟩ := List.map_eq_append_iff.1 h
  obtain ⟨n, back, rfl, hid, -⟩ := List.map_eq_cons_iff.1 hback
  obtain ⟨before, after, rfl, rfl, hafter⟩ := List.filter_eq_append_iff.1 hfilter
  obtain ⟨skipped, last, rfl, hskipped, hn, -⟩ := List.filter_eq_cons_iff.1 hafter
  refine ⟨before ++ skipped, n, last, by simp, ?_, by simpa using hn, hid⟩
  have hnone : skipped.filter (fun n => n.kind.capability == .trigger) = [] :=
    List.filter_eq_nil_iff.2 hskipped
  rw [triggerIds, List.filter_append, hnone, List.append_nil, hfront]

/-! ## Configurations -/

theorem configured_eq_error_iff [UrlReader] {r : Registry} {ns : List KindedNode}
    {err : FlowError} :
    configured r ns = .error err ↔
      ∃ before n after, ns = before ++ n :: after ∧
        (∀ m ∈ before, ∃ c, r.configure m.id m.kind m.spec.config = .ok c) ∧
        r.configure n.id n.kind n.spec.config = .error err := by
  rw [configured_eq_mapM, mapM_eq_error_iff]
  simp only [exists_map_eq_ok_iff, map_eq_error_iff]

end Validation
end KitchenFlow
