import KitchenFlow.Proofs.Graph.Depiction
import KitchenFlow.Proofs.Run.Story

/-!
# Routes

Which way a run takes through its graph is decided by the effects at its nodes. So the ways that a
run can take at all are told here without any world: `ComesTo` says which effects there can be at a
node, and `Routes` what comes next after each of them. A run that others interfere with takes a
route as well as one that is left alone.

    Routes.forall_visit   what holds of the first nodes, and is handed on, holds of all
    Routes.nodup_trace    no node is entered twice
    Routes.closed         nothing is left out, unless the run is broken off
-/

namespace KitchenFlow

/-! ## What comes of a node -/

/-- The effects that there can be at a node with a task, in a run on an item. -/
inductive NodeTask.ComesTo (e : Engine) (item : InventoryItem) : NodeTask → NodeEffect → Prop where
  | expiry {c} : ComesTo e item (.expiry c) (.asked (c.isMatch item) item.id item.name)
  | status {c} : ComesTo e item (.status c) (.asked (c.isMatch item) item.id item.name)
  | choose {c b} : ComesTo e item (.choose c) (.branched c b)
  | write {c key value} : ComesTo e item (.write c) (.wrote key value)
  | suggest {c recipe source} : ComesTo e item (.suggest c) (.suggested item.name recipe source)
  | crash {c message} : ComesTo e item (.suggest c) (.aborted message)
  | skip {a d} : ComesTo e item (.act a) (.acted d item.id .duplicate)
  | rehearse {a d} : ComesTo e item (.act a) (.acted d item.id (.demo testReason))
  | send {a d p w w'} : Action.attempt e p a w = (.sent, w') →
      ComesTo e item (.act a) (.acted d item.id .dispatched)
  | lack {a d reason p w w'} : Action.attempt e p a w = (.unavailable reason, w') →
      ComesTo e item (.act a) (.acted d item.id (.demo reason))
  | fail {a d err p w w'} : Action.attempt e p a w = (.failed err, w') →
      ComesTo e item (.act a) (.acted d item.id (.failed err))
  | breakdown {a message p w w'} : Action.attempt e p a w = (.broke message, w') →
      ComesTo e item (.act a) (.aborted message)

namespace NodeTask

theorem comesTo_suggestRecipe (e : Engine) (x : RunContext) (p : Payload)
    (c : GenerateRecipeConfig) (w : World) :
    ComesTo e p.item (.suggest c) (suggestRecipe e x p c w).1 := by
  unfold suggestRecipe
  cases x.mode with
  | test => exact .suggest
  | live =>
    dsimp only
    rcases Recipe.complete e c (Recipe.prompt c p) w with ⟨answer, w'⟩
    cases answer with
    | answered r => cases r <;> exact .suggest
    | broke message => exact .crash

theorem comesTo_carryOut (e : Engine) (x : RunContext) (id : String) (p : Payload) (a : Action)
    (w : World) : ComesTo e p.item (.act a) (carryOut e x id p a w).1 := by
  unfold carryOut
  dsimp only
  rcases reserve x (actionKey x p id) w with ⟨granted, w₁⟩
  cases granted with
  | false => exact .skip
  | true =>
    dsimp only
    rcases ha : a.attempt e p w₁ with ⟨result, w₂⟩
    cases result with
    | sent => exact .send ha
    | unavailable reason => exact .lack ha
    | failed err => exact .fail ha
    | broke message => exact .breakdown ha

/-- A step comes to one of the effects that there can be. -/
theorem comesTo_step (e : Engine) (x : RunContext) (id : String) (p : Payload) (w : World)
    (task : NodeTask) : ComesTo e p.item task (task.step e x id p w).1 := by
  cases task with
  | expiry c => exact .expiry
  | status c => exact .status
  | choose c => exact .choose
  | write c => exact .write
  | suggest c => exact comesTo_suggestRecipe e x p c w
  | act a =>
    unfold step
    cases x.mode with
    | test => exact .rehearse
    | live => exact comesTo_carryOut e x id p a w

/-- Only actions come out in some way. -/
theorem ComesTo.exists_act {e : Engine} {item : InventoryItem} {task : NodeTask}
    {effect : NodeEffect} {o : ActionOutcome} (h : ComesTo e item task effect)
    (ho : effect.outcome? = some o) : ∃ a, task = .act a := by
  cases h with
  | skip | rehearse | send | lack | fail => exact ⟨_, rfl⟩
  | expiry | status | choose | write | suggest | crash | breakdown => cases ho

end NodeTask

/-! ## Ways through a graph -/

/-- The stories of the ways that a run can take. They lead through the nodes of a stack, and then
from each of several roots in turn. -/
inductive Routes (g : FlowGraph) (e : Engine) (item : InventoryItem) :
    List GraphNode → List GraphNode → List String → Story → Prop where
  | done {visited} : Routes g e item [] [] visited []
  | root {root roots visited s} : Routes g e item roots [root] [] s →
      Routes g e item (root :: roots) [] visited s
  | again {roots n stack visited s} : n.id ∈ visited → Routes g e item roots stack visited s →
      Routes g e item roots (n :: stack) visited (.refusal n.id :: s)
  | broken {roots n stack visited effect} : n.id ∉ visited →
      n.config.task.ComesTo e item effect → effect.isAbort = true →
      Routes g e item roots (n :: stack) visited [.visit n effect]
  | enter {roots n stack visited effect s} : n.id ∉ visited →
      n.config.task.ComesTo e item effect → effect.isAbort = false →
      Routes g e item roots (g.follow n.id effect.next ++ stack) (n.id :: visited) s →
      Routes g e item roots (n :: stack) visited (.visit n effect :: s)

theorem FlowGraph.mem_follow {g : FlowGraph} {id : String} {next : Next} {m : GraphNode}
    (h : m ∈ g.follow id next) : m ∈ g.nodes ∧ g.arcs.Arrow id m.id := by
  cases next with
  | stop => cases h
  | go branch => exact mem_successors h

namespace Routes

variable {g : FlowGraph} {e : Engine} {item : InventoryItem} {roots stack : List GraphNode}
  {visited visited' : List String} {s : Story}

/-- Which nodes were visited does not matter before the next root. -/
theorem of_nil (h : Routes g e item roots [] visited s) : Routes g e item roots [] visited' s := by
  cases h with
  | done => exact .done
  | root h => exact .root h

/-- What holds of the nodes at which a run begins, and is handed on from each node to those that the
run goes on to, holds of all nodes that it enters. -/
theorem forall_visit {P : GraphNode → Prop} (h : Routes g e item roots stack visited s)
    (hroots : ∀ n ∈ roots, P n) (hstack : ∀ n ∈ stack, P n)
    (hnext : ∀ n effect, Moment.visit n effect ∈ s → P n → ∀ m ∈ g.follow n.id effect.next, P m) :
    ∀ n effect, Moment.visit n effect ∈ s → P n := by
  induction h with
  | done =>
    intro n effect hn
    cases hn
  | root _ ih =>
    obtain ⟨hroot, hroots⟩ := List.forall_mem_cons.1 hroots
    exact ih hroots (by simpa using hroot) hnext
  | again _ _ ih =>
    intro n effect hn
    have hrest := (List.forall_mem_cons.1 hstack).2
    refine ih hroots hrest (fun m effect' hm => hnext m effect' (List.mem_cons_of_mem _ hm)) n
      effect ?_
    simpa using hn
  | broken =>
    intro m effect' hm
    obtain ⟨rfl, -⟩ : m = _ ∧ effect' = _ := by simpa using hm
    exact hstack m List.mem_cons_self
  | @enter roots n stack visited effect s _ _ _ _ ih =>
    obtain ⟨hn, hrest⟩ := List.forall_mem_cons.1 hstack
    have hfollow := hnext n effect List.mem_cons_self hn
    intro m effect' hm
    rcases List.mem_cons.1 hm with hm | hm
    · cases hm
      exact hn
    · refine ih hroots (List.forall_mem_append.2 ⟨hfollow, hrest⟩) ?_ m effect' hm
      exact fun k effect'' hk => hnext k effect'' (List.mem_cons_of_mem _ hk)

/-- A run enters nodes of the graph only. -/
theorem visit_mem (h : Routes g e item roots stack visited s) (hroots : ∀ n ∈ roots, n ∈ g.nodes)
    (hstack : ∀ n ∈ stack, n ∈ g.nodes) : ∀ n effect, Moment.visit n effect ∈ s → n ∈ g.nodes :=
  h.forall_visit hroots hstack fun _ _ _ _ _ hm => (FlowGraph.mem_follow hm).1

/-- A run enters only what can be reached from where it begins. -/
theorem reaches (h : Routes g e item roots stack visited s) :
    ∀ n effect, Moment.visit n effect ∈ s → ∃ m ∈ roots ++ stack, g.arcs.Reaches m.id n.id := by
  refine h.forall_visit ?_ ?_ ?_
  · exact fun n hn => ⟨n, List.mem_append_left _ hn, .refl⟩
  · exact fun n hn => ⟨n, List.mem_append_right _ hn, .refl⟩
  · rintro n effect - ⟨m, hm, hreach⟩ k hk
    exact ⟨m, hm, hreach.tail (FlowGraph.mem_follow hk).2⟩

theorem comesTo (h : Routes g e item roots stack visited s) :
    ∀ n effect, Moment.visit n effect ∈ s → n.config.task.ComesTo e item effect := by
  induction h with
  | done =>
    intro n effect hn
    cases hn
  | root _ ih => exact ih
  | again _ _ ih =>
    intro n effect hn
    exact ih n effect (by simpa using hn)
  | broken _ hcomes =>
    intro m effect' hm
    obtain ⟨rfl, rfl⟩ : m = _ ∧ effect' = _ := by simpa using hm
    exact hcomes
  | enter _ hcomes _ _ ih =>
    intro m effect' hm
    rcases List.mem_cons.1 hm with hm | hm
    · cases hm
      exact hcomes
    · exact ih m effect' hm

/-- Where a collaborator breaks down, the run is broken off. -/
theorem abort?_of_visit (h : Routes g e item roots stack visited s) {n : GraphNode}
    {message : String} (hn : .visit n (.aborted message) ∈ s) : s.abort? = some message := by
  induction h with
  | done => cases hn
  | root _ ih => exact ih hn
  | again _ _ ih =>
    rw [Story.abort?_cons rfl]
    exact ih (by simpa using hn)
  | broken =>
    cases List.mem_singleton.1 hn
    rfl
  | enter _ _ hgo _ ih =>
    rw [Story.abort?_cons (Story.abort?_visit_eq_none_iff.2 hgo)]
    rcases List.mem_cons.1 hn with hn | hn
    · cases hn
      cases hgo
    · exact ih hn

/-- A run that is not broken off goes on at every node. -/
theorem not_isAbort (h : Routes g e item roots stack visited s) (hs : s.abort? = none)
    {n : GraphNode} {effect : NodeEffect} (hn : .visit n effect ∈ s) : effect.isAbort = false := by
  cases effect with
  | aborted message => cases hs.symm.trans (h.abort?_of_visit hn)
  | asked | branched | wrote | suggested | acted => rfl

/-- No node is entered twice between roots that reach nothing in common. What is entered is reached
from a later root, or else it is reached from the stack and was not visited before. -/
theorem nodup_trace_and (h : Routes g e item roots stack visited s)
    (hroots : roots.Pairwise fun m n => ∀ id, g.arcs.Reaches m.id id → ¬ g.arcs.Reaches n.id id)
    (hstack : ∀ n ∈ stack, ∀ root ∈ roots, ∀ id, g.arcs.Reaches n.id id →
      ¬ g.arcs.Reaches root.id id) :
    s.trace.Nodup ∧ ∀ id ∈ s.trace, (∃ root ∈ roots, g.arcs.Reaches root.id id) ∨
      (id ∉ visited ∧ ∃ n ∈ stack, g.arcs.Reaches n.id id) := by
  induction h with
  | done => exact ⟨.nil, by simp⟩
  | @root root roots visited s _ ih =>
    obtain ⟨hroot, hroots⟩ := List.pairwise_cons.1 hroots
    obtain ⟨hnd, hids⟩ := ih hroots (by simpa using hroot)
    refine ⟨hnd, fun id hid => .inl ?_⟩
    rcases hids id hid with ⟨m, hm, hreach⟩ | ⟨-, m, hm, hreach⟩
    · exact ⟨m, List.mem_cons_of_mem _ hm, hreach⟩
    · exact ⟨m, List.mem_cons.2 (.inl (List.mem_singleton.1 hm)), hreach⟩
  | again _ _ ih =>
    obtain ⟨hnd, hids⟩ := ih hroots (List.forall_mem_cons.1 hstack).2
    refine ⟨hnd, fun id hid => (hids id hid).imp_right ?_⟩
    rintro ⟨hv, m, hm, hreach⟩
    exact ⟨hv, m, List.mem_cons_of_mem _ hm, hreach⟩
  | @broken roots n stack visited effect hv _ _ =>
    refine ⟨List.nodup_singleton _, fun id hid => .inr ?_⟩
    obtain rfl : id = n.id := by simpa using hid
    exact ⟨hv, n, List.mem_cons_self, .refl⟩
  | @enter roots n stack visited effect s hv _ _ _ ih =>
    obtain ⟨hn, hrest⟩ := List.forall_mem_cons.1 hstack
    -- what is reached from a node that follows is reached from the node itself
    have hfollow : ∀ m ∈ g.follow n.id effect.next, ∀ id, g.arcs.Reaches m.id id →
        g.arcs.Reaches n.id id := fun m hm id hreach =>
      .head (FlowGraph.mem_follow hm).2 hreach
    obtain ⟨hnd, hids⟩ := ih hroots <| List.forall_mem_append.2
      ⟨fun m hm root hroot id hreach => hn root hroot id (hfollow m hm id hreach), hrest⟩
    rw [Story.trace_visit]
    refine ⟨List.nodup_cons.2 ⟨fun hm => ?_, hnd⟩, List.forall_mem_cons.2 ⟨?_, fun id hid => ?_⟩⟩
    · rcases hids n.id hm with ⟨root, hroot, hreach⟩ | ⟨hno, -⟩
      · exact hn root hroot n.id .refl hreach
      · exact hno List.mem_cons_self
    · exact .inr ⟨hv, n, List.mem_cons_self, .refl⟩
    · refine (hids id hid).imp_right ?_
      rintro ⟨hno, m, hm, hreach⟩
      refine ⟨fun hid => hno (List.mem_cons_of_mem _ hid), ?_⟩
      rcases List.mem_append.1 hm with hm | hm
      · exact ⟨n, List.mem_cons_self, hfollow m hm id hreach⟩
      · exact ⟨m, List.mem_cons_of_mem _ hm, hreach⟩

/-- A run from roots that reach nothing in common enters no node twice. -/
theorem nodup_trace (h : Routes g e item roots [] visited s)
    (hroots : roots.Pairwise fun m n => ∀ id, g.arcs.Reaches m.id id → ¬ g.arcs.Reaches n.id id) :
    s.trace.Nodup :=
  (h.nodup_trace_and hroots (by simp)).1

/-- A run that is not broken off leaves nothing out: it enters what it begins at, and what follows
from the nodes that it enters. -/
theorem closed (h : Routes g e item roots stack visited s) (hs : s.abort? = none) :
    (∀ n ∈ roots, n.id ∈ s.trace) ∧ (∀ n ∈ stack, n.id ∈ visited ∨ n.id ∈ s.trace) ∧
    ∀ n effect, Moment.visit n effect ∈ s → ∀ m ∈ g.follow n.id effect.next,
      m.id ∈ visited ∨ m.id ∈ s.trace := by
  induction h with
  | done => simp
  | @root root roots visited s _ ih =>
    obtain ⟨hroots, hstack, hnext⟩ := ih hs
    have hroot := (hstack root List.mem_cons_self).resolve_left List.not_mem_nil
    refine ⟨List.forall_mem_cons.2 ⟨hroot, hroots⟩, by simp, fun n effect hn m hm => .inr ?_⟩
    exact (hnext n effect hn m hm).resolve_left List.not_mem_nil
  | @again roots n stack visited s hv _ ih =>
    obtain ⟨hroots, hstack, hnext⟩ := ih (Story.abort?_of_cons hs)
    refine ⟨hroots, List.forall_mem_cons.2 ⟨.inl hv, hstack⟩, fun m effect hm => ?_⟩
    exact hnext m effect (by simpa using hm)
  | broken _ _ habort => cases habort.symm.trans (Story.abort?_visit_eq_none_iff.1 hs)
  | @enter roots n stack visited effect s hv _ _ _ ih =>
    obtain ⟨hroots, hstack, hnext⟩ := ih (Story.abort?_of_cons hs)
    rw [Story.trace_visit]
    -- the node has moved from the nodes visited before to the trace
    have hmove {id : String} (h : id ∈ n.id :: visited ∨ id ∈ s.trace) :
        id ∈ visited ∨ id ∈ n.id :: s.trace := by
      simp only [List.mem_cons] at h ⊢
      tauto
    refine ⟨fun m hm => List.mem_cons_of_mem _ (hroots m hm),
      List.forall_mem_cons.2 ⟨.inr List.mem_cons_self, fun m hm => ?_⟩, fun m effect' hm k hk => ?_⟩
    · exact hmove (hstack m (List.mem_append_right _ hm))
    · rcases List.mem_cons.1 hm with hm | hm
      · cases hm
        exact hmove (hstack k (List.mem_append_left _ hk))
      · exact hmove (hnext m effect' hm k hk)

end Routes
end KitchenFlow
