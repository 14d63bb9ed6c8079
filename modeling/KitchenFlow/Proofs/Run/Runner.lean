import KitchenFlow.Proofs.Run.Bookkeeping

/-!
# Runs step by step

Runs that share a world can be under way at the same time, and what one of them finds in the ledger
may have been put there by another one in the middle of its own action. A `Runner` is a run under
way, and `Runner.advance` makes its next step. Reserving the slot of an action, calling the
collaborator and giving the slot back are steps of their own, so that others can come in between.

A runner that is left alone comes to what a run comes to in one go:

    reaches_walkAll   from `start` to a runner that is over, with the story and world of `walkAll`
-/

namespace KitchenFlow

/-- What a run under way does next. -/
inductive Stage where
  /-- It goes on with its walk. -/
  | walking
  /-- It calls the collaborator of an action whose slot was granted. -/
  | calling (n : GraphNode) (a : Action)
  /-- It gives the slot of an action back that was not carried out. -/
  | returning (n : GraphNode) (effect : NodeEffect) (h : effect.outcome? ≠ some .dispatched)
  /-- It does nothing any more. -/
  | ended

/-- A run under way. -/
structure Runner where
  /-- The nodes at which walks are still to begin. -/
  roots : List GraphNode
  /-- The nodes that the present walk is still to come to. -/
  stack : List GraphNode
  /-- The nodes that the present walk has entered. -/
  visited : List String
  payload : Payload
  /-- What has happened, in order. -/
  story : Story
  stage : Stage

namespace Runner

/-- A run that is yet to begin. -/
def start (roots : List GraphNode) (p : Payload) : Runner := ⟨roots, [], [], p, [], .walking⟩

/-- Tells what happened at a node and goes on from there. -/
def tell (r : Runner) (g : FlowGraph) (n : GraphNode) (effect : NodeEffect) : Runner :=
  { r with
    stack := g.follow n.id effect.next ++ r.stack
    payload := effect.apply r.payload
    story := r.story ++ [.visit n effect]
    stage := if effect.isAbort then .ended else .walking }

variable (g : FlowGraph) (e : Engine) (x : RunContext)

/-- Begins what is to be done at a node: for an action of a live run, reserves its slot. -/
def enter (r : Runner) (n : GraphNode) (w : World) : Runner × World :=
  match n.config.task, x.mode with
  | .act a, .live =>
    match NodeTask.reserve x (NodeTask.actionKey x r.payload n.id) w with
    | (false, w) => (r.tell g n (.acted (a.describe r.payload) r.payload.item.id .duplicate), w)
    | (true, w) => ({ r with stage := .calling n a }, w)
  | task, _ =>
    let (effect, w) := task.step e x n.id r.payload w
    (r.tell g n effect, w)

/-- Calls the collaborator of an action. -/
def call (r : Runner) (n : GraphNode) (a : Action) (w : World) : Runner × World :=
  let acted (o : ActionOutcome) : NodeEffect := .acted (a.describe r.payload) r.payload.item.id o
  match a.attempt e r.payload w with
  | (.sent, w) => (r.tell g n (acted .dispatched), w)
  | (.unavailable reason, w) =>
    ({ r with stage := .returning n (acted (.demo reason)) nofun }, w)
  | (.failed err, w) => ({ r with stage := .returning n (acted (.failed err)) nofun }, w)
  | (.broke message, w) => (r.tell g n (.aborted message), w)

/-- Goes on with a walk. -/
def walk (r : Runner) (w : World) : Runner × World :=
  match r.stack, r.roots with
  | [], [] => ({ r with stage := .ended }, w)
  | [], root :: roots => ({ r with roots, stack := [root], visited := [] }, w)
  | n :: stack, _ =>
    if r.visited.contains n.id then
      ({ r with stack, story := r.story ++ [.refusal n.id] }, w)
    else { r with stack, visited := n.id :: r.visited }.enter g e x n w

/-- Makes the next step. -/
def advance (r : Runner) (w : World) : Runner × World :=
  match r.stage with
  | .walking => r.walk g e x w
  | .calling n a => r.call g e n a w
  | .returning n effect _ =>
    (r.tell g n effect, NodeTask.release x (NodeTask.actionKey x r.payload n.id) w)
  | .ended => (r, w)

/-! ## A runner left alone -/

/-- A run under way that comes to another one if it is left alone. -/
def Reaches : Runner × World → Runner × World → Prop :=
  Relation.ReflTransGen fun a b => a.1.advance g e x a.2 = b

variable {g e x}

theorem Reaches.step {r : Runner} {w : World} {b : Runner × World}
    (h : Reaches g e x (r.advance g e x w) b) : Reaches g e x (r, w) b :=
  Relation.ReflTransGen.head rfl h

/-- What was begun at a node comes to the effect of the node. -/
theorem reaches_tell {r : Runner} {n : GraphNode} {effect : NodeEffect} {w w₁ : World}
    (h : n.config.task.step e x n.id r.payload w = (effect, w₁)) :
    Reaches g e x (r.enter g e x n w) (r.tell g n effect, w₁) := by
  unfold enter
  split
  · next a ha hm =>
    rw [ha, NodeTask.step, hm] at h
    simp only [NodeTask.carryOut] at h
    rcases hres : NodeTask.reserve x (NodeTask.actionKey x r.payload n.id) w with ⟨granted, w₂⟩
    rw [hres] at h
    cases granted with
    | false =>
      cases h
      exact .refl
    | true =>
      refine .step ?_
      simp only [advance, call]
      rcases hatt : a.attempt e r.payload w₂ with ⟨result, w₃⟩
      simp only [hatt] at h
      cases result with
      | sent | broke =>
        cases h
        exact .refl
      | unavailable | failed =>
        cases h
        exact .step .refl
  · rw [h]
    exact .refl

/-- What is done at the first node of a stack. -/
theorem reaches_visit {roots rest : List GraphNode} {visited : List String} {p : Payload}
    {t : Story} {w w₁ : World} {n : GraphNode} {effect : NodeEffect} (hv : n.id ∉ visited)
    (h : n.config.task.step e x n.id p w = (effect, w₁)) :
    Reaches g e x (⟨roots, n :: rest, visited, p, t, .walking⟩, w)
      (⟨roots, g.follow n.id effect.next ++ rest, n.id :: visited, effect.apply p,
        t ++ [.visit n effect], if effect.isAbort then .ended else .walking⟩, w₁) := by
  refine .step ?_
  simp only [advance, walk, List.contains_iff_mem, hv, if_false]
  exact reaches_tell h

/-- A walk comes to its end, or is broken off. -/
theorem reaches_walk {stack : List GraphNode} {visited : List String} {p : Payload} {s : Story}
    {w w' : World} (h : Walks g e x stack visited p w s w') (roots : List GraphNode) (t : Story) :
    ∃ stack' visited', Reaches g e x (⟨roots, stack, visited, p, t, .walking⟩, w)
      (⟨roots, stack', visited', s.payload p, t ++ s,
        if s.abort?.isSome then .ended else .walking⟩, w') ∧
      (s.abort? = none → stack' = []) := by
  induction h generalizing t with
  | @done visited p w =>
    rw [List.append_nil]
    exact ⟨[], visited, .refl, fun _ => rfl⟩
  | @again n rest visited p w s w' hv _ ih =>
    obtain ⟨stack', visited', hreach, hstack⟩ := ih (t ++ [.refusal n.id])
    rw [List.append_assoc] at hreach
    rw [Story.abort?_cons rfl]
    refine ⟨stack', visited', .step ?_, hstack⟩
    simp only [advance, walk, List.contains_iff_mem, hv, if_true]
    exact hreach
  | @broken n rest visited p w effect w' hv hstep habort =>
    rw [Story.isSome_abort?_visit]
    refine ⟨_, _, reaches_visit hv hstep, fun hnone => ?_⟩
    cases habort.symm.trans (Story.abort?_visit_eq_none_iff.1 hnone)
  | @enter n rest visited p w effect w₁ s w' hv hstep hgo _ ih =>
    obtain ⟨stack', visited', hreach, hstack⟩ := ih (t ++ [.visit n effect])
    rw [List.append_assoc] at hreach
    rw [Story.abort?_cons (Story.abort?_visit_eq_none_iff.2 hgo)]
    refine ⟨stack', visited', ?_, hstack⟩
    have hvisit : Reaches g e x (⟨roots, n :: rest, visited, p, t, .walking⟩, w) _ :=
      reaches_visit hv hstep
    rw [hgo] at hvisit
    exact hvisit.trans hreach

theorem reaches_walksAll {roots : List GraphNode} {p : Payload} {s : Story} {w w' : World}
    (h : WalksAll g e x roots p w s w') (visited : List String) (t : Story) :
    ∃ r, Reaches g e x (⟨roots, [], visited, p, t, .walking⟩, w) (r, w') ∧
      r.stage = .ended ∧ r.story = t ++ s ∧ r.payload = s.payload p := by
  induction h generalizing visited t with
  | done => exact ⟨_, .step .refl, rfl, (List.append_nil t).symm, rfl⟩
  | @broken root rest p w s w' hwalk habort =>
    obtain ⟨stack', visited', hreach, -⟩ := reaches_walk hwalk rest t
    exact ⟨_, .step hreach, if_pos habort, rfl, rfl⟩
  | @next root rest p w s w₁ s' w' hwalk hgo _ ih =>
    obtain ⟨stack', visited', hreach, hstack⟩ := reaches_walk hwalk rest t
    obtain rfl := hstack hgo
    rw [hgo] at hreach
    obtain ⟨r, hrest, hended, hstory, hpayload⟩ := ih visited' (t ++ s)
    refine ⟨r, .step (hreach.trans hrest), hended, ?_, ?_⟩
    · rw [hstory, List.append_assoc]
    · rw [hpayload, Story.payload_append]

/-- A run that is left alone comes to what its walks come to in one go. -/
theorem reaches_walkAll (roots : List GraphNode) (p : Payload) (w : World) :
    ∃ r, Reaches g e x (start roots p, w) (r, (g.walkAll e x roots p w).2) ∧
      r.stage = .ended ∧ r.story = (g.walkAll e x roots p w).1 ∧
      r.payload = r.story.payload p := by
  obtain ⟨r, hreach, hended, hstory, hpayload⟩ :=
    reaches_walksAll (walksAll_walkAll g e x roots p w) [] []
  exact ⟨r, hreach, hended, hstory, by rw [hpayload, hstory, List.nil_append]⟩

end Runner
end KitchenFlow
