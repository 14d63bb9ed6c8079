import KitchenFlow.Proofs.Run.Walks
import KitchenFlow.Run.Interpreter

/-!
# Runs tell stories

A run keeps its records apart, and each part of it writes to some of them and acts on the world.
This module follows it branch by branch and shows that what it writes is one story: the records of a
run are the views of the story of its walk, and the world is the one that the walk leaves.

    RunM.Brings        a part of a run writes and does what an effect says
    RunM.Tells         a part of a run writes and does what a story says
    brings_execute     what is done at a node brings its effect
    tells_traverse     a traversal tells the story of a walk
    run_eq_outcome     a run comes to what the story of its walk comes to

Proofs about runs speak of the story from here on.
-/

namespace KitchenFlow

/-! ## Effects -/

namespace RunState

/-- What a run has left after an effect at a node that it has entered. -/
def reach (st : RunState) (id : String) (effect : NodeEffect) (w : World) : RunState where
  trace := st.trace
  log := st.log ++ [effect.line id]
  stats := effect.count st.stats
  events := st.events ++ (effect.event? id).toList
  world := w

theorem reach_of_event?_eq_none {st : RunState} {id : String} {effect : NodeEffect} {w : World}
    (h : effect.event? id = none) :
    st.reach id effect w =
      { st with
        log := st.log ++ [effect.line id]
        stats := effect.count st.stats
        world := w } := by
  rw [reach, h, Option.toList_none, List.append_nil]

end RunState

namespace RunM

/-- A part of a run brings an effect: it writes and does what the effect says, and gives a value. If
the effect is a breakdown it breaks off, and nothing is written. -/
inductive Brings {α : Type} (m : RunM α) (st : RunState) (id : String) (a : α) :
    NodeEffect → World → Prop where
  | done {effect w} : effect.isAbort = false → m.runFrom st = (.ok a, st.reach id effect w) →
      Brings m st id a effect w
  | broken {message w} : m.runFrom st = (.error message, { st with world := w }) →
      Brings m st id a (.aborted message) w

variable {α β : Type} {m : RunM α} {st : RunState} {id : String} {effect : NodeEffect} {a : α}
  {w : World} {e : Engine} {x : RunContext} {p : Payload}

/-- The value may be used to give another one. -/
theorem Brings.map (f : α → β) (h : m.Brings st id a effect w) :
    (m >>= fun a => pure (f a)).Brings st id (f a) effect w := by
  cases h with
  | done hgo hm => exact .done hgo (by rw [runFrom_bind, hm]; rfl)
  | broken hm => exact .broken (by rw [runFrom_bind, hm])

/-- The value does not matter if the run breaks off. -/
theorem Brings.congr {b : α} (h : m.Brings st id a effect w)
    (hab : effect.isAbort = false → a = b) : m.Brings st id b effect w := by
  cases h with
  | done hgo hm => exact .done hgo (hab hgo ▸ hm)
  | broken hm => exact .broken hm

/-- An effect that nothing is told of is noted and counted. -/
theorem Brings.quiet (hgo : effect.isAbort = false) (htold : effect.event? id = none)
    (hm : m.runFrom st = (.ok a,
      { st with log := st.log ++ [effect.line id], stats := effect.count st.stats, world := w })) :
    m.Brings st id a effect w :=
  .done hgo (hm.trans (by rw [RunState.reach_of_event?_eq_none htold]))

/-- What is done outside comes before what is written. -/
theorem Brings.outside_bind {act : World → β × World} {f : β → RunM α} {b : β} {w₁ : World}
    (hact : act st.world = (b, w₁)) (h : (f b).Brings { st with world := w₁ } id a effect w) :
    (outside act >>= f).Brings st id a effect w := by
  have hrun : (outside act >>= f).runFrom st = (f b).runFrom { st with world := w₁ } := by
    rw [runFrom_bind, runFrom_outside, hact]
  cases h with
  | done hgo hm => exact .done hgo (hrun.trans hm)
  | broken hm => exact .broken (hrun.trans hm)

theorem brings_triggerOutcome (isMatch : Bool) :
    (triggerOutcome id p.item isMatch).Brings st id (NodeTask.ask p isMatch).next
      (NodeTask.ask p isMatch) st.world := by
  cases isMatch <;> exact .quiet rfl rfl rfl

/-- A recipe that is asked for is put into the payload, or a demo of one is. -/
theorem brings_generateRecipe (c : GenerateRecipeConfig)
    (hstep : NodeTask.suggestRecipe e x p c st.world = (effect, w)) :
    (generateRecipe e x id p c).Brings st id (effect.apply p) effect w := by
  rw [NodeTask.suggestRecipe] at hstep
  rw [generateRecipe, askRecipe]
  cases hmode : x.mode with
  | test =>
    rw [hmode] at hstep
    cases hstep
    exact .done rfl rfl
  | live =>
    rw [hmode] at hstep
    dsimp only at hstep ⊢
    rw [bind_assoc]
    rcases hcomplete : Recipe.complete e c (Recipe.prompt c p) st.world with ⟨r, w₁⟩
    refine .outside_bind hcomplete ?_
    rw [hcomplete] at hstep
    rcases r with (err | text) | message
    · cases hstep
      exact .done rfl rfl
    · cases hstep
      exact .quiet rfl rfl rfl
    · cases hstep
      exact .broken rfl

/-- An action is done in a test by name only. Live it is carried out if its slot can be reserved,
and the slot is given back unless the action was sent. -/
theorem brings_action (a : Action)
    (hstep : NodeTask.step e x id p st.world (.act a) = (effect, w)) :
    (action e x id p a).Brings st id effect.next effect w := by
  rw [NodeTask.step] at hstep
  rw [action]
  cases hmode : x.mode with
  | test =>
    rw [hmode] at hstep
    cases hstep
    exact .done rfl rfl
  | live =>
    rw [hmode] at hstep
    dsimp only [NodeTask.carryOut] at hstep ⊢
    rcases hreserve : NodeTask.reserve x (NodeTask.actionKey x p id) st.world with ⟨granted, w₁⟩
    rw [hreserve] at hstep
    refine .outside_bind hreserve ?_
    cases granted with
    | false =>
      cases hstep
      exact .done rfl rfl
    | true =>
      rcases hattempt : a.attempt e p w₁ with ⟨r, w₂⟩
      refine .outside_bind (by exact hattempt) ?_
      dsimp only at hstep
      rw [hattempt] at hstep
      cases r with
      | sent | unavailable reason | failed err =>
        cases hstep
        exact .done rfl rfl
      | broke message =>
        cases hstep
        exact .broken rfl

end RunM

namespace NodeTask

open RunM

variable {id : String} {effect : NodeEffect} {w : World} {e : Engine} {x : RunContext} {p : Payload}

/-- What is done at a node brings the effect of the node, and gives the payload after the effect and
where to go from it. -/
theorem brings_execute (st : RunState) (task : NodeTask)
    (hstep : task.step e x id p st.world = (effect, w)) :
    (task.execute e x id p).Brings st id (effect.apply p, effect.next) effect w := by
  cases task with
  | expiry c | status c =>
    cases hstep
    exact (brings_triggerOutcome _).map fun next => (p, next)
  | choose c | write c =>
    cases hstep
    exact .quiet rfl rfl rfl
  | suggest c =>
    have hcomes := comesTo_suggestRecipe e x p c st.world
    rw [show suggestRecipe e x p c st.world = (effect, w) from hstep] at hcomes
    refine ((brings_generateRecipe c hstep).map fun p => (p, Next.go none)).congr fun hgo => ?_
    cases hcomes with
    | suggest => rfl
    | crash => cases hgo
  | act a =>
    have hcomes := comesTo_step e x id p st.world (.act a)
    rw [hstep] at hcomes
    refine ((brings_action a hstep).map fun next => (p, next)).congr fun _ => ?_
    cases hcomes <;> rfl

end NodeTask

/-! ## Stories -/

namespace RunState

/-- What a run has left after a story. -/
def tell (st : RunState) (s : Story) (w : World) : RunState where
  trace := st.trace ++ s.trace
  log := st.log ++ s.log
  stats := s.foldl Moment.count st.stats
  events := st.events ++ s.events
  world := w

variable {st : RunState} {s t : Story} {w w' : World}

@[simp] theorem tell_world : (st.tell s w).world = w := rfl

theorem tell_nil : st.tell [] st.world = st := by
  simp [tell, Story.log, Story.events]

theorem tell_tell : (st.tell s w).tell t w' = st.tell (s ++ t) w' := by
  simp [tell, Story.log, Story.events]

end RunState

namespace RunM

/-- A part of a run tells a story: it leaves the records that the story says, and the world after
it, and gives a value. If the story is broken off it breaks off as well, and all that the story
tells has been told by then. -/
inductive Tells {α : Type} (m : RunM α) (st : RunState) (s : Story) (a : α) (w : World) : Prop where
  | whole : s.abort? = none → m.runFrom st = (.ok a, st.tell s w) → Tells m st s a w
  | broken {message left} : s.abort? = some message → m.runFrom st = (.error message, left) →
      left.events = st.events ++ s.events → left.world = w → Tells m st s a w

variable {α β : Type} {m : RunM α} {st : RunState} {s t : Story} {a : α} {b : β} {w w' : World}
  {f : α → RunM β}

theorem tells_pure (a : α) : (pure a : RunM α).Tells st [] a st.world :=
  .whole rfl (by rw [RunState.tell_nil]; rfl)

/-- One story is told after the other. -/
theorem Tells.bind (h : m.Tells st s a w) (hgo : s.abort? = none)
    (hnext : (f a).Tells (st.tell s w) t b w') : (m >>= f).Tells st (s ++ t) b w' := by
  have hm : m.runFrom st = (.ok a, st.tell s w) := by
    cases h with
    | whole _ hm => exact hm
    | broken habort =>
      rw [hgo] at habort
      cases habort
  have hrun : (m >>= f).runFrom st = (f a).runFrom (st.tell s w) := by rw [runFrom_bind, hm]
  cases hnext with
  | whole ht hf =>
    refine .whole ((Story.abort?_append hgo t).trans ht) ?_
    rw [hrun, hf, RunState.tell_tell]
  | broken ht hf hevents hworld =>
    refine .broken ((Story.abort?_append hgo t).trans ht) (hrun.trans hf) ?_ hworld
    rw [hevents, RunState.tell, Story.events, Story.events, Story.events, List.flatMap_append,
      List.append_assoc]

/-- Nothing comes after a story that is broken off. -/
theorem Tells.bind_of_abort (h : m.Tells st s a w) (habort : s.abort?.isSome = true) (b : β) :
    (m >>= f).Tells st s b w := by
  cases h with
  | whole hgo =>
    rw [hgo] at habort
    cases habort
  | broken hs hm hevents hworld => exact .broken hs (by rw [runFrom_bind, hm]) hevents hworld

theorem tells_refusal (n : GraphNode) :
    (note ("Node " ++ n.id ++ " already visited; not re-entering")).Tells st [.refusal n.id] ()
      st.world :=
  .whole rfl (by simp [RunState.tell, Story.log, Story.events, Moment.lines, Moment.events,
    Moment.count])

/-- A visit to a node: the node is entered, and what is to be done there is done. -/
theorem tells_visit {e : Engine} {x : RunContext} {n : GraphNode} {p : Payload}
    {effect : NodeEffect} (hstep : n.config.task.step e x n.id p st.world = (effect, w)) :
    (do enter n; n.config.task.execute e x n.id p).Tells st [.visit n effect]
      (effect.apply p, effect.next) w := by
  set entered : RunState :=
    { st with
      trace := st.trace ++ [n.id]
      log := st.log ++ ["Entering node " ++ n.id ++ " (" ++ n.kind.name ++ ")"]
      events := st.events ++ [.nodeEntered n.id n.kind] }
  have henter : (do enter n; n.config.task.execute e x n.id p).runFrom st =
      (n.config.task.execute e x n.id p).runFrom entered := rfl
  cases NodeTask.brings_execute entered n.config.task hstep with
  | done hgo hm =>
    refine .whole (Story.abort?_visit_eq_none_iff.2 hgo) (henter.trans (hm.trans ?_))
    simp [entered, RunState.reach, RunState.tell, Story.log, Story.events, Moment.lines,
      Moment.events, Moment.count]
  | broken hm => exact .broken rfl (henter.trans hm) rfl rfl

end RunM

open RunM

namespace FlowGraph

variable {g : FlowGraph} {e : Engine} {x : RunContext}

theorem traverse_nil (visited : List String) (p : Payload) :
    g.traverse e x [] visited p = pure p := by
  rw [traverse]

theorem traverse_of_mem {n : GraphNode} {visited : List String} (h : n.id ∈ visited)
    (rest : List GraphNode) (p : Payload) :
    g.traverse e x (n :: rest) visited p =
      (do note ("Node " ++ n.id ++ " already visited; not re-entering")
          g.traverse e x rest visited p) := by
  rw [traverse, dif_pos (List.contains_iff_mem.2 h)]

theorem traverse_of_not_mem {n : GraphNode} {visited : List String} (h : n.id ∉ visited)
    (rest : List GraphNode) (p : Payload) :
    g.traverse e x (n :: rest) visited p =
      (do enter n; n.config.task.execute e x n.id p) >>= fun (p, next) =>
        g.traverse e x (g.follow n.id next ++ rest) (n.id :: visited) p := by
  rw [traverse, dif_neg (mt List.contains_iff_mem.1 h), bind_assoc]

/-- A traversal tells the story of a walk. -/
theorem tells_traverse {stack : List GraphNode} {visited : List String} {p : Payload}
    {w w' : World} {s : Story} (h : Walks g e x stack visited p w s w') {st : RunState}
    (hworld : st.world = w) :
    (g.traverse e x stack visited p).Tells st s (s.payload p) w' := by
  induction h generalizing st with
  | done =>
    subst hworld
    rw [traverse_nil]
    exact tells_pure _
  | again hv _ ih =>
    subst hworld
    rw [traverse_of_mem hv]
    exact (tells_refusal _).bind rfl (ih rfl)
  | broken hv hstep habort =>
    subst hworld
    rw [traverse_of_not_mem hv]
    exact (tells_visit hstep).bind_of_abort (habort ▸ Story.isSome_abort?_visit) _
  | enter hv hstep hgo _ ih =>
    subst hworld
    rw [traverse_of_not_mem hv]
    exact (tells_visit hstep).bind (Story.abort?_visit_eq_none_iff.2 hgo) (ih rfl)

/-- Traversals from several nodes tell the story of the walks from them. -/
theorem tells_traverseAll {roots : List GraphNode} {p : Payload} {w w' : World} {s : Story}
    (h : WalksAll g e x roots p w s w') {st : RunState} (hworld : st.world = w) :
    (g.traverseAll e x roots p).Tells st s (s.payload p) w' := by
  induction h generalizing st with
  | done =>
    subst hworld
    exact tells_pure _
  | broken hwalk habort =>
    rw [traverseAll, List.foldlM_cons]
    exact (tells_traverse hwalk hworld).bind_of_abort habort _
  | next hwalk hgo _ ih =>
    rw [traverseAll, List.foldlM_cons, Story.payload_append]
    exact (tells_traverse hwalk hworld).bind hgo (ih rfl)

theorem mem_listeners_iff {t : TriggerEvent} {n : GraphNode} :
    n ∈ g.listeners t ↔ n ∈ g.roots ∧ n.kind.triggerEvent? = some t := by
  simp [listeners]

/-- The lines noted before the walk begins. -/
def preface (g : FlowGraph) (event : TriggerEvent) : List String :=
  if (g.listeners event).isEmpty then
    ["No trigger in flow " ++ g.flowId ++ " listens for " ++ event.name ++ " events"]
  else []

/-- What a run comes to whose walks come to a story. -/
def outcome (g : FlowGraph) (mode : RunMode) (p : Payload) (w : World) (walked : Story × World) :
    RunOutcome :=
  let (story, after) := walked
  let started := RunEvent.runStarted g.flowId p.triggerEvent mode
  match story.abort? with
  | some message => ⟨started :: story.events, .error message, after⟩
  | none =>
    ⟨started :: story.events ++ [.runCompleted story.trace.length (after.clock - w.clock)],
      .ok ⟨story.trace, g.preface p.triggerEvent ++ story.log, story.payload p, story.stats⟩, after⟩

/-- What a run has left when its first root is to be traversed. -/
def begun (g : FlowGraph) (mode : RunMode) (p : Payload) (w : World) : RunState :=
  { RunState.start w with
    log := g.preface p.triggerEvent
    events := [.runStarted g.flowId p.triggerEvent mode] }

/-- What a run does when its last root has been traversed. -/
def conclude (w : World) (final : Payload) : RunM RunResult := do
  emit (.runCompleted (← get).trace.length ((← get).world.clock - w.clock))
  let s ← get
  return ⟨s.trace, s.log, final, s.stats⟩

theorem runFrom_conduct (p : Payload) (w : World) :
    (g.conduct e x p).runFrom (.start w) =
      (g.traverseAll e x (g.listeners p.triggerEvent) p >>= conclude w).runFrom
        (g.begun x.mode p w) := by
  rw [begun, preface, conduct]
  dsimp only
  cases (g.listeners p.triggerEvent).isEmpty <;> rfl

/-- A run comes to what the story of its walk comes to: it tells the events of the story, returns
its records unless it is broken off, and leaves the world that the walk leaves. -/
theorem run_eq_outcome (g : FlowGraph) (e : Engine) (mode : RunMode) (guard : Option Guard)
    (p : Payload) (w : World) :
    g.run e mode guard p w = g.outcome mode p w
      (g.walkAll e ⟨g.flowId, mode, guard⟩ (g.listeners p.triggerEvent) p w) := by
  have hwalk := walksAll_walkAll g e ⟨g.flowId, mode, guard⟩ (g.listeners p.triggerEvent) p w
  rcases hs : g.walkAll e ⟨g.flowId, mode, guard⟩ (g.listeners p.triggerEvent) p w with ⟨s, w'⟩
  rw [hs] at hwalk
  have htells : (g.traverseAll e ⟨g.flowId, mode, guard⟩ (g.listeners p.triggerEvent) p).Tells
      (g.begun mode p w) s (s.payload p) w' := tells_traverseAll hwalk rfl
  rw [run, runFrom_conduct, runFrom_bind, outcome]
  cases htells with
  | whole hgo hm =>
    rw [hm]
    dsimp only
    rw [hgo]
    rfl
  | broken habort hm hevents hworld =>
    rw [hm]
    dsimp only
    rw [habort, hevents, hworld]
    rfl

/-- What a run comes to whose walk is not broken off. -/
theorem run_of_abort?_eq_none {mode : RunMode} {guard : Option Guard} {p : Payload} {w w' : World}
    {s : Story} (hwalk : g.walkAll e ⟨g.flowId, mode, guard⟩ (g.listeners p.triggerEvent) p w =
      (s, w')) (hs : s.abort? = none) :
    g.run e mode guard p w =
      { events := .runStarted g.flowId p.triggerEvent mode :: s.events ++
          [.runCompleted s.trace.length (w'.clock - w.clock)]
        result := .ok
          { trace := s.trace
            log := g.preface p.triggerEvent ++ s.log
            payload := s.payload p
            stats := s.stats }
        world := w' } := by
  simp only [run_eq_outcome, outcome, hwalk, hs]

/-- The walk of a run that returns is not broken off. -/
theorem abort?_of_result_eq_ok {mode : RunMode} {guard : Option Guard} {p : Payload} {w : World}
    {r : RunResult} (h : (g.run e mode guard p w).result = .ok r) :
    (g.walkAll e ⟨g.flowId, mode, guard⟩ (g.listeners p.triggerEvent) p w).1.abort? = none := by
  rw [run_eq_outcome, outcome] at h
  split at h
  · cases h
  · next hs => exact hs

/-- What a run that returns says of its story. -/
theorem run_returned {mode : RunMode} {guard : Option Guard} {p : Payload} {w : World}
    {r : RunResult} (h : (g.run e mode guard p w).result = .ok r) :
    ∃ s, WalksAll g e ⟨g.flowId, mode, guard⟩ (g.listeners p.triggerEvent) p w s
        (g.run e mode guard p w).world ∧
      s.abort? = none ∧ r.trace = s.trace ∧ r.stats = s.stats ∧
      ∀ id o, NodeEffect.actionEvent id o ∈ (g.run e mode guard p w).events ↔
        NodeEffect.actionEvent id o ∈ s.events := by
  have hwalk := walksAll_walkAll g e ⟨g.flowId, mode, guard⟩ (g.listeners p.triggerEvent) p w
  rw [run_eq_outcome, outcome] at h ⊢
  split at h
  · cases h
  · next hs =>
    cases h
    refine ⟨_, hwalk, hs, rfl, rfl, fun id o => ?_⟩
    cases o <;> simp [NodeEffect.actionEvent]

end FlowGraph
end KitchenFlow
