import KitchenFlow.Proofs.Run.Narration

/-!
# Runs by recursion

A run keeps a stack of the nodes that it is still to come to. Here is the procedure that the stack
stands for: to visit a node is to do what is to be done there and then to visit what follows, one
node after the other, each with what the one before has left. `Tour` is what is handed on: not a
story to be read later, but trace, log, payload, counts, events and world themselves, each brought
up to date where something happens.

    run_eq_runRecursively   a run is the recursive procedure

The two agree because a walk can be cut at any point of its stack: to visit the nodes of a stack is
to visit those in front and then the others (`visitAll_append`).
-/

namespace KitchenFlow

/-- A run on its way, with all that it has left so far. -/
structure Tour where
  /-- The nodes visited from the present root. -/
  visited : List String
  payload : Payload
  trace : List String
  log : List String
  stats : RunStats
  events : List RunEvent
  world : World
  /-- What broke the run off, if anything did. -/
  broken : Option String

/-- What broke down, if something did. -/
def NodeEffect.breakdown? : NodeEffect → Option String
  | .aborted message => some message
  | _ => none

namespace Tour

variable (e : Engine) (x : RunContext) (n : GraphNode) (t : Tour)

/-- Notes that a node is not entered again. -/
def refuse : Tour :=
  { t with log := t.log ++ ["Node " ++ n.id ++ " already visited; not re-entering"] }

/-- Marks a node and enters it. -/
def enter : Tour :=
  { t with
    visited := n.id :: t.visited
    trace := t.trace ++ [n.id]
    log := t.log ++ ["Entering node " ++ n.id ++ " (" ++ n.kind.name ++ ")"]
    events := t.events ++ [.nodeEntered n.id n.kind] }

/-- Does what is to be done at a node, on the present payload: says where to go next. -/
def execute : Next × Tour :=
  let (effect, world) := n.config.task.step e x n.id t.payload t.world
  (effect.next,
    { t with
      payload := effect.apply t.payload
      log := t.log ++ [effect.line n.id]
      stats := effect.count t.stats
      events := t.events ++ (effect.event? n.id).toList
      world
      broken := effect.breakdown? })

end Tour

namespace FlowGraph

variable (g : FlowGraph) (e : Engine) (x : RunContext)

/-- A tour that goes on from another one, and so has no more links left to follow. -/
abbrev TourFrom (t : Tour) : Type := { t' : Tour // g.openLinks t'.visited ≤ g.openLinks t.visited }

theorem openLinks_enter {n : GraphNode} {t : Tour} (h : ¬ t.visited.contains n.id = true)
    (next : Next) :
    (g.follow n.id next).length + g.openLinks (t.enter n).visited ≤ g.openLinks t.visited := by
  have hclosed := g.openLinks_cons (Bool.eq_false_iff.2 h)
  have hfollow := g.length_follow_le n.id next
  show _ + g.openLinks (n.id :: t.visited) ≤ _
  omega

mutual

/-- Visits a node: enters it, unless it was visited, and visits what follows. -/
def visitFrom (n : GraphNode) (t : Tour) : g.TourFrom t :=
  if h : t.visited.contains n.id then ⟨t.refuse n, Nat.le_refl _⟩
  else
    let r := (t.enter n).execute e x n
    have hopen := g.openLinks_enter h r.1
    let t' := visitAllFrom (g.follow n.id r.1) r.2
    ⟨t'.1, Nat.le_trans t'.2 (Nat.le_trans (Nat.le_add_left _ _) hopen)⟩
termination_by (1 + g.openLinks t.visited, 0)
decreasing_by
  apply Prod.Lex.left
  have hopen := g.openLinks_enter h ((t.enter n).execute e x n).1
  show (g.follow _ _).length + g.openLinks (t.enter n).visited < _
  omega

/-- Visits nodes one after the other, as long as nothing breaks down. -/
def visitAllFrom (ns : List GraphNode) (t : Tour) : g.TourFrom t :=
  match ns with
  | [] => ⟨t, Nat.le_refl _⟩
  | n :: rest =>
    if t.broken.isSome then ⟨t, Nat.le_refl _⟩
    else
      let t₁ := visitFrom n t
      let t₂ := visitAllFrom rest t₁.1
      ⟨t₂.1, Nat.le_trans t₂.2 t₁.2⟩
termination_by (ns.length + g.openLinks t.visited, 1)
decreasing_by
  · rw [List.length_cons]
    rcases Nat.eq_zero_or_pos rest.length with h | h
    · rw [h]
      exact Prod.Lex.right _ Nat.zero_lt_one
    · exact Prod.Lex.left _ _ (by omega)
  · apply Prod.Lex.left
    refine Nat.lt_of_le_of_lt (Nat.add_le_add_left t₁.2 _) ?_
    exact Nat.add_lt_add_right (Nat.lt_succ_self _) _

end

/-- Visits a node. -/
def visit (n : GraphNode) (t : Tour) : Tour := (g.visitFrom e x n t).1

/-- Visits nodes one after the other. -/
def visitAll (ns : List GraphNode) (t : Tour) : Tour := (g.visitAllFrom e x ns t).1

section

variable {g : FlowGraph} {e : Engine} {x : RunContext} {n : GraphNode} {t : Tour}

theorem visit_of_mem (h : n.id ∈ t.visited) : g.visit e x n t = t.refuse n := by
  rw [visit, visitFrom, dif_pos (List.contains_iff_mem.2 h)]

theorem visit_of_not_mem (h : n.id ∉ t.visited) :
    g.visit e x n t =
      let (next, t) := (t.enter n).execute e x n
      g.visitAll e x (g.follow n.id next) t := by
  rw [visit, visitFrom, dif_neg (mt List.contains_iff_mem.1 h)]
  rfl

theorem visitAll_nil : g.visitAll e x [] t = t := by
  rw [visitAll, visitAllFrom]

theorem visitAll_of_broken (h : t.broken.isSome = true) (ns : List GraphNode) :
    g.visitAll e x ns t = t := by
  cases ns with
  | nil => exact visitAll_nil
  | cons n rest => rw [visitAll, visitAllFrom, if_pos h]

theorem visitAll_cons (h : t.broken = none) (rest : List GraphNode) :
    g.visitAll e x (n :: rest) t = g.visitAll e x rest (g.visit e x n t) := by
  rw [visitAll, visitAllFrom, if_neg (by simp [h])]
  rfl

/-- To visit nodes is to visit some of them and then the others. -/
theorem visitAll_append (ms ns : List GraphNode) (t : Tour) :
    g.visitAll e x (ms ++ ns) t = g.visitAll e x ns (g.visitAll e x ms t) := by
  induction ms generalizing t with
  | nil => rw [List.nil_append, visitAll_nil]
  | cons m ms ih =>
    cases h : t.broken with
    | none => rw [List.cons_append, visitAll_cons h, visitAll_cons h, ih]
    | some message =>
      have hbroken : t.broken.isSome = true := by rw [h, Option.isSome_some]
      simp only [visitAll_of_broken hbroken]

end

/-- Visits each of several roots, nothing being visited at the start of each. -/
def visitRoots : List GraphNode → Tour → Tour
  | [], t => t
  | root :: rest, t =>
    let t := g.visit e x root { t with visited := [] }
    if t.broken.isSome then t else visitRoots rest t

/-- Runs a graph on a payload by recursion. -/
def runRecursively (g : FlowGraph) (e : Engine) (mode : RunMode) (guard : Option Guard)
    (p : Payload) (w : World) : RunOutcome :=
  let t := g.visitRoots e ⟨g.flowId, mode, guard⟩ (g.listeners p.triggerEvent)
    { visited := []
      payload := p
      trace := []
      log := g.preface p.triggerEvent
      stats := .none
      events := [.runStarted g.flowId p.triggerEvent mode]
      world := w
      broken := none }
  match t.broken with
  | some message => ⟨t.events, .error message, t.world⟩
  | none =>
    ⟨t.events ++ [.runCompleted t.trace.length (t.world.clock - w.clock)],
      .ok ⟨t.trace, t.log, t.payload, t.stats⟩, t.world⟩

end FlowGraph

/-! ## Tours and stories -/

theorem Story.abort?_visit {n : GraphNode} {effect : NodeEffect} :
    Story.abort? [.visit n effect] = effect.breakdown? := by
  cases effect <;> rfl

namespace Tour

/-- What a tour has left after a story. -/
def tell (t : Tour) (s : Story) (visited : List String) (w : World) : Tour where
  visited
  payload := s.payload t.payload
  trace := t.trace ++ s.trace
  log := t.log ++ s.log
  stats := s.foldl Moment.count t.stats
  events := t.events ++ s.events
  world := w
  broken := s.abort?

variable {e : Engine} {x : RunContext} {n : GraphNode} {t : Tour} {visited visited' : List String}
  {w w' : World} {s s' : Story}

theorem tell_nil (h : t.broken = none) : t.tell [] t.visited t.world = t := by
  obtain ⟨⟩ := t
  simp only at h
  simp [tell, Story.payload, Story.log, Story.events, Story.abort?, h]

theorem tell_tell (h : s.abort? = none) :
    (t.tell s visited w).tell s' visited' w' = t.tell (s ++ s') visited' w' := by
  simp only [tell, Story.payload_append, Story.trace_append, Story.log, Story.events,
    List.flatMap_append, List.foldl_append, List.append_assoc, Story.abort?_append h]

theorem refuse_eq (h : t.broken = none) :
    t.refuse n = t.tell [.refusal n.id] t.visited t.world := by
  obtain ⟨⟩ := t
  simp only at h
  simp [refuse, tell, Story.payload, Story.log, Story.events, Story.abort?, h, Moment.lines,
    Moment.events, Moment.count, Moment.apply]

theorem execute_enter {effect : NodeEffect}
    (h : n.config.task.step e x n.id t.payload t.world = (effect, w)) :
    (t.enter n).execute e x n =
      (effect.next, t.tell [.visit n effect] (n.id :: t.visited) w) := by
  have hstep : n.config.task.step e x n.id (t.enter n).payload (t.enter n).world = (effect, w) := h
  rw [execute, hstep]
  simp [enter, tell, Story.payload, Story.log, Story.events, Story.abort?_visit, Moment.lines,
    Moment.events, Moment.count, Moment.apply]

end Tour

/-! ## Runs are recursive -/

namespace FlowGraph

variable {g : FlowGraph} {e : Engine} {x : RunContext}

/-- To visit the nodes of a stack is to walk them. -/
theorem visitAll_of_walks {stack : List GraphNode} {visited : List String} {p : Payload}
    {w w' : World} {s : Story} (h : Walks g e x stack visited p w s w') {t : Tour}
    (hvisited : t.visited = visited) (hpayload : t.payload = p) (hworld : t.world = w)
    (hbroken : t.broken = none) :
    ∃ visited', g.visitAll e x stack t = t.tell s visited' w' := by
  induction h generalizing t with
  | done =>
    subst hvisited hworld
    exact ⟨t.visited, by rw [visitAll_nil, Tour.tell_nil hbroken]⟩
  | @again n rest visited p w s w' hv _ ih =>
    subst hvisited hpayload hworld
    have hrefuse : g.visit e x n t = t.tell [.refusal n.id] t.visited t.world := by
      rw [visit_of_mem hv, Tour.refuse_eq hbroken]
    obtain ⟨visited', hrest⟩ := ih (t := t.tell [.refusal n.id] t.visited t.world) rfl rfl rfl rfl
    refine ⟨visited', ?_⟩
    rw [visitAll_cons hbroken, hrefuse, hrest, Tour.tell_tell rfl]
    rfl
  | @broken n rest visited p w effect w' hv hstep habort =>
    subst hvisited hpayload hworld
    refine ⟨n.id :: t.visited, ?_⟩
    have hbreak : (t.tell [.visit n effect] (n.id :: t.visited) w').broken.isSome = true := by
      rw [← habort]
      exact Story.isSome_abort?_visit
    rw [visitAll_cons hbroken, visit_of_not_mem hv, Tour.execute_enter hstep]
    dsimp only
    rw [visitAll_of_broken hbreak, visitAll_of_broken hbreak]
  | @enter n rest visited p w effect w₁ s w' hv hstep hgo _ ih =>
    subst hvisited hpayload hworld
    have hgo : Story.abort? [.visit n effect] = none := Story.abort?_visit_eq_none_iff.2 hgo
    obtain ⟨visited', hrest⟩ :=
      ih (t := t.tell [.visit n effect] (n.id :: t.visited) w₁) rfl rfl rfl hgo
    refine ⟨visited', ?_⟩
    -- what follows the node and the rest of the stack are visited as one stack
    rw [visitAll_cons hbroken, visit_of_not_mem hv, Tour.execute_enter hstep]
    dsimp only
    rw [← visitAll_append, hrest, Tour.tell_tell hgo]
    rfl

/-- To visit a root is to walk from it. -/
theorem visit_of_walks {root : GraphNode} {p : Payload} {w w' : World} {s : Story}
    (h : Walks g e x [root] [] p w s w') {t : Tour} (hpayload : t.payload = p)
    (hworld : t.world = w) (hbroken : t.broken = none) :
    ∃ visited', g.visit e x root { t with visited := [] } = t.tell s visited' w' := by
  obtain ⟨visited', hvisit⟩ :=
    visitAll_of_walks h (t := { t with visited := [] }) rfl hpayload hworld hbroken
  have hone : g.visitAll e x [root] { t with visited := [] } =
      g.visit e x root { t with visited := [] } := by
    rw [visitAll_cons (by exact hbroken), visitAll_nil]
  exact ⟨visited', hone.symm.trans hvisit⟩

theorem visitRoots_of_walksAll {roots : List GraphNode} {p : Payload} {w w' : World} {s : Story}
    (h : WalksAll g e x roots p w s w') {t : Tour} (hpayload : t.payload = p)
    (hworld : t.world = w) (hbroken : t.broken = none) :
    ∃ visited', g.visitRoots e x roots t = t.tell s visited' w' := by
  induction h generalizing t with
  | done =>
    subst hworld
    exact ⟨t.visited, (Tour.tell_nil hbroken).symm⟩
  | broken hwalk habort =>
    obtain ⟨visited', hvisit⟩ := visit_of_walks hwalk hpayload hworld hbroken
    refine ⟨visited', ?_⟩
    rw [visitRoots, hvisit]
    exact if_pos habort
  | @next root rest p w s w₁ s' w' hwalk hgo _ ih =>
    obtain ⟨visited₁, hvisit⟩ := visit_of_walks hwalk hpayload hworld hbroken
    have hpayload₁ : (t.tell s visited₁ w₁).payload = s.payload p := by
      rw [← hpayload]
      rfl
    obtain ⟨visited', hrest⟩ := ih hpayload₁ rfl hgo
    refine ⟨visited', ?_⟩
    rw [visitRoots, hvisit, ← Tour.tell_tell hgo, ← hrest]
    exact if_neg (by simp [Tour.tell, hgo])

/-- A run is the recursive procedure: it tells the same events, has the same result, and leaves the
same world behind, with the calls made in it and the ledger. -/
theorem run_eq_runRecursively (g : FlowGraph) (e : Engine) (mode : RunMode) (guard : Option Guard)
    (p : Payload) (w : World) :
    g.run e mode guard p w = g.runRecursively e mode guard p w := by
  have hwalks := walksAll_walkAll g e ⟨g.flowId, mode, guard⟩ (g.listeners p.triggerEvent) p w
  rcases hwalk : g.walkAll e ⟨g.flowId, mode, guard⟩ (g.listeners p.triggerEvent) p w with ⟨s, w'⟩
  rw [hwalk] at hwalks
  simp only [run_eq_outcome, outcome, runRecursively, hwalk]
  obtain ⟨visited', htour⟩ := visitRoots_of_walksAll hwalks
    (t := ⟨[], p, [], g.preface p.triggerEvent, .none, [.runStarted g.flowId p.triggerEvent mode],
      w, none⟩) rfl rfl rfl
  rw [htour]
  dsimp only [Tour.tell]
  cases s.abort? <;> rfl

end FlowGraph
end KitchenFlow
