import KitchenFlow.Proofs.Run.Parts
import Mathlib.Algebra.GroupWithZero.Nat
import Mathlib.Logic.Function.Iterate

/-!
# How long a walk takes

A walk takes a node from its stack in every turn. If the node was not entered before, the nodes that
follow it are put on the stack in its place, so that the stack may grow, and a node may wait on it
several times. What becomes less is the stack together with the links that leave nodes not entered
yet: to enter a node closes the links that leave it, and no more nodes are put on the stack than
there are such links. A walk from a root comes only to what the root reaches, so links that leave
other nodes do not count:

    Routes.length_le     a route takes one turn for each root, and one for each link on the way
    Trek.turns_eq        a walk makes as many turns as its story has moments
    run_within_budget    no walk of a run is cut off by a budget of that many turns

The first holds of every run, also of one that others interfere with.
-/

namespace KitchenFlow

/-! ## What a node reaches -/

theorem Digraph.closed_discovery (g : Digraph) (v : String) : g.Closed (g.discovery v) := by
  intro a b hab ha
  rw [Digraph.mem_discovery_iff] at ha ⊢
  exact ha.tail hab

/-- The edges that leave a node and all that can be reached from it. -/
def Flow.edgesFrom (f : Flow) (id : String) : List Edge :=
  f.edges.filter fun e => (f.arcs.discovery id).contains e.source

theorem Flow.mem_edgesFrom_iff {f : Flow} {id : String} {e : Edge} :
    e ∈ f.edgesFrom id ↔ e ∈ f.edges ∧ f.arcs.Reaches id e.source := by
  rw [edgesFrom, List.mem_filter, List.contains_iff_mem, Digraph.mem_discovery_iff]

namespace FlowGraph

variable {g : FlowGraph}

/-- The links that leave a node and all that can be reached from it. -/
def linksFrom (g : FlowGraph) (id : String) : List Link :=
  g.links.filter fun l => (g.arcs.discovery id).contains l.source

/-- The number of turns that a walk from a root may take: one for the root, and one for each link on
the way. -/
def budget (g : FlowGraph) (root : GraphNode) : Nat := 1 + (g.linksFrom root.id).length

theorem Depicts.length_linksFrom {r : Registry} {f : Flow} (h : g.Depicts r f) (id : String) :
    (g.linksFrom id).length = (f.edgesFrom id).length := by
  -- both are counted by the arcs, which are the same
  have hlinks (ids : List String) : (g.links.filter fun l => ids.contains l.source).length =
      (g.arcs.filter fun a => ids.contains a.source).length := by
    rw [FlowGraph.arcs, List.filter_map, List.length_map]
    rfl
  have hedges (ids : List String) : (f.edges.filter fun e => ids.contains e.source).length =
      (f.arcs.filter fun a => ids.contains a.source).length := by
    rw [Flow.arcs, List.filter_map, List.length_map]
    rfl
  rw [linksFrom, Flow.edgesFrom, hlinks, hedges, h.arcs]

/-- Before anything is entered, all links of a part are open. -/
theorem openLinks_within (g : FlowGraph) (id : String) :
    (g.within (g.arcs.discovery id)).openLinks [] = (g.linksFrom id).length := by
  rw [openLinks, within, List.filter_eq_self.2 (by simp)]
  rfl

end FlowGraph

/-! ## Routes are short -/

namespace Story

/-- The nodes that are not entered again, in order. -/
def refusals (s : Story) : List String :=
  s.filterMap fun
    | .visit _ _ => none
    | .refusal id => some id

@[simp] theorem refusals_visit (n : GraphNode) (e : NodeEffect) (s : Story) :
    refusals (.visit n e :: s) = refusals s := rfl

@[simp] theorem refusals_refusal (id : String) (s : Story) :
    refusals (.refusal id :: s) = id :: refusals s := rfl

/-- At each moment a node is entered, or it is not entered again. -/
theorem length_eq (s : Story) : s.length = s.trace.length + s.refusals.length := by
  induction s with
  | nil => rfl
  | cons m s ih =>
    cases m with
    | visit n effect =>
      rw [trace_visit, refusals_visit, List.length_cons, List.length_cons, ih]
      omega
    | refusal id =>
      rw [trace_refusal, refusals_refusal, List.length_cons, List.length_cons, ih]
      omega

end Story

namespace Routes

variable {g : FlowGraph} {e : Engine} {item : InventoryItem} {roots stack : List GraphNode}
  {visited : List String} {s : Story}

/-- A route takes no more turns than there are nodes on the stack, links that leave nodes of their
part of the graph not entered yet, and turns in the budgets of the roots to come. -/
theorem length_le_add (h : Routes g e item roots stack visited s) {ids : List String}
    (hclosed : g.arcs.Closed ids) (hstack : ∀ n ∈ stack, n.id ∈ ids) :
    s.length ≤ stack.length + (g.within ids).openLinks visited + (roots.map g.budget).sum := by
  induction h generalizing ids with
  | done => exact Nat.zero_le _
  | @root root roots visited s _ ih =>
    -- the next root has a part of its own, all of whose links are open
    have hpart := g.arcs.closed_discovery root.id
    have hroot : ∀ n ∈ [root], n.id ∈ g.arcs.discovery root.id := by
      intro n hn
      rw [List.mem_singleton.1 hn, Digraph.mem_discovery_iff]
      exact .refl
    have hrest := ih hpart hroot
    rw [g.openLinks_within, List.length_singleton] at hrest
    rw [List.map_cons, List.sum_cons, FlowGraph.budget]
    omega
  | again _ _ ih =>
    have hrest := ih hclosed (List.forall_mem_cons.1 hstack).2
    rw [List.length_cons, List.length_cons]
    omega
  | broken =>
    rw [List.length_singleton, List.length_cons]
    omega
  | @enter roots n stack visited effect s hv _ _ _ ih =>
    obtain ⟨hn, hstack⟩ := List.forall_mem_cons.1 hstack
    have hfollow : ∀ m ∈ g.follow n.id effect.next, m.id ∈ ids := fun m hm =>
      hclosed n.id m.id (FlowGraph.mem_follow hm).2 hn
    have hrest := ih hclosed (List.forall_mem_append.2 ⟨hfollow, hstack⟩)
    -- the links that leave the node are closed, and they are as many as nodes follow it at least
    have hopen := (g.within ids).openLinks_cons
      (Bool.eq_false_iff.2 (mt List.contains_iff_mem.1 hv))
    have hlength := (g.within ids).length_follow_le n.id effect.next
    rw [FlowGraph.follow_within hclosed hn] at hlength
    rw [List.length_append] at hrest
    rw [List.length_cons, List.length_cons]
    omega

/-- A route takes no more turns than the budgets of its roots. -/
theorem length_le (h : Routes g e item roots [] visited s) :
    s.length ≤ (roots.map g.budget).sum := by
  have hclosed : g.arcs.Closed [] := fun _ _ _ hnil => nomatch hnil
  have hall := h.length_le_add hclosed nofun
  have hnone : (g.within []).openLinks visited = 0 := by
    simp [FlowGraph.openLinks, FlowGraph.within]
  rw [hnone, List.length_nil] at hall
  omega

end Routes

/-! ## Walks turn by turn -/

/-- A walk on its way. -/
structure Trek where
  /-- The nodes that it is still to come to, the next one first. -/
  stack : List GraphNode
  /-- The nodes that it has entered. -/
  visited : List String
  payload : Payload
  /-- What has happened, in order. -/
  story : Story
  world : World

namespace Trek

/-- A walk that is yet to begin. -/
def start (root : GraphNode) (p : Payload) (w : World) : Trek := ⟨[root], [], p, [], w⟩

variable (g : FlowGraph) (e : Engine) (x : RunContext)

/-- Takes the next node from the stack. When a collaborator breaks down, nothing is left to be
done. -/
def turn (t : Trek) : Trek :=
  match t.stack with
  | [] => t
  | n :: rest =>
    if t.visited.contains n.id then
      { t with stack := rest, story := t.story ++ [.refusal n.id] }
    else
      let (effect, world) := n.config.task.step e x n.id t.payload t.world
      { stack := if effect.isAbort then [] else g.follow n.id effect.next ++ rest
        visited := n.id :: t.visited
        payload := effect.apply t.payload
        story := t.story ++ [.visit n effect]
        world }

/-- What a walk on its way is still to come to. -/
def rest (t : Trek) : Story × World := g.walk e x t.stack t.visited t.payload t.world

variable {g e x}

theorem turn_of_nil {t : Trek} (h : t.stack = []) : t.turn g e x = t := by
  rw [turn, h]

theorem rest_of_nil {t : Trek} (h : t.stack = []) : t.rest g e x = ([], t.world) := by
  rw [rest, h, FlowGraph.walk]

/-- A turn tells the next moment of the walk. -/
theorem rest_turn {t : Trek} (h : t.stack ≠ []) :
    ∃ m, (t.turn g e x).story = t.story ++ [m] ∧
      t.rest g e x = (m :: ((t.turn g e x).rest g e x).1, ((t.turn g e x).rest g e x).2) := by
  obtain ⟨stack, visited, p, s, w⟩ := t
  cases stack with
  | nil => exact (h rfl).elim
  | cons n rest =>
    simp only [Trek.rest, turn, FlowGraph.walk]
    split
    · exact ⟨_, rfl, rfl⟩
    · cases habort : (n.config.task.step e x n.id p w).1.isAbort with
      | true =>
        refine ⟨_, rfl, ?_⟩
        simp [FlowGraph.walk]
      | false => exact ⟨_, rfl, rfl⟩

/-- After some turns the stack is empty exactly if the walk has no more moments than these, and then
all has been told. -/
theorem turns_eq (k : Nat) (t : Trek) :
    (((turn g e x)^[k] t).stack = [] ↔ (t.rest g e x).1.length ≤ k) ∧
      ((t.rest g e x).1.length ≤ k →
        ((turn g e x)^[k] t).story = t.story ++ (t.rest g e x).1 ∧
          ((turn g e x)^[k] t).world = (t.rest g e x).2) := by
  induction k generalizing t with
  | zero =>
    by_cases h : t.stack = []
    · simp [rest_of_nil h, h]
    · obtain ⟨m, -, hrest⟩ := rest_turn (g := g) (e := e) (x := x) h
      simp [hrest, h]
  | succ k ih =>
    rw [Function.iterate_succ_apply]
    obtain ⟨hiff, htold⟩ := ih (t.turn g e x)
    by_cases h : t.stack = []
    · rw [turn_of_nil h, rest_of_nil h] at hiff htold ⊢
      exact ⟨by simpa using hiff, by simpa using htold⟩
    · obtain ⟨m, hstory, hrest⟩ := rest_turn (g := g) (e := e) (x := x) h
      rw [hrest, List.length_cons, Nat.succ_le_succ_iff]
      refine ⟨hiff, fun hk => ?_⟩
      obtain ⟨htold, hworld⟩ := htold hk
      rw [htold, hstory, List.append_assoc]
      exact ⟨rfl, hworld⟩

end Trek

/-! ## Walks within a budget -/

namespace FlowGraph

variable (g : FlowGraph) (e : Engine) (x : RunContext)

/-- Walks from a root, but for a number of turns at most. -/
def walkWithin (turns : Nat) (root : GraphNode) (p : Payload) (w : World) : Story × World :=
  let t := (Trek.turn g e x)^[turns] (.start root p w)
  (t.story, t.world)

/-- Walks from each of several roots in turn, but from each for a number of turns at most. -/
def walkAllWithin (turns : GraphNode → Nat) :
    List GraphNode → Payload → World → Story × World
  | [], _, w => ([], w)
  | root :: rest, p, w =>
    let (story, w) := g.walkWithin e x (turns root) root p w
    if story.abort?.isSome then (story, w)
    else
      let (more, w) := walkAllWithin turns rest (story.payload p) w
      (story ++ more, w)

/-- Runs a graph on a payload, but walks from each trigger for a number of turns at most. -/
def runWithin (g : FlowGraph) (turns : GraphNode → Nat) (e : Engine) (mode : RunMode)
    (guard : Option Guard) (p : Payload) (w : World) : RunOutcome :=
  g.outcome mode p w <|
    g.walkAllWithin e ⟨g.flowId, mode, guard⟩ turns (g.listeners p.triggerEvent) p w

variable {g e x} {root : GraphNode} {p : Payload} {w : World}

/-- A walk begins with its root. -/
theorem exists_trace_walk : ∃ after, (g.walk e x [root] [] p w).1.trace = root.id :: after := by
  rw [walk, dif_neg (by simp)]
  dsimp only
  split <;> exact ⟨_, rfl⟩

theorem routes_walk : Routes g e p.item [] [root] [] (g.walk e x [root] [] p w).1 := by
  have hroute : Routes g e p.item [] [root] [] ((g.walk e x [root] [] p w).1 ++ []) :=
    (walks_walk g e x [root] [] p w).routes (fun _ => .done) fun _ => rfl
  rwa [List.append_nil] at hroute

/-- A walk keeps to the budget of its root. -/
theorem length_walk_le : (g.walk e x [root] [] p w).1.length ≤ g.budget root := by
  have hroute : Routes g e p.item [root] [] [] (g.walk e x [root] [] p w).1 := .root routes_walk
  simpa using hroute.length_le

/-- A walk that has turns enough is not cut off. -/
theorem walkWithin_eq {turns : Nat} (h : (g.walk e x [root] [] p w).1.length ≤ turns) :
    g.walkWithin e x turns root p w = g.walk e x [root] [] p w := by
  obtain ⟨hstory, hworld⟩ := ((Trek.start root p w).turns_eq turns).2 h
  exact Prod.ext hstory hworld

theorem walkAllWithin_eq {turns : GraphNode → Nat} {roots : List GraphNode}
    (h : ∀ root ∈ roots, g.budget root ≤ turns root) :
    g.walkAllWithin e x turns roots p w = g.walkAll e x roots p w := by
  induction roots generalizing p w with
  | nil => rfl
  | cons root roots ih =>
    obtain ⟨hroot, hroots⟩ := List.forall_mem_cons.1 h
    have hwalk : g.walkWithin e x (turns root) root p w = g.walk e x [root] [] p w :=
      walkWithin_eq (Nat.le_trans length_walk_le hroot)
    simp only [walkAllWithin, walkAll, hwalk, ih hroots]

end FlowGraph

/-! ## Refusals in the log -/

/-- Whether a line says that a node is not entered again. -/
def isRefusalLine (line : String) : Bool := "Node ".toList.isPrefixOf line.toList

/-- The line that says that a node is not entered again. -/
def refusalLine (id : String) : String := "Node " ++ id ++ " already visited; not re-entering"

/-- The log says of each refusal that there was one, and of nothing else. -/
theorem Story.filter_log {s : Story}
    (hgo : ∀ n effect, Moment.visit n effect ∈ s → effect.isAbort = false) :
    s.log.filter isRefusalLine = s.refusals.map refusalLine := by
  induction s with
  | nil => rfl
  | cons m s ih =>
    have hrest := ih fun n effect hn => hgo n effect (List.mem_cons_of_mem _ hn)
    have hlog : log (m :: s) = m.lines ++ log s := rfl
    rw [hlog, List.filter_append, hrest]
    cases m with
    | visit n effect =>
      have hlines := Moment.not_prefix_of_mem_lines (p := "Node ") (n := n) (by decide)
        (hgo n effect List.mem_cons_self)
      have hnone : (Moment.visit n effect).lines.filter isRefusalLine = [] := by
        refine List.filter_eq_nil_iff.2 fun line hline hp => hlines line hline ?_
        exact List.isPrefixOf_iff_prefix.1 hp
      rw [hnone, List.nil_append, refusals_visit]
    | refusal id =>
      have hline : isRefusalLine (refusalLine id) = true := by
        rw [isRefusalLine, List.isPrefixOf_iff_prefix, refusalLine, String.append_assoc,
          String.toList_append]
        exact List.prefix_append _ _
      have hsingle : (Moment.refusal id).lines = [refusalLine id] := rfl
      rw [hsingle, refusals_refusal, List.map_cons, List.filter_cons_of_pos hline]
      rfl

/-! ## Runs within a budget -/

/-- The walk from a trigger ends after as many turns as its story has moments. That is one turn at
most for the trigger, and one for each edge that leaves what the trigger reaches. So no more is
refused than there are such edges beyond those that nodes are entered by, and a run whose walks are
given that many turns each is the same run. -/
theorem Flow.run_within_budget {f : Flow} {r : Registry} {g : FlowGraph} (hg : f.validate r = .ok g)
    (e : Engine) (mode : RunMode) (guard : Option Guard) (p : Payload) (w : World) :
    let x : RunContext := ⟨g.flowId, mode, guard⟩
    (∀ root ∈ g.listeners p.triggerEvent,
      let edges := (f.edgesFrom root.id).length
      let story := (g.walk e x [root] [] p w).1
      -- the stack is empty after as many turns as the story has moments, and not before
      (∀ turns, ((Trek.turn g e x)^[turns] (.start root p w)).stack = [] ↔ story.length ≤ turns) ∧
      story.length ≤ 1 + edges ∧
      -- nor is any other way longer, on which others come in between
      (∀ way, Routes g e p.item [root] [] [] way → way.length ≤ 1 + edges) ∧
      -- what is refused, and logged as such unless the run breaks off
      (∃ after, story.trace = root.id :: after ∧ after.length ≤ edges ∧
        story.refusals.length ≤ edges - after.length) ∧
      (story.abort? = none → story.log.filter isRefusalLine = story.refusals.map refusalLine)) ∧
    g.runWithin (fun root => 1 + (f.edgesFrom root.id).length) e mode guard p w =
      g.run e mode guard p w := by
  intro x
  have hbudget : ∀ root, g.budget root = 1 + (f.edgesFrom root.id).length := fun root => by
    rw [FlowGraph.budget, (f.depicts_of_validate hg).length_linksFrom]
  refine ⟨fun root _ => ?_, ?_⟩
  · intro edges story
    have hlength : story.length ≤ 1 + edges := hbudget root ▸ FlowGraph.length_walk_le
    refine ⟨fun turns => ((Trek.start root p w).turns_eq turns).1, hlength, fun way hway => ?_, ?_,
      fun hs => ?_⟩
    · simpa [hbudget] using hway.length_le
    · obtain ⟨after, htrace⟩ : ∃ after, story.trace = root.id :: after :=
        FlowGraph.exists_trace_walk
      have hmoments := story.length_eq
      rw [htrace, List.length_cons] at hmoments
      exact ⟨after, htrace, by omega, by omega⟩
    · have hroute : Routes g e p.item [] [root] [] story := FlowGraph.routes_walk
      exact Story.filter_log fun n effect hn => hroute.not_isAbort hs hn
  · have hwalks : g.walkAllWithin e x (fun root => 1 + (f.edgesFrom root.id).length)
        (g.listeners p.triggerEvent) p w = g.walkAll e x (g.listeners p.triggerEvent) p w :=
      FlowGraph.walkAllWithin_eq fun root _ => Nat.le_of_eq (hbudget root)
    rw [FlowGraph.run_eq_outcome, FlowGraph.runWithin, hwalks]

/-! ## Two ways to one warning -/

namespace Example

/-- A flow in which two ways lead from a trigger to one warning, so that the budget is used up. -/
def crossing : Flow :=
  (((({ Flow.empty "flow-crossing" "Two ways to a warning" with
      nodes :=
        [node "soon" .expirationTrigger 0 0 [("timeOffset", .ofNat 3)],
          node "left" .updateData 0 0
            [("targetField", .string "shelf"), ("value", .string "left")],
          node "right" .updateData 0 0
            [("targetField", .string "shelf"), ("value", .string "right")],
          node "warn" .sendNotification 0 0
            [("channel", .string "sms"), ("recipient", .string "555"),
              ("message", .string "use it")]] }.connect
    "soon" "left").connect "soon" "right").connect "left" "warn").connect "right" "warn")

end Example

/-- Four edges leave what the trigger reaches, and the walk takes five turns: it enters the trigger
and three more nodes, and comes to the warning once more. -/
theorem Flow.run_within_budget_crossing : ∃ g root,
    Example.crossing.validate .builtin = .ok g ∧ root ∈ g.listeners .expiration ∧
    let edges := (Example.crossing.edgesFrom root.id).length
    let story := (g.walk Example.engine ⟨g.flowId, .live, none⟩ [root] [] Example.milkPayload
      .initial).1
    edges = 4 ∧ story.length = 5 ∧ story.length ≤ 1 + edges ∧ story.refusals = ["warn"] ∧
    story.log.filter isRefusalLine = ["Node warn already visited; not re-entering"] := by
  have h : ((Example.crossing.validate .builtin).toOption.bind fun g =>
      (g.listeners .expiration).head?.map fun root =>
        let story := (g.walk Example.engine ⟨g.flowId, .live, none⟩ [root] [] Example.milkPayload
          .initial).1
        ((Example.crossing.edgesFrom root.id).length, story.length, story.refusals,
          story.abort?)) = some (4, 5, ["warn"], none) := by
    decide +kernel
  obtain ⟨g, hg, h⟩ := Option.bind_eq_some_iff.1 h
  obtain ⟨root, hroot, h⟩ := Option.map_eq_some_iff.1 h
  simp only [Prod.mk.injEq] at h
  obtain ⟨hedges, hturns, hrefusals, hgo⟩ := h
  have hg := Fallible.toOption_eq_some_iff.1 hg
  have hroot : root ∈ g.listeners .expiration := List.mem_of_head? hroot
  obtain ⟨-, hlength, -, -, hlog⟩ := (Flow.run_within_budget hg Example.engine .live none
    Example.milkPayload .initial).1 root hroot
  refine ⟨g, root, hg, hroot, hedges, hturns, hlength, hrefusals, ?_⟩
  rw [hlog hgo, hrefusals]
  rfl

end KitchenFlow
