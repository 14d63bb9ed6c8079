import KitchenFlow.Proofs.Run.Routes

/-!
# Walks

A walk does two things at once: it finds out where to go next, and it does what is to be done there.
Two relations take these apart.

* `Walks` has one constructor for each thing that can happen to the first node of a stack. Where a
  walk goes is a route, and all that is known of routes holds of it.
* `Unfolds` forgets the stack. It only says that each effect of a story is what the step of its node
  comes to, in the world that the moments before have left. What a walk does to the world is shown
  by induction on it.

A run makes one walk for each trigger that listens, and these walks together take a route as well:

    WalksAll.routes   Routes g e p.item roots [] [] s
-/

namespace KitchenFlow

/-! ## What a story does -/

/-- The effects of a story are those that its nodes come to, one after the other. -/
inductive Unfolds (e : Engine) (x : RunContext) : Payload → World → Story → World → Prop where
  | nil {p w} : Unfolds e x p w [] w
  | refusal {p w id s w'} : Unfolds e x p w s w' → Unfolds e x p w (.refusal id :: s) w'
  | visit {p w n effect w₁ s w'} : n.config.task.step e x n.id p w = (effect, w₁) →
      Unfolds e x (effect.apply p) w₁ s w' → Unfolds e x p w (.visit n effect :: s) w'

variable {g : FlowGraph} {e : Engine} {x : RunContext}

theorem Unfolds.append {p : Payload} {w w₁ w' : World} {s t : Story} (hs : Unfolds e x p w s w₁)
    (ht : Unfolds e x (s.payload p) w₁ t w') : Unfolds e x p w (s ++ t) w' := by
  induction hs with
  | nil => exact ht
  | refusal _ ih => exact .refusal (ih ht)
  | visit hstep _ ih => exact .visit hstep (ih ht)

/-! ## Where a walk goes -/

/-- The ways in which a walk can go. -/
inductive Walks (g : FlowGraph) (e : Engine) (x : RunContext) :
    List GraphNode → List String → Payload → World → Story → World → Prop where
  | done {visited p w} : Walks g e x [] visited p w [] w
  | again {n rest visited p w s w'} : n.id ∈ visited → Walks g e x rest visited p w s w' →
      Walks g e x (n :: rest) visited p w (.refusal n.id :: s) w'
  | broken {n rest visited p w effect w'} : n.id ∉ visited →
      n.config.task.step e x n.id p w = (effect, w') → effect.isAbort = true →
      Walks g e x (n :: rest) visited p w [.visit n effect] w'
  | enter {n rest visited p w effect w₁ s w'} : n.id ∉ visited →
      n.config.task.step e x n.id p w = (effect, w₁) → effect.isAbort = false →
      Walks g e x (g.follow n.id effect.next ++ rest) (n.id :: visited) (effect.apply p) w₁ s w' →
      Walks g e x (n :: rest) visited p w (.visit n effect :: s) w'

theorem walks_walk (g : FlowGraph) (e : Engine) (x : RunContext) (stack : List GraphNode)
    (visited : List String) (p : Payload) (w : World) :
    Walks g e x stack visited p w (g.walk e x stack visited p w).1
      (g.walk e x stack visited p w).2 := by
  fun_induction FlowGraph.walk g e x stack visited p w with
  | case1 => exact .done
  | case2 visited p w n rest hv s w' hwalk ih =>
    rw [hwalk] at ih
    exact .again (List.contains_iff_mem.1 hv) ih
  | case3 visited p w n rest hv effect w' hstep habort =>
    exact .broken (mt List.contains_iff_mem.2 hv) hstep habort
  | case4 visited p w n rest hv effect w₁ hstep habort s w' hwalk ih =>
    rw [hwalk] at ih
    exact .enter (mt List.contains_iff_mem.2 hv) hstep (Bool.eq_false_iff.2 habort) ih

namespace Walks

variable {stack : List GraphNode} {visited : List String} {p : Payload} {w w' : World} {s : Story}

theorem unfolds (h : Walks g e x stack visited p w s w') : Unfolds e x p w s w' := by
  induction h with
  | done => exact .nil
  | again _ _ ih => exact .refusal ih
  | broken _ hstep _ => exact .visit hstep .nil
  | enter _ hstep _ _ ih => exact .visit hstep ih

/-- A walk takes a route, which goes on with what comes after the walk unless it is broken off. -/
theorem routes (h : Walks g e x stack visited p w s w') {roots : List GraphNode} {rest : Story}
    (hrest : s.abort? = none → Routes g e p.item roots [] [] rest)
    (hbroken : s.abort? ≠ none → rest = []) :
    Routes g e p.item roots stack visited (s ++ rest) := by
  induction h with
  | done => exact (hrest rfl).of_nil
  | again hv _ ih =>
    rw [Story.abort?_cons rfl] at hrest hbroken
    exact .again hv (ih hrest hbroken)
  | @broken n stack visited p w effect w' hv hstep habort =>
    have hcomes := NodeTask.comesTo_step e x n.id p w n.config.task
    rw [hstep] at hcomes
    obtain rfl := hbroken fun hnone => by
      cases habort.symm.trans (Story.abort?_visit_eq_none_iff.1 hnone)
    exact .broken hv hcomes habort
  | @enter n stack visited p w effect w₁ s w' hv hstep hgo _ ih =>
    have hcomes := NodeTask.comesTo_step e x n.id p w n.config.task
    rw [hstep] at hcomes
    rw [Story.abort?_cons (Story.abort?_visit_eq_none_iff.2 hgo)] at hrest hbroken
    rw [effect.apply_item] at ih
    exact .enter hv hcomes hgo (ih hrest hbroken)

end Walks

/-! ## Walks from several nodes -/

/-- The ways in which walks from several nodes can go. -/
inductive WalksAll (g : FlowGraph) (e : Engine) (x : RunContext) :
    List GraphNode → Payload → World → Story → World → Prop where
  | done {p w} : WalksAll g e x [] p w [] w
  | broken {root rest p w s w'} : Walks g e x [root] [] p w s w' → s.abort?.isSome = true →
      WalksAll g e x (root :: rest) p w s w'
  | next {root rest p w s w₁ t w'} : Walks g e x [root] [] p w s w₁ → s.abort? = none →
      WalksAll g e x rest (s.payload p) w₁ t w' → WalksAll g e x (root :: rest) p w (s ++ t) w'

theorem walksAll_walkAll (g : FlowGraph) (e : Engine) (x : RunContext) (roots : List GraphNode)
    (p : Payload) (w : World) :
    WalksAll g e x roots p w (g.walkAll e x roots p w).1 (g.walkAll e x roots p w).2 := by
  induction roots generalizing p w with
  | nil => exact .done
  | cons root rest ih =>
    have hwalk := walks_walk g e x [root] [] p w
    rw [FlowGraph.walkAll]
    dsimp only
    split
    · next h => exact .broken hwalk h
    · next h => exact .next hwalk (by simpa using h) (ih _ _)

namespace WalksAll

variable {roots : List GraphNode} {p : Payload} {w w' : World} {s : Story}

theorem unfolds (h : WalksAll g e x roots p w s w') : Unfolds e x p w s w' := by
  induction h with
  | done => exact .nil
  | broken hwalk _ => exact hwalk.unfolds
  | next hwalk _ _ ih => exact hwalk.unfolds.append ih

/-- Walks from several nodes take a route. -/
theorem routes (h : WalksAll g e x roots p w s w') : Routes g e p.item roots [] [] s := by
  induction h with
  | done => exact .done
  | @broken root rest p w s w' hwalk habort =>
    have hroute : Routes g e p.item rest [root] [] (s ++ []) :=
      hwalk.routes (fun hnone => by simp [hnone] at habort) fun _ => rfl
    rw [List.append_nil] at hroute
    exact .root hroute
  | next hwalk hgo _ ih =>
    rw [Story.payload_item] at ih
    exact .root (hwalk.routes (fun _ => ih) (absurd hgo))

theorem reaches (h : WalksAll g e x roots p w s w') :
    ∀ id ∈ s.trace, ∃ n ∈ roots, g.arcs.Reaches n.id id := by
  intro id hid
  obtain ⟨n, effect, hn, rfl⟩ := Story.mem_trace_iff.1 hid
  simpa using h.routes.reaches n effect hn

/-- Walks from nodes that reach nothing in common enter no node twice. -/
theorem nodup_trace (h : WalksAll g e x roots p w s w')
    (hroots : roots.Pairwise fun m n => ∀ id, g.arcs.Reaches m.id id → ¬ g.arcs.Reaches n.id id) :
    s.trace.Nodup :=
  h.routes.nodup_trace hroots

theorem visit_mem (h : WalksAll g e x roots p w s w') (hroots : ∀ n ∈ roots, n ∈ g.nodes) :
    ∀ n effect, Moment.visit n effect ∈ s → n ∈ g.nodes :=
  h.routes.visit_mem hroots (by simp)

theorem not_isAbort (h : WalksAll g e x roots p w s w') (hs : s.abort? = none) :
    ∀ n effect, Moment.visit n effect ∈ s → effect.isAbort = false :=
  fun _ _ hn => h.routes.not_isAbort hs hn

end WalksAll

end KitchenFlow
