import KitchenFlow.Proofs.Run.Lockstep

/-!
# Rehearsals

A run in test mode is a rehearsal: it goes the way of the graph and pretends that each action is
done, but it asks nobody for anything. What comes of a node then depends on the payload alone, and
so a graph and a payload have one rehearsal, whatever the run is made with:

    run_test           a run in test mode tells the rehearsal and leaves the world as it was
    rehearsals_agree   any two runs in test mode tell the same
-/

namespace KitchenFlow

namespace NodeTask

variable {e : Engine} {x : RunContext} {id : String} {p : Payload} {w : World}

/-- What comes of a node when nothing is done for real. -/
def rehearse (p : Payload) : NodeTask → NodeEffect
  | .expiry c => ask p (c.isMatch p.item)
  | .status c => ask p (c.isMatch p.item)
  | .choose c => .branched c (branch p c)
  | .write c => .wrote (targetKey c) (p.render c.value)
  | .suggest _ => demoRecipe p testReason
  | .act a => .acted (a.describe p) p.item.id (.demo testReason)

theorem step_test (hx : x.mode = .test) (task : NodeTask) :
    task.step e x id p w = (task.rehearse p, w) := by
  cases task with
  | expiry | status | choose | write => rfl
  | suggest c =>
    show suggestRecipe e x p c w = _
    rw [suggestRecipe, hx]
    rfl
  | act a =>
    rw [step, hx]
    rfl

theorem isAbort_rehearse (p : Payload) (task : NodeTask) : (task.rehearse p).isAbort = false := by
  cases task <;> rfl

end NodeTask

/-- A story in which every node lets the run go on is not broken off. -/
theorem Story.abort?_eq_none {s : Story}
    (h : ∀ n effect, Moment.visit n effect ∈ s → effect.isAbort = false) : s.abort? = none := by
  unfold abort?
  split
  · next n message hlast => cases h n _ (List.mem_of_getLast? hlast)
  · rfl

theorem Unfolds.exists_rehearse {e : Engine} {x : RunContext} {p : Payload} {w w' : World}
    {s : Story} (h : Unfolds e x p w s w') (hx : x.mode = .test) :
    ∀ n effect, Moment.visit n effect ∈ s → ∃ q, effect = n.config.task.rehearse q := by
  -- updates and recipes change the payload on the way, so each node is rehearsed on its own one
  induction h with
  | nil => simp
  | refusal _ ih => exact fun n effect hn => ih n effect (by simpa using hn)
  | @visit p w n effect w₁ s w' hstep _ ih =>
    intro m effect' hm
    rcases List.mem_cons.1 hm with hm | hm
    · cases hm
      rw [NodeTask.step_test hx] at hstep
      exact ⟨p, (Prod.mk.inj hstep).1.symm⟩
    · exact ih m effect' hm

theorem Unfolds.world_eq {e : Engine} {x : RunContext} {p : Payload} {w w' : World} {s : Story}
    (h : Unfolds e x p w s w') (hx : x.mode = .test) : w' = w := by
  induction h with
  | nil => rfl
  | refusal _ ih => exact ih
  | visit hstep _ ih =>
    rw [NodeTask.step_test hx] at hstep
    exact ih.trans (Prod.mk.inj hstep).2.symm

namespace FlowGraph

/-- A walk in test mode is not broken off. -/
theorem abort?_walk_test (g : FlowGraph) (e : Engine) {x : RunContext} (hx : x.mode = .test)
    (stack : List GraphNode) (visited : List String) (p : Payload) (w : World) :
    (g.walk e x stack visited p w).1.abort? = none := by
  refine Story.abort?_eq_none fun n effect hn => ?_
  obtain ⟨q, rfl⟩ := (walks_walk g e x stack visited p w).unfolds.exists_rehearse hx n effect hn
  exact n.config.task.isAbort_rehearse q

theorem abort?_walkAll_test (g : FlowGraph) (e : Engine) {x : RunContext} (hx : x.mode = .test)
    (roots : List GraphNode) (p : Payload) (w : World) :
    (g.walkAll e x roots p w).1.abort? = none := by
  refine Story.abort?_eq_none fun n effect hn => ?_
  obtain ⟨q, rfl⟩ := (walksAll_walkAll g e x roots p w).unfolds.exists_rehearse hx n effect hn
  exact n.config.task.isAbort_rehearse q

variable (g : FlowGraph) (p : Payload)

/-- The story of a rehearsal, which can be told without any collaborator. -/
def rehearsal : Story :=
  (g.walkAll .bare ⟨g.flowId, .test, none⟩ (g.listeners p.triggerEvent) p .initial).1

theorem abort?_rehearsal : (g.rehearsal p).abort? = none :=
  g.abort?_walkAll_test .bare rfl _ p .initial

/-- The story of a rehearsal from several nodes. -/
def rehearseAll (roots : List GraphNode) : Story :=
  (g.walkAll .bare ⟨g.flowId, .test, none⟩ roots p .initial).1

theorem rehearsal_eq : g.rehearsal p = g.rehearseAll p (g.listeners p.triggerEvent) := rfl

/-- A rehearsal from several nodes goes on, from the second, where that from the first has come
to. -/
theorem rehearseAll_cons (root : GraphNode) (roots : List GraphNode) {s : Story}
    (hs : g.walk .bare ⟨g.flowId, .test, none⟩ [root] [] p .initial = (s, .initial)) :
    g.rehearseAll p (root :: roots) = s ++ g.rehearseAll (s.payload p) roots := by
  have hgo := g.abort?_walk_test .bare (x := ⟨g.flowId, .test, none⟩) rfl [root] [] p .initial
  rw [hs] at hgo
  simp only [rehearseAll, walkAll, hs]
  rw [hgo, Option.isSome_none, if_neg Bool.false_ne_true]

theorem rehearseAll_append (roots more : List GraphNode) :
    g.rehearseAll p (roots ++ more) =
      g.rehearseAll p roots ++ g.rehearseAll ((g.rehearseAll p roots).payload p) more := by
  induction roots generalizing p with
  | nil => rfl
  | cons root roots ih =>
    have hworld := (walks_walk g .bare ⟨g.flowId, .test, none⟩ [root] [] p
      .initial).unfolds.world_eq rfl
    rcases hs : g.walk .bare ⟨g.flowId, .test, none⟩ [root] [] p .initial with ⟨s, w⟩
    rw [hs] at hworld
    obtain rfl : w = .initial := hworld
    rw [List.cons_append, g.rehearseAll_cons p root _ hs, g.rehearseAll_cons p root _ hs, ih,
      List.append_assoc, Story.payload_append]

/-- Whatever a walk in test mode is made with, it tells the rehearsal. -/
theorem walkAll_test (e : Engine) (guard : Option Guard) (roots : List GraphNode) (w : World) :
    g.walkAll e ⟨g.flowId, .test, guard⟩ roots p w = (g.rehearseAll p roots, w) := by
  -- next to a walk without anything, both worlds stay as they are
  have hsteps : InLockstep (fun v v' => v = w ∧ v' = .initial) e .bare
      ⟨g.flowId, .test, guard⟩ ⟨g.flowId, .test, none⟩ := by
    intro task id p v v' hworlds
    rw [NodeTask.step_test rfl, NodeTask.step_test rfl]
    exact ⟨rfl, hworlds⟩
  obtain ⟨hstory, hw, -⟩ := hsteps.walkAll g roots p ⟨rfl, rfl⟩
  exact Prod.ext hstory hw

/-- What a run in test mode comes to. -/
theorem run_test (e : Engine) (guard : Option Guard) (w : World) :
    g.run e .test guard p w =
      { events := .runStarted g.flowId p.triggerEvent .test :: (g.rehearsal p).events ++
          [.runCompleted (g.rehearsal p).trace.length 0]
        result := .ok
          { trace := (g.rehearsal p).trace
            log := g.preface p.triggerEvent ++ (g.rehearsal p).log
            payload := (g.rehearsal p).payload p
            stats := (g.rehearsal p).stats }
        world := w } := by
  rw [run_of_abort?_eq_none (g.walkAll_test p e guard _ w) (g.abort?_rehearsal p), Nat.sub_self,
    rehearsal_eq]

/-- In test mode a run is shut off from all collaborators. Two runs of a graph on a payload return
the same and tell the same events, whatever engines, guards and worlds they are made with, and each
leaves its world as it was: no call is made, no credential is looked up, nothing is reserved, and
no time goes by. -/
theorem rehearsals_agree (e₁ e₂ : Engine) (guard₁ guard₂ : Option Guard) (w₁ w₂ : World) :
    let o₁ := g.run e₁ .test guard₁ p w₁
    let o₂ := g.run e₂ .test guard₂ p w₂
    (∃ r, o₁.result = .ok r ∧ o₂.result = .ok r) ∧ o₁.events = o₂.events ∧
      o₁.world = w₁ ∧ o₂.world = w₂ := by
  intro o₁ o₂
  have h₁ := g.run_test p e₁ guard₁ w₁
  have h₂ := g.run_test p e₂ guard₂ w₂
  refine ⟨⟨_, congrArg RunOutcome.result h₁, congrArg RunOutcome.result h₂⟩, ?_,
    congrArg RunOutcome.world h₁, congrArg RunOutcome.world h₂⟩
  exact (congrArg RunOutcome.events h₁).trans (congrArg RunOutcome.events h₂).symm

end FlowGraph
end KitchenFlow
