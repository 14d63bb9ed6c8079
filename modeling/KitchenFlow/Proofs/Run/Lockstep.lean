import KitchenFlow.Proofs.Run.Narration

/-!
# Two runs in lockstep

What a run does is decided node by node. So if two engines come to the same effect at every node,
in any two worlds that are alike, and leave worlds that are alike again, then the runs that they
make of one graph have one story. What it means for worlds to be alike is left open here.

    InLockstep.run   the two runs tell the same events and return the same
-/

namespace KitchenFlow

variable {e₁ e₂ : Engine} {x₁ x₂ : RunContext} {R : World → World → Prop} {w₁ w₂ : World}

/-- Whatever is to be done at a node, two engines come to the same effect in worlds that are alike,
and leave worlds that are alike. -/
def InLockstep (R : World → World → Prop) (e₁ e₂ : Engine) (x₁ x₂ : RunContext) : Prop :=
  ∀ (task : NodeTask) (id : String) (p : Payload) (w₁ w₂ : World), R w₁ w₂ →
    (task.step e₁ x₁ id p w₁).1 = (task.step e₂ x₂ id p w₂).1 ∧
      R (task.step e₁ x₁ id p w₁).2 (task.step e₂ x₂ id p w₂).2

namespace InLockstep

variable (h : InLockstep R e₁ e₂ x₁ x₂) (g : FlowGraph)

include h

theorem walk (stack : List GraphNode) (visited : List String) (p : Payload) (hw : R w₁ w₂) :
    (g.walk e₁ x₁ stack visited p w₁).1 = (g.walk e₂ x₂ stack visited p w₂).1 ∧
      R (g.walk e₁ x₁ stack visited p w₁).2 (g.walk e₂ x₂ stack visited p w₂).2 := by
  -- along the first walk: at each node the second one has the same effect, so it goes the same way
  fun_induction FlowGraph.walk g e₁ x₁ stack visited p w₁ generalizing w₂ with
  | case1 =>
    rw [FlowGraph.walk]
    exact ⟨rfl, hw⟩
  | case2 visited p w n rest hv s w' hwalk ih =>
    rw [FlowGraph.walk, dif_pos hv]
    obtain ⟨hs, hw'⟩ := ih hw
    rw [hwalk] at hs hw'
    exact ⟨congrArg (Moment.refusal n.id :: ·) hs, hw'⟩
  | case3 visited p w n rest hv effect w' hstep habort =>
    obtain ⟨heffect, hw'⟩ := h n.config.task n.id p w w₂ hw
    rw [hstep] at heffect hw'
    rw [FlowGraph.walk, dif_neg hv]
    dsimp only at heffect ⊢
    rw [← heffect, if_pos habort]
    exact ⟨rfl, hw'⟩
  | case4 visited p w n rest hv effect w' hstep habort s w'' hwalk ih =>
    obtain ⟨heffect, hw'⟩ := h n.config.task n.id p w w₂ hw
    rw [hstep] at heffect hw'
    obtain ⟨hs, hw''⟩ := ih hw'
    rw [hwalk] at hs hw''
    rw [FlowGraph.walk, dif_neg hv]
    dsimp only at heffect ⊢
    rw [← heffect, if_neg habort]
    exact ⟨congrArg (Moment.visit n effect :: ·) hs, hw''⟩

theorem walkAll (roots : List GraphNode) (p : Payload) (hw : R w₁ w₂) :
    (g.walkAll e₁ x₁ roots p w₁).1 = (g.walkAll e₂ x₂ roots p w₂).1 ∧
      R (g.walkAll e₁ x₁ roots p w₁).2 (g.walkAll e₂ x₂ roots p w₂).2 := by
  induction roots generalizing p w₁ w₂ with
  | nil => exact ⟨rfl, hw⟩
  | cons root rest ih =>
    obtain ⟨hs, hw'⟩ := h.walk g [root] [] p hw
    rw [FlowGraph.walkAll, FlowGraph.walkAll]
    dsimp only
    rw [← hs]
    split
    · exact ⟨rfl, hw'⟩
    · obtain ⟨hmore, hw''⟩ := ih ((g.walk e₁ x₁ [root] [] p w₁).1.payload p) hw'
      exact ⟨congrArg (_ ++ ·) hmore, hw''⟩

end InLockstep

/-- Two runs in lockstep tell the same events and return the same, and they leave worlds that are
alike, if the same time goes by in such worlds. -/
theorem InLockstep.run {mode : RunMode} {guard₁ guard₂ : Option Guard} (g : FlowGraph)
    (h : InLockstep R e₁ e₂ ⟨g.flowId, mode, guard₁⟩ ⟨g.flowId, mode, guard₂⟩)
    (hclock : ∀ w₁ w₂, R w₁ w₂ → w₁.clock = w₂.clock) (p : Payload) (hw : R w₁ w₂) :
    (g.run e₁ mode guard₁ p w₁).events = (g.run e₂ mode guard₂ p w₂).events ∧
      (g.run e₁ mode guard₁ p w₁).result = (g.run e₂ mode guard₂ p w₂).result ∧
      R (g.run e₁ mode guard₁ p w₁).world (g.run e₂ mode guard₂ p w₂).world := by
  obtain ⟨hs, hw'⟩ := h.walkAll g (g.listeners p.triggerEvent) p hw
  simp only [FlowGraph.run_eq_outcome, FlowGraph.outcome]
  rw [← hs, ← hclock _ _ hw, ← hclock _ _ hw']
  split
  · exact ⟨rfl, rfl, hw'⟩
  · exact ⟨rfl, rfl, hw'⟩

end KitchenFlow
