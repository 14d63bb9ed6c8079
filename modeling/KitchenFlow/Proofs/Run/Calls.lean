import KitchenFlow.Proofs.Run.Bookkeeping

/-!
# Calls of a run

What a run asks of its collaborators is read off how the calls of the world grow. An attempt at an
action makes one call, to the collaborator of the action, or none; asking for a recipe makes one
call for a completion, or none; and nothing else makes any. `Action.Makes` lists the calls that can
go with each way in which an action comes out:

    Action.call?               the call that an attempt makes, if it makes one
    NodeTask.step_makes        the calls of an action go with its effect
    NodeTask.step_calls        a node that is no action asks for completions only
-/

namespace KitchenFlow

/-! ## What a step asks for -/

/-- The call that an attempt makes, if it makes one. -/
def Action.call? (e : Engine) (p : Payload) (a : Action) (w : World) : Option Call :=
  match e.services.get? a.service, (a.secret e w).1 with
  | some _, .ok secret => some (a.call p secret)
  | _, _ => none

theorem Action.attempt_calls (e : Engine) (p : Payload) (a : Action) (w : World) :
    (a.attempt e p w).2.calls = w.calls ++ (a.call? e p w).toList := by
  have hsecret := a.secret_calls e w
  unfold Action.attempt Action.call?
  cases e.services.get? a.service with
  | none => exact (List.append_nil _).symm
  | some responder =>
    dsimp only
    rcases hs : a.secret e w with ⟨secret, w₁⟩
    rw [hs] at hsecret
    rw [← hsecret]
    cases secret with
    | error err => exact (List.append_nil _).symm
    | ok secret =>
      have hcall := w₁.perform_calls e.timeout responder (a.call p secret)
      dsimp only
      split <;> next hp =>
        rw [hp] at hcall
        exact hcall

theorem Action.service_of_call? {e : Engine} {p : Payload} {a : Action} {w : World} {c : Call}
    (h : a.call? e p w = some c) : c.service = a.service := by
  unfold Action.call? at h
  split at h
  · cases h
    exact a.service_call _ _
  · cases h

/-- An attempt that makes no call finds that it cannot be made. -/
theorem Action.exists_unavailable {e : Engine} {p : Payload} {a : Action} {w : World}
    (h : a.call? e p w = none) : ∃ reason, (a.attempt e p w).1 = .unavailable reason := by
  unfold Action.call? at h
  unfold Action.attempt
  cases hservice : e.services.get? a.service with
  | none => exact ⟨_, rfl⟩
  | some responder =>
    rcases hs : a.secret e w with ⟨secret, w₁⟩
    rw [hservice, hs] at h
    cases secret with
    | error err => exact ⟨_, rfl⟩
    | ok secret => cases h

theorem Action.service_ne (a : Action) : a.service ≠ .completion := by
  cases a <;> simp [Action.service]

theorem Recipe.apiKey_calls (e : Engine) (c : GenerateRecipeConfig) (w : World) :
    (Recipe.apiKey e c w).2.calls = w.calls := by
  unfold Recipe.apiKey
  split
  · exact e.resolveSecret_calls _ w
  · split <;> rfl

theorem Recipe.complete_calls (e : Engine) (c : GenerateRecipeConfig) (question : String)
    (w : World) : ∃ new, (Recipe.complete e c question w).2.calls = w.calls ++ new ∧
      ∀ call ∈ new, call.service = .completion := by
  have hkey := Recipe.apiKey_calls e c w
  have hnone : w.calls = w.calls ++ [] := (List.append_nil _).symm
  unfold Recipe.complete
  split
  · exact ⟨[], hnone, by simp⟩
  · next responder _ =>
    split
    · next hk =>
      rw [hk] at hkey
      exact ⟨[], hkey.trans hnone, by simp⟩
    · next key w₁ hk =>
      rw [hk] at hkey
      have hcall := w₁.perform_calls e.timeout responder (.completion question key)
      refine ⟨[.completion question key], ?_, by simp [Call.service]⟩
      split <;> next hp =>
        rw [hp, hkey] at hcall
        exact hcall

/-- A node that is no action asks for completions only. -/
theorem NodeTask.step_calls {task : NodeTask} (hact : ∀ a, task ≠ .act a) (e : Engine)
    (x : RunContext) (id : String) (p : Payload) (w : World) :
    ∃ new, (task.step e x id p w).2.calls = w.calls ++ new ∧
      ∀ c ∈ new, c.service = .completion := by
  cases task with
  | expiry | status | choose | write => exact ⟨[], (List.append_nil _).symm, by simp⟩
  | act a => exact (hact a rfl).elim
  | suggest c =>
    obtain ⟨new, hnew, hservice⟩ := Recipe.complete_calls e c (Recipe.prompt c p) w
    unfold step suggestRecipe
    cases x.mode with
    | test => exact ⟨[], (List.append_nil _).symm, by simp⟩
    | live =>
      refine ⟨new, ?_, hservice⟩
      dsimp only
      split <;> next hc =>
        rw [hc] at hnew
        exact hnew

/-- The calls that can go with each way in which an action comes out. -/
inductive Action.Makes (a : Action) : NodeEffect → List Call → Prop where
  | skip {d i} : Makes a (.acted d i .duplicate) []
  | send {d i c} : c.service = a.service → Makes a (.acted d i .dispatched) [c]
  | fail {d i err c} : c.service = a.service → Makes a (.acted d i (.failed err)) [c]
  | lack {d i reason} : Makes a (.acted d i (.demo reason)) []
  | decline {d i reason c} : c.service = a.service → Makes a (.acted d i (.demo reason)) [c]
  | breakdown {message c} : c.service = a.service → Makes a (.aborted message) [c]

namespace NodeTask

theorem reserve_calls (x : RunContext) (key : ActionKey) (w : World) :
    (reserve x key w).2.calls = w.calls := by
  unfold reserve
  split <;> rfl

theorem release_calls (x : RunContext) (key : ActionKey) (w : World) :
    (release x key w).calls = w.calls := by
  unfold release
  split <;> rfl

theorem carryOut_makes (e : Engine) (x : RunContext) (id : String) (p : Payload) (a : Action)
    (w : World) : ∃ new, (carryOut e x id p a w).2.calls = w.calls ++ new ∧
      a.Makes (carryOut e x id p a w).1 new := by
  have hreserve := reserve_calls x (actionKey x p id) w
  rcases hr : reserve x (actionKey x p id) w with ⟨granted, w₁⟩
  rw [hr] at hreserve
  cases granted with
  | false =>
    simp only [carryOut, hr]
    exact ⟨[], hreserve.trans (List.append_nil _).symm, .skip⟩
  | true =>
    have hcalls := a.attempt_calls e p w₁
    have hlack := Action.exists_unavailable (e := e) (p := p) (a := a) (w := w₁)
    rcases ha : a.attempt e p w₁ with ⟨result, w₂⟩
    rw [ha, hreserve] at hcalls
    rw [ha] at hlack
    refine ⟨(a.call? e p w₁).toList, ?_, ?_⟩
    · -- giving the slot back makes no call
      simp only [carryOut, hr, ha]
      cases result with
      | sent | broke => exact hcalls
      | unavailable | failed => exact (release_calls ..).trans hcalls
    · simp only [carryOut, hr, ha]
      cases hc : a.call? e p w₁ with
      | none =>
        obtain ⟨reason, rfl⟩ := hlack hc
        exact .lack
      | some c =>
        have hservice := Action.service_of_call? hc
        cases result with
        | sent => exact .send hservice
        | unavailable reason => exact .decline hservice
        | failed err => exact .fail hservice
        | broke message => exact .breakdown hservice

/-- The calls that an action makes in a step go with its effect. -/
theorem step_makes (e : Engine) (x : RunContext) (id : String) (p : Payload) (a : Action)
    (w : World) : ∃ new, ((NodeTask.act a).step e x id p w).2.calls = w.calls ++ new ∧
      a.Makes ((NodeTask.act a).step e x id p w).1 new := by
  unfold step
  cases x.mode with
  | test => exact ⟨[], (List.append_nil _).symm, .lack⟩
  | live => exact carryOut_makes e x id p a w

end NodeTask

end KitchenFlow
