import KitchenFlow.Proofs.Run.Calls
import KitchenFlow.Proofs.Run.Moves

/-!
# Engines without memory

Collaborators may behave by what they were asked before, and so may the store of credentials. If
they do not, a run is told apart from another one by the ledger only, and of the ledger it reads no
more than the slots of its own actions. So take two worlds whose ledgers agree on some keys, and
whose calls have grown by the same since they were compared first. A run under way that keeps to
these keys makes the same step in both of them:

    Engine.Memoryless       collaborators and credentials are the same at all times
    World.AlikeSince        two worlds that a run cannot tell apart
    Runner.advance_alike    the next step of a run is the same, and it leaves such worlds
-/

namespace KitchenFlow

/-! ## Engines with a steady store -/

/-- Whenever a credential is looked up, it comes to the same. -/
def Engine.Steady (e : Engine) : Prop :=
  ∀ source ∈ e.credentials, ∀ id k l, (source id).outcome k = (source id).outcome l

theorem Engine.Steady.resolveSecret {e : Engine} (hs : e.Steady) (id : String) (w w' : World) :
    (e.resolveSecret id w).1 = (e.resolveSecret id w').1 := by
  unfold Engine.resolveSecret
  cases hc : e.credentials with
  | none => rfl
  | some source =>
    cases e.vault with
    | none => rfl
    | some vault =>
      dsimp only
      rw [hs source hc id w.lookups.length w'.lookups.length]
      cases (source id).outcome w'.lookups.length with
      | found c => cases c <;> rfl
      | fails | silence => rfl

theorem Action.secret_eq {e : Engine} (hs : e.Steady) (a : Action) (w w' : World) :
    (a.secret e w).1 = (a.secret e w').1 := by
  unfold secret
  cases a.credential? with
  | none => rfl
  | some id => exact hs.resolveSecret id w w'

theorem Recipe.apiKey_eq {e : Engine} (hs : e.Steady) (c : GenerateRecipeConfig) (w w' : World) :
    (Recipe.apiKey e c w).1 = (Recipe.apiKey e c w').1 := by
  unfold Recipe.apiKey
  cases c.credentialId with
  | none => cases e.defaultAiKey <;> rfl
  | some id => exact hs.resolveSecret id w w'

/-! ## Collaborators without memory -/

/-- What a behaviour comes to if it may take no longer than the limit. -/
def Behaviour.result (b : Behaviour) (limit : Nat) : CallResult :=
  if limit < b.delayMs then .answered (.error (.timeout limit))
  else
    match b.ending with
    | .answer r => .answered r
    | .silence => .answered (.error (.timeout limit))
    | .breakdown message => .broke message

theorem World.perform_result (w : World) (limit : Nat) (responder : Responder) (c : Call) :
    (w.perform limit responder c).1 = (responder (w.callCount c.service) c).result limit := by
  unfold World.perform Behaviour.result
  dsimp only
  split
  · rfl
  · cases (responder (w.callCount c.service) c).ending <;> rfl

/-- What the result of a call means for the action that made it. -/
def CallResult.attempt : CallResult → Attempt
  | .answered r => Action.settle r
  | .broke message => .broke message

/-- An attempt for which there is all that it needs comes to what its call does. -/
theorem Action.attempt_of_secret {e : Engine} {p : Payload} {a : Action} {responder : Responder}
    {secret : String} {w w₁ : World} (hr : e.services.get? a.service = some responder)
    (hs : a.secret e w = (.ok secret, w₁)) :
    (a.attempt e p w).1 = (w₁.perform e.timeout responder (a.call p secret)).1.attempt := by
  unfold attempt
  rw [hr, hs]
  dsimp only
  rcases w₁.perform e.timeout responder (a.call p secret) with ⟨result, w₂⟩
  cases result <;> rfl

/-- At all times, a call comes to the same: a completion to the same text, and the call of an action
to what means the same. -/
structure Engine.Memoryless (e : Engine) : Prop where
  credentials : e.Steady
  actions : ∀ service responder, service ≠ .completion → e.services.get? service = some responder →
    ∀ c k l, ((responder k c).result e.timeout).attempt = ((responder l c).result e.timeout).attempt
  completions : ∀ responder, e.services.completion = some responder →
    ∀ c k l, (responder k c).result e.timeout = (responder l c).result e.timeout

/-- Collaborators that always succeed have no memory that matters, if completions do not change. -/
theorem Engine.memoryless_of_succeeds {e : Engine} (hs : e.Steady)
    (hactions : ∀ service responder, service ≠ .completion →
      e.services.get? service = some responder →
      ∀ c k, ∃ text, (responder k c).result e.timeout = .answered (.ok text))
    (hcompletions : ∀ responder, e.services.completion = some responder →
      ∀ c k l, (responder k c).result e.timeout = (responder l c).result e.timeout) :
    e.Memoryless := by
  refine ⟨hs, ?_, hcompletions⟩
  intro service responder hne hr c k l
  obtain ⟨text, hk⟩ := hactions service responder hne hr c k
  obtain ⟨text', hl⟩ := hactions service responder hne hr c l
  rw [hk, hl]
  rfl

namespace Engine.Memoryless

variable {e : Engine} (he : e.Memoryless)

include he

/-- An attempt to carry out an action comes to the same in all worlds. -/
theorem attempt_eq (a : Action) (p : Payload) (w w' : World) :
    (a.attempt e p w).1 = (a.attempt e p w').1 := by
  have hsecret := a.secret_eq he.credentials w w'
  cases hr : e.services.get? a.service with
  | none =>
    unfold Action.attempt
    rw [hr]
  | some responder =>
    rcases hs : a.secret e w with ⟨secret, w₁⟩
    rcases hs' : a.secret e w' with ⟨secret', w₁'⟩
    rw [hs, hs'] at hsecret
    obtain rfl : secret = secret' := hsecret
    cases secret with
    | error err =>
      unfold Action.attempt
      rw [hr, hs, hs']
    | ok secret =>
      rw [Action.attempt_of_secret hr hs, Action.attempt_of_secret hr hs', World.perform_result,
        World.perform_result]
      exact he.actions a.service responder a.service_ne hr _ _ _

theorem call?_eq (a : Action) (p : Payload) (w w' : World) :
    a.call? e p w = a.call? e p w' := by
  unfold Action.call?
  rw [a.secret_eq he.credentials w w']

/-- A recipe comes to the same in all worlds, and is asked for in the same way. -/
theorem complete_eq (c : GenerateRecipeConfig) (question : String) (w w' : World) :
    (Recipe.complete e c question w).1 = (Recipe.complete e c question w').1 ∧
      ∃ new, (Recipe.complete e c question w).2.calls = w.calls ++ new ∧
        (Recipe.complete e c question w').2.calls = w'.calls ++ new := by
  have hkey := Recipe.apiKey_eq he.credentials c w w'
  have hcalls := Recipe.apiKey_calls e c w
  have hcalls' := Recipe.apiKey_calls e c w'
  unfold Recipe.complete
  cases hr : e.services.completion with
  | none => exact ⟨rfl, [], (List.append_nil _).symm, (List.append_nil _).symm⟩
  | some responder =>
    dsimp only
    rcases hk : Recipe.apiKey e c w with ⟨key, w₁⟩
    rcases hk' : Recipe.apiKey e c w' with ⟨key', w₁'⟩
    rw [hk] at hcalls
    rw [hk'] at hcalls'
    rw [hk, hk'] at hkey
    obtain rfl : key = key' := hkey
    cases key with
    | error err =>
      exact ⟨rfl, [], hcalls.trans (List.append_nil _).symm, hcalls'.trans (List.append_nil _).symm⟩
    | ok key =>
      -- the same question is asked with the same key, if not for the same time
      have hresult : (w₁.perform e.timeout responder (.completion question key)).1 =
          (w₁'.perform e.timeout responder (.completion question key)).1 := by
        rw [World.perform_result, World.perform_result]
        exact he.completions responder hr _ _ _
      have hnew := w₁.perform_calls e.timeout responder (.completion question key)
      have hnew' := w₁'.perform_calls e.timeout responder (.completion question key)
      rw [hcalls] at hnew
      rw [hcalls'] at hnew'
      dsimp only
      rcases hp : w₁.perform e.timeout responder (.completion question key) with ⟨result, w₂⟩
      rcases hp' : w₁'.perform e.timeout responder (.completion question key) with ⟨result', w₂'⟩
      rw [hp] at hnew
      rw [hp'] at hnew'
      rw [hp, hp'] at hresult
      obtain rfl : result = result' := hresult
      cases result with
      | answered | broke => exact ⟨rfl, [.completion question key], hnew, hnew'⟩

end Engine.Memoryless

/-! ## Worlds that a run cannot tell apart -/

/-- Two worlds whose ledgers agree on some keys, and in which the same calls have been made since
there were these. -/
structure World.AlikeSince (K : ActionKey → Prop) (calls₁ calls₂ : List Call) (w₁ w₂ : World) :
    Prop where
  ledger : ∀ k, K k → w₁.ledger.get? k = w₂.ledger.get? k
  calls : ∃ new, w₁.calls = calls₁ ++ new ∧ w₂.calls = calls₂ ++ new

namespace World.AlikeSince

variable {K : ActionKey → Prop} {calls₁ calls₂ : List Call} {w₁ w₂ w₁' w₂' : World}
  {key : ActionKey} {now : Instant}

theorem start (h : ∀ k, K k → w₁.ledger.get? k = w₂.ledger.get? k) :
    AlikeSince K w₁.calls w₂.calls w₁ w₂ :=
  ⟨h, [], (List.append_nil _).symm, (List.append_nil _).symm⟩

theorem grow (h : AlikeSince K calls₁ calls₂ w₁ w₂) {new : List Call}
    (hl₁ : w₁'.ledger = w₁.ledger) (hl₂ : w₂'.ledger = w₂.ledger)
    (hc₁ : w₁'.calls = w₁.calls ++ new) (hc₂ : w₂'.calls = w₂.calls ++ new) :
    AlikeSince K calls₁ calls₂ w₁' w₂' := by
  obtain ⟨hledger, old, h₁, h₂⟩ := h
  refine ⟨?_, old ++ new, ?_, ?_⟩
  · rwa [hl₁, hl₂]
  · rw [hc₁, h₁, List.append_assoc]
  · rw [hc₂, h₂, List.append_assoc]

theorem put (h : AlikeSince K calls₁ calls₂ w₁ w₂) (key : ActionKey) (now : Instant) :
    AlikeSince K calls₁ calls₂ { w₁ with ledger := w₁.ledger.put key now }
      { w₂ with ledger := w₂.ledger.put key now } := by
  refine ⟨fun k hk => ?_, h.calls⟩
  by_cases heq : k = key
  · simp [heq]
  · simpa [Ledger.get?_put_of_ne _ now heq] using h.ledger k hk

theorem release (h : AlikeSince K calls₁ calls₂ w₁ w₂) (key : ActionKey) :
    AlikeSince K calls₁ calls₂ { w₁ with ledger := w₁.ledger.release key }
      { w₂ with ledger := w₂.ledger.release key } := by
  refine ⟨fun k hk => ?_, h.calls⟩
  by_cases heq : k = key
  · simp [heq]
  · simpa [Ledger.get?_release_of_ne _ heq] using h.ledger k hk

end World.AlikeSince

/-! ## Steps in two worlds -/

namespace Runner

open World

variable {g : FlowGraph} {e : Engine} {x : RunContext} {gd : Guard} {K : ActionKey → Prop}
  {calls₁ calls₂ : List Call} {w₁ w₂ : World}

/-- A node that is no action comes to the same effect. -/
theorem step_alike (he : e.Memoryless) {task : NodeTask} (hact : ∀ a, task ≠ .act a) (id : String)
    (p : Payload) (hw : AlikeSince K calls₁ calls₂ w₁ w₂) :
    (task.step e x id p w₁).1 = (task.step e x id p w₂).1 ∧
      AlikeSince K calls₁ calls₂ (task.step e x id p w₁).2 (task.step e x id p w₂).2 := by
  cases task with
  | expiry | status | choose | write => exact ⟨rfl, hw⟩
  | act a => exact (hact a rfl).elim
  | suggest c =>
    unfold NodeTask.step NodeTask.suggestRecipe
    cases x.mode with
    | test => exact ⟨rfl, hw⟩
    | live =>
      obtain ⟨hresult, new, hnew₁, hnew₂⟩ := he.complete_eq c (Recipe.prompt c p) w₁ w₂
      have hw' := hw.grow (Recipe.complete_ledger e c _ w₁) (Recipe.complete_ledger e c _ w₂)
        hnew₁ hnew₂
      dsimp only
      rcases hr₁ : Recipe.complete e c (Recipe.prompt c p) w₁ with ⟨result, w₁'⟩
      rcases hr₂ : Recipe.complete e c (Recipe.prompt c p) w₂ with ⟨result', w₂'⟩
      rw [hr₁, hr₂] at hresult hw'
      obtain rfl : result = result' := hresult
      cases result with
      | answered r => cases r <;> exact ⟨rfl, hw'⟩
      | broke message => exact ⟨rfl, hw'⟩

theorem enter_alike (he : e.Memoryless) (hm : x.mode = .live) (hg : x.guard = some gd) (r : Runner)
    (n : GraphNode) (hn : n.capability = .action → K (NodeTask.actionKey x r.payload n.id))
    (hw : AlikeSince K calls₁ calls₂ w₁ w₂) :
    (enter g e x r n w₁).1 = (enter g e x r n w₂).1 ∧
      AlikeSince K calls₁ calls₂ (enter g e x r n w₁).2 (enter g e x r n w₂).2 := by
  unfold enter
  split
  · next a ha _ =>
    set key := NodeTask.actionKey x r.payload n.id
    have hkey := hw.ledger key (hn (GraphNode.capability_eq_action_iff.2 ⟨a, ha⟩))
    have hholds : w₁.ledger.holds gd.now gd.window key = w₂.ledger.holds gd.now gd.window key :=
      Ledger.holds_congr hkey
    -- the slot is to be had in both worlds or in neither
    cases hh : w₁.ledger.holds gd.now gd.window key with
    | true =>
      rw [NodeTask.reserve_of_holds hg hh, NodeTask.reserve_of_holds hg (hholds.symm.trans hh)]
      exact ⟨rfl, hw⟩
    | false =>
      rw [NodeTask.reserve_of_not_holds hg hh,
        NodeTask.reserve_of_not_holds hg (hholds.symm.trans hh)]
      exact ⟨rfl, hw.put _ _⟩
  · next hact =>
    obtain ⟨heffect, hw'⟩ := step_alike he (x := x) (fun a ha => hact a ha hm) n.id r.payload hw
    exact ⟨congrArg (r.tell g n) heffect, hw'⟩

theorem call_alike (he : e.Memoryless) (r : Runner) (n : GraphNode) (a : Action)
    (hw : AlikeSince K calls₁ calls₂ w₁ w₂) :
    (call g e r n a w₁).1 = (call g e r n a w₂).1 ∧
      AlikeSince K calls₁ calls₂ (call g e r n a w₁).2 (call g e r n a w₂).2 := by
  have hresult := he.attempt_eq a r.payload w₁ w₂
  have hnew := a.attempt_calls e r.payload w₂
  rw [← he.call?_eq a r.payload w₁ w₂] at hnew
  have hw' := hw.grow (a.attempt_ledger e r.payload w₁) (a.attempt_ledger e r.payload w₂)
    (a.attempt_calls e r.payload w₁) hnew
  unfold call
  dsimp only
  rcases h₁ : a.attempt e r.payload w₁ with ⟨result, w₁'⟩
  rcases h₂ : a.attempt e r.payload w₂ with ⟨result', w₂'⟩
  rw [h₁, h₂] at hresult hw'
  obtain rfl : result = result' := hresult
  cases result with
  | sent | unavailable | failed | broke => exact ⟨rfl, hw'⟩

/-- The next step of a run that keeps to some keys is the same in two worlds that are alike. -/
theorem advance_alike (he : e.Memoryless) (hm : x.mode = .live) (hg : x.guard = some gd)
    (r : Runner) (hstack : ∀ n ∈ r.stack, n.capability = .action →
      K (NodeTask.actionKey x r.payload n.id)) (hw : AlikeSince K calls₁ calls₂ w₁ w₂) :
    (r.advance g e x w₁).1 = (r.advance g e x w₂).1 ∧
      AlikeSince K calls₁ calls₂ (r.advance g e x w₁).2 (r.advance g e x w₂).2 := by
  obtain ⟨roots, stack, visited, p, t, stage⟩ := r
  cases stage with
  | walking =>
    unfold advance walk
    dsimp only
    cases stack with
    | nil => cases roots <;> exact ⟨rfl, hw⟩
    | cons n stack =>
      dsimp only
      split
      · exact ⟨rfl, hw⟩
      · exact enter_alike he hm hg _ n (hstack n List.mem_cons_self) hw
  | calling n a => exact call_alike he _ n a hw
  | returning n effect ho =>
    refine ⟨rfl, ?_⟩
    simp only [advance, NodeTask.release, hg]
    exact hw.release _
  | ended => exact ⟨rfl, hw⟩

end Runner
end KitchenFlow
