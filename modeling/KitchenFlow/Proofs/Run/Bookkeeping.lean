import KitchenFlow.Proofs.Ledger
import KitchenFlow.Proofs.Run.Walks

/-!
# How runs keep the ledger

Only the actions of a live, guarded run touch the ledger, and each of them only at its own key.
`Books` lists what a step can do there, with the effect that goes with it; every fact about runs and
the ledger is read off it.
-/

namespace KitchenFlow

/-! ## What a step does to the ledger -/

theorem Action.attempt_ledger (e : Engine) (p : Payload) (a : Action) (w : World) :
    (a.attempt e p w).2.ledger = w.ledger := by
  unfold Action.attempt
  split
  · rfl
  · next responder _ =>
    have hsecret := a.secret_ledger e w
    split
    · next h => rwa [h] at hsecret
    · next secret w₁ h =>
      rw [h] at hsecret
      have hcall := w₁.perform_ledger e.timeout responder (a.call p secret)
      split <;> next h => rw [h] at hcall; exact hcall.trans hsecret

theorem Recipe.apiKey_ledger (e : Engine) (c : GenerateRecipeConfig) (w : World) :
    (Recipe.apiKey e c w).2.ledger = w.ledger := by
  unfold Recipe.apiKey
  split
  · exact e.resolveSecret_ledger _ w
  · split <;> rfl

theorem Recipe.complete_ledger (e : Engine) (c : GenerateRecipeConfig) (question : String)
    (w : World) : (Recipe.complete e c question w).2.ledger = w.ledger := by
  unfold Recipe.complete
  split
  · rfl
  · next responder _ =>
    have hkey := Recipe.apiKey_ledger e c w
    split
    · next h => rwa [h] at hkey
    · next key w₁ h =>
      rw [h] at hkey
      have hcall := w₁.perform_ledger e.timeout responder (.completion question key)
      split <;> next h => rw [h] at hcall; exact hcall.trans hkey

/-- What a step can do to the ledger at the key of its node, and the effect that goes with it. -/
inductive Books (x : RunContext) (key : ActionKey) (l : Ledger) : NodeEffect → Ledger → Prop where
  /-- No action came out, and no slot was taken. -/
  | idle {effect} : effect.outcome? = none → Books x key l effect l
  /-- The action was not to be done for real. -/
  | rehearsed {d i r} : x.mode = .test → Books x key l (.acted d i (.demo r)) l
  /-- Nothing guards the run. -/
  | unguarded {d i o} : x.guard = none → o ≠ .duplicate → Books x key l (.acted d i o) l
  /-- An earlier reservation is in force. -/
  | refused {d i gd} : x.guard = some gd → l.holds gd.now gd.window key = true →
      Books x key l (.acted d i .duplicate) l
  /-- The action was carried out, and its reservation stays. -/
  | kept {d i gd} : x.guard = some gd → l.holds gd.now gd.window key = false →
      Books x key l (.acted d i .dispatched) (l.put key gd.now)
  /-- The action was not carried out, and its reservation is given back. -/
  | returned {d i o gd} : x.guard = some gd → l.holds gd.now gd.window key = false →
      o ≠ .dispatched → o ≠ .duplicate →
      Books x key l (.acted d i o) ((l.put key gd.now).release key)
  /-- The collaborator broke down, and the reservation stays. -/
  | stuck {m gd} : x.guard = some gd → l.holds gd.now gd.window key = false →
      Books x key l (.aborted m) (l.put key gd.now)

/-- What is done as an action is configured as one. -/
theorem NodeConfig.capability_of_task {c : NodeConfig} {a : Action} (h : c.task = .act a) :
    c.kind.capability = .action := by
  cases c <;> first | rfl | cases h

theorem GraphNode.capability_eq_action_iff {n : GraphNode} :
    n.capability = .action ↔ ∃ a, n.config.task = .act a := by
  constructor
  · intro h
    obtain ⟨id, config⟩ := n
    cases config with
    | sendNotification c => exact ⟨_, rfl⟩
    | webhookDelivery c => exact ⟨_, rfl⟩
    | partnerIntegration c => exact ⟨_, rfl⟩
    | expirationTrigger | inventoryStatusTrigger | conditionalBranch | updateData
      | generateRecipe => cases h
  · rintro ⟨a, ha⟩
    exact NodeConfig.capability_of_task ha

namespace NodeTask

variable {e : Engine} {x : RunContext} {id : String} {p : Payload} {w w' : World}
  {effect : NodeEffect}

theorem reserve_of_holds {key : ActionKey} {gd : Guard} (hg : x.guard = some gd)
    (h : w.ledger.holds gd.now gd.window key = true) : reserve x key w = (false, w) := by
  simp [reserve, hg, Ledger.reserve, h]

theorem reserve_of_not_holds {key : ActionKey} {gd : Guard} (hg : x.guard = some gd)
    (h : w.ledger.holds gd.now gd.window key = false) :
    reserve x key w = (true, { w with ledger := w.ledger.put key gd.now }) := by
  simp [reserve, hg, Ledger.reserve, h]

theorem release_of_guard {key : ActionKey} {gd : Guard} (hg : x.guard = some gd) :
    (release x key w).ledger = w.ledger.release key := by
  simp [release, hg]

/-- Carrying out an action once its slot was granted. -/
theorem carryOut_granted {a : Action} {w₁ : World}
    (h : reserve x (actionKey x p id) w = (true, w₁)) :
    (∃ w₂, w₂.ledger = w₁.ledger ∧
      carryOut e x id p a w = (.acted (a.describe p) p.item.id .dispatched, w₂)) ∨
    (∃ o w₂, o ≠ .dispatched ∧ o ≠ .duplicate ∧ w₂.ledger = w₁.ledger ∧
      carryOut e x id p a w =
        (.acted (a.describe p) p.item.id o, release x (actionKey x p id) w₂)) ∨
    ∃ m w₂, w₂.ledger = w₁.ledger ∧ carryOut e x id p a w = (.aborted m, w₂) := by
  have hledger := a.attempt_ledger e p w₁
  rcases hr : a.attempt e p w₁ with ⟨outcome, w₂⟩
  rw [hr] at hledger
  cases outcome with
  | sent => exact .inl ⟨w₂, hledger, by simp only [carryOut, h, hr]⟩
  | unavailable reason =>
    exact .inr (.inl ⟨.demo reason, w₂, by simp, by simp, hledger, by simp only [carryOut, h, hr]⟩)
  | failed err =>
    exact .inr (.inl ⟨.failed err, w₂, by simp, by simp, hledger, by simp only [carryOut, h, hr]⟩)
  | broke message => exact .inr (.inr ⟨message, w₂, hledger, by simp only [carryOut, h, hr]⟩)

theorem carryOut_books (e : Engine) (x : RunContext) (id : String) (p : Payload) (a : Action)
    (w : World) :
    Books x (actionKey x p id) w.ledger (carryOut e x id p a w).1
      (carryOut e x id p a w).2.ledger := by
  cases hg : x.guard with
  | none =>
    have hreserve : reserve x (actionKey x p id) w = (true, w) := by simp [reserve, hg]
    have hrelease : ∀ w, release x (actionKey x p id) w = w := fun w => by simp [release, hg]
    rcases carryOut_granted (e := e) (a := a) hreserve with
      ⟨w₂, hw, h⟩ | ⟨o, w₂, -, ho, hw, h⟩ | ⟨m, w₂, hw, h⟩
    · rw [h, hw]
      exact .unguarded hg (by simp)
    · rw [h, hrelease, hw]
      exact .unguarded hg ho
    · rw [h, hw]
      exact .idle rfl
  | some gd =>
    cases hh : w.ledger.holds gd.now gd.window (actionKey x p id) with
    | true =>
      have h : carryOut e x id p a w = (.acted (a.describe p) p.item.id .duplicate, w) := by
        simp only [carryOut, reserve_of_holds hg hh]
      rw [h]
      exact .refused hg hh
    | false =>
      rcases carryOut_granted (e := e) (a := a) (reserve_of_not_holds hg hh) with
        ⟨w₂, hw, h⟩ | ⟨o, w₂, hd, ho, hw, h⟩ | ⟨m, w₂, hw, h⟩
      · rw [h, hw]
        exact .kept hg hh
      · rw [h, release_of_guard hg, hw]
        exact .returned hg hh hd ho
      · rw [h, hw]
        exact .stuck hg hh

/-- Suggesting a recipe is no action and leaves the ledger alone. -/
theorem suggestRecipe_idle (c : GenerateRecipeConfig) :
    (suggestRecipe e x p c w).1.outcome? = none ∧
      (suggestRecipe e x p c w).2.ledger = w.ledger := by
  unfold suggestRecipe
  cases x.mode with
  | test => exact ⟨rfl, rfl⟩
  | live =>
    have hledger := Recipe.complete_ledger e c (Recipe.prompt c p) w
    dsimp only
    generalize Recipe.complete e c (Recipe.prompt c p) w = r at hledger
    obtain ⟨result, w₁⟩ := r
    cases result with
    | answered r => cases r <;> exact ⟨rfl, hledger⟩
    | broke message => exact ⟨rfl, hledger⟩

/-- A node that is no action leaves the ledger alone. -/
theorem step_idle {task : NodeTask} (h : task.step e x id p w = (effect, w'))
    (hact : ∀ a, task ≠ .act a) : effect.outcome? = none ∧ w'.ledger = w.ledger := by
  cases task with
  | expiry | status | choose | write =>
    cases h
    exact ⟨rfl, rfl⟩
  | suggest c =>
    have hidle := suggestRecipe_idle (e := e) (x := x) (p := p) (w := w) c
    rwa [show suggestRecipe e x p c w = (effect, w') from h] at hidle
  | act a => exact (hact a rfl).elim

/-- What a step does to the ledger. -/
theorem step_books {task : NodeTask} (h : task.step e x id p w = (effect, w')) :
    Books x (actionKey x p id) w.ledger effect w'.ledger := by
  by_cases hact : ∃ a, task = .act a
  · obtain ⟨a, rfl⟩ := hact
    unfold step at h
    cases hm : x.mode with
    | test =>
      rw [hm] at h
      cases h
      exact .rehearsed hm
    | live =>
      have hb := carryOut_books e x id p a w
      rw [hm] at h
      rwa [show carryOut e x id p a w = (effect, w') from h] at hb
  · obtain ⟨hnone, hledger⟩ := step_idle h (not_exists.1 hact)
    rw [hledger]
    exact .idle hnone

@[simp] theorem actionKey_inj {id' : String} : actionKey x p id = actionKey x p id' ↔ id = id' := by
  simp [actionKey]

@[simp] theorem actionKey_apply (x : RunContext) (p : Payload) (effect : NodeEffect)
    (id : String) : actionKey x (effect.apply p) id = actionKey x p id := by
  simp [actionKey]

end NodeTask

namespace Books

variable {x : RunContext} {key other : ActionKey} {l l' : Ledger} {effect : NodeEffect} {gd : Guard}

/-- A step leaves the reservations of other nodes alone. -/
theorem get?_of_ne (h : Books x key l effect l') (hne : other ≠ key) :
    l'.get? other = l.get? other := by
  cases h with
  | idle | rehearsed | unguarded | refused => rfl
  | kept | stuck => exact l.get?_put_of_ne _ hne
  | returned => rw [Ledger.get?_release_of_ne _ hne, Ledger.get?_put_of_ne _ _ hne]

/-- An action is skipped only for an earlier reservation in force. -/
theorem holds_of_duplicate (h : Books x key l effect l') (ho : effect.outcome? = some .duplicate) :
    ∃ gd, x.guard = some gd ∧ l.holds gd.now gd.window key = true := by
  cases h with
  | idle hnone => simp [hnone] at ho
  | refused hg hh => exact ⟨_, hg, hh⟩
  | unguarded _ hne | returned _ _ _ hne =>
    exact (hne (by simpa [NodeEffect.outcome?] using ho)).elim
  | rehearsed | kept | stuck => simp [NodeEffect.outcome?] at ho

/-- What a step of a live run that goes on does to the reservations in force: an action carried out
adds its own, and nothing else changes. -/
theorem inForce (h : Books x key l effect l') (hm : x.mode = .live) (hg : x.guard = some gd)
    (hw : 0 < gd.window) (hgo : effect.isAbort = false) :
    (∀ k, l'.holds gd.now gd.window k = true ↔ l.holds gd.now gd.window k = true ∨
      (k = key ∧ effect.outcome? = some .dispatched)) ∧
    l'.inForceCount gd.now gd.window = l.inForceCount gd.now gd.window +
      if effect.outcome? = some .dispatched then 1 else 0 := by
  cases h with
  | idle hnone => simp [hnone]
  | rehearsed hm' => simp [hm] at hm'
  | unguarded hg' => simp [hg] at hg'
  | refused => simp [NodeEffect.outcome?]
  | @kept d i gd' hg' hh =>
    obtain rfl : gd' = gd := Option.some.inj (hg'.symm.trans hg)
    refine ⟨fun k => ?_, ?_⟩
    · by_cases hk : k = key
      · subst hk
        simp [Ledger.holds_put_self hw, NodeEffect.outcome?]
      · rw [Ledger.holds_congr (l.get?_put_of_ne _ hk)]
        simp [hk]
    · rw [Ledger.inForceCount_put hw hh]
      rfl
  | @returned d i o gd' hg' hh hd =>
    obtain rfl : gd' = gd := Option.some.inj (hg'.symm.trans hg)
    have ho : ¬ (NodeEffect.acted d i o).outcome? = some .dispatched := by
      simpa [NodeEffect.outcome?] using hd
    refine ⟨fun k => ?_, ?_⟩
    -- nothing was in force at the key before, so nothing in force goes with the reservation
    · rw [Ledger.release_put]
      by_cases hk : k = key
      · subst hk
        simp [Ledger.holds_release_self, hh, ho]
      · rw [Ledger.holds_congr (l.get?_release_of_ne hk)]
        simp [hk]
    · rw [Ledger.release_put, Ledger.inForceCount_release hh, if_neg ho]
      rfl
  | stuck => cases hgo

end Books

/-! ## What a story does to the ledger -/

namespace Unfolds

open NodeTask

variable {e : Engine} {x : RunContext} {p : Payload} {w w' : World} {s : Story}

/-- A story leaves alone the reservations of all but the actions in it. -/
theorem get?_eq (h : Unfolds e x p w s w') {key : ActionKey}
    (hkey : ∀ n effect, Moment.visit n effect ∈ s → n.capability = .action →
      key ≠ actionKey x p n.id) : w'.ledger.get? key = w.ledger.get? key := by
  induction h with
  | nil => rfl
  | refusal _ ih => exact ih fun n effect hn => hkey n effect (List.mem_cons_of_mem _ hn)
  | @visit p w n effect w₁ s w' hstep _ ih =>
    -- the payload may have been changed by the effect, but the keys are the same
    have hrest : w'.ledger.get? key = w₁.ledger.get? key := by
      refine ih fun m effect' hm hc => ?_
      rw [actionKey_apply]
      exact hkey m effect' (List.mem_cons_of_mem _ hm) hc
    rw [hrest]
    by_cases hc : n.capability = .action
    · exact (step_books hstep).get?_of_ne (hkey n effect List.mem_cons_self hc)
    · rw [(step_idle hstep fun a ha => hc (NodeConfig.capability_of_task ha)).2]

/-- If no node is entered twice, an action is skipped only for a reservation that was in force
before the story. -/
theorem holds_of_duplicate (h : Unfolds e x p w s w') (hnd : s.trace.Nodup) {id : String}
    (hid : (id, .duplicate) ∈ s.outcomes) :
    ∃ gd, x.guard = some gd ∧ w.ledger.holds gd.now gd.window (actionKey x p id) = true := by
  induction h with
  | nil => simp at hid
  | refusal _ ih => exact ih hnd hid
  | @visit p w n effect w₁ s w' hstep _ ih =>
    obtain ⟨hn, hnd⟩ := List.nodup_cons.1 hnd
    rw [Story.outcomes_visit] at hid
    rcases List.mem_append.1 hid with hid | hid
    · obtain ⟨o, ho, heq⟩ : ∃ o, effect.outcome? = some o ∧ (n.id, o) = (id, .duplicate) := by
        simpa using hid
      cases heq
      exact (step_books hstep).holds_of_duplicate ho
    · -- the node is entered later, so this step has left its reservation alone
      obtain ⟨gd, hg, hh⟩ := ih hnd hid
      have hne : id ≠ n.id := fun heq => hn (heq ▸ Story.mem_trace_of_mem_outcomes hid)
      refine ⟨gd, hg, ?_⟩
      rw [actionKey_apply] at hh
      rwa [Ledger.holds_congr ((step_books hstep).get?_of_ne (mt actionKey_inj.1 hne))] at hh

/-- The reservations in force after a story are those before and those of the actions that were
carried out in it. -/
theorem inForce {gd : Guard} (h : Unfolds e x p w s w') (hm : x.mode = .live)
    (hg : x.guard = some gd) (hw : 0 < gd.window)
    (hgo : ∀ n effect, Moment.visit n effect ∈ s → effect.isAbort = false) :
    (∀ k, w'.ledger.holds gd.now gd.window k = true ↔ w.ledger.holds gd.now gd.window k = true ∨
      ∃ id, k = actionKey x p id ∧ (id, .dispatched) ∈ s.outcomes) ∧
    w'.ledger.inForceCount gd.now gd.window =
      w.ledger.inForceCount gd.now gd.window + s.outcomeCount .dispatched := by
  induction h with
  | nil => simp [Story.outcomeCount]
  | refusal _ ih => exact ih fun n effect hn => hgo n effect (List.mem_cons_of_mem _ hn)
  | @visit p w n effect w₁ s w' hstep _ ih =>
    obtain ⟨hholds, hcount⟩ := ih fun m effect' hm => hgo m effect' (List.mem_cons_of_mem _ hm)
    obtain ⟨hholds₁, hcount₁⟩ :=
      (step_books hstep).inForce hm hg hw (hgo n effect List.mem_cons_self)
    constructor
    · intro k
      rw [hholds, hholds₁, Story.outcomes_visit]
      simp only [actionKey_apply, List.mem_append, Option.mem_toList, Option.map_eq_some_iff]
      grind
    · rw [hcount, hcount₁, Story.outcomeCount, Story.outcomeCount, Story.outcomes_visit]
      cases ho : effect.outcome? with
      | none => simp
      | some o =>
        simp only [Option.map_some, Option.toList_some, List.countP_append, List.countP_singleton,
          Option.some.injEq, decide_eq_true_eq, Nat.add_assoc]

end Unfolds
end KitchenFlow
