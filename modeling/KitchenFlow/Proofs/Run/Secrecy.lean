import KitchenFlow.Proofs.Run.Lockstep
import KitchenFlow.Proofs.Run.Once
import KitchenFlow.Proofs.Vault

/-!
# Secrets stay secret

A secret is said to the collaborator that it is for and to nobody else. So take two engines that
differ in nothing but secrets: in what the envelopes of their credentials hold, and in the key for
completions. If their collaborators do not care which key they are given, nothing tells the two
engines apart but the keys in the calls that they make:

    FlowGraph.run_keeps_secrets   two runs agree in all that they report and leave behind

A secret that cannot be had is another matter: that it cannot be had, and why, shows in the run. So
the engines have to agree in which secrets they can get at.
-/

namespace KitchenFlow

/-! ## What differs only in secrets -/

/-- A call without the key that is said in it. -/
def Call.withoutKey : Call → Call
  | .completion prompt _ => .completion prompt ""
  | .partner name action body _ => .partner name action body ""
  | .email recipient subject body => .email recipient subject body
  | .sms recipient body => .sms recipient body
  | .webhook url method body => .webhook url method body

/-- The key that is said in a call. -/
def Call.key? : Call → Option String
  | .completion _ key | .partner _ _ _ key => some key
  | .email .. | .sms .. | .webhook .. => none

@[simp] theorem Call.service_withoutKey (c : Call) : c.withoutKey.service = c.service := by
  cases c <;> rfl

/-- Collaborators behave the same whatever key they are given. -/
def Services.IgnoreKeys (s : Services) : Prop :=
  ∀ service responder, s.get? service = some responder →
    ∀ k c₁ c₂, Call.withoutKey c₁ = Call.withoutKey c₂ → responder k c₁ = responder k c₂

/-- What looking up a credential comes to with either of two vaults: the same, except that a vault
may find another secret in an envelope if both can open theirs. -/
inductive LookupOutcome.SameButSecret (v₁ v₂ : Vault) : LookupOutcome → LookupOutcome → Prop where
  | opened {c₁ c₂ secret₁ secret₂} : v₁.decrypt c₁.secret = .ok secret₁ →
      v₂.decrypt c₂.secret = .ok secret₂ →
      SameButSecret v₁ v₂ (.found (some c₁)) (.found (some c₂))
  | closed {c₁ c₂ err₁ err₂} : v₁.decrypt c₁.secret = .error err₁ →
      v₂.decrypt c₂.secret = .error err₂ →
      SameButSecret v₁ v₂ (.found (some c₁)) (.found (some c₂))
  | missing : SameButSecret v₁ v₂ (.found none) (.found none)
  | failing {err} : SameButSecret v₁ v₂ (.fails err) (.fails err)
  | silent : SameButSecret v₁ v₂ .silence .silence

/-- Two engines that differ only in secrets. -/
structure Engine.SameButSecrets (e₁ e₂ : Engine) : Prop where
  registry : e₁.registry = e₂.registry
  services : e₁.services = e₂.services
  timeout : e₁.timeout = e₂.timeout
  /-- Both have a vault, or neither. -/
  vault : e₁.vault.isSome = e₂.vault.isSome
  /-- Both have a store of credentials, or neither. -/
  credentials : e₁.credentials.isSome = e₂.credentials.isSome
  /-- Whenever a credential is looked up, it is found and opened by both, or fails both alike. -/
  lookups : ∀ source₁ ∈ e₁.credentials, ∀ source₂ ∈ e₂.credentials, ∀ v₁ ∈ e₁.vault,
    ∀ v₂ ∈ e₂.vault, ∀ id k,
      LookupOutcome.SameButSecret v₁ v₂ ((source₁ id).outcome k) ((source₂ id).outcome k)
  /-- Both have a key for completions, or neither. -/
  defaultAiKey : e₁.defaultAiKey.isSome = e₂.defaultAiKey.isSome

/-- Two worlds that differ at most in the keys that collaborators were given. -/
structure World.SameButKeys (w₁ w₂ : World) : Prop where
  ledger : w₁.ledger = w₂.ledger
  calls : w₁.calls.map Call.withoutKey = w₂.calls.map Call.withoutKey
  lookups : w₁.lookups = w₂.lookups
  clock : w₁.clock = w₂.clock

/-- What comes of looking for a secret: one secret or another, or the same failure. -/
inductive SameButSecret : Except AdapterError String → Except AdapterError String → Prop where
  | ok (secret₁ secret₂ : String) : SameButSecret (.ok secret₁) (.ok secret₂)
  | error (err : AdapterError) : SameButSecret (.error err) (.error err)

/-! ## Worlds -/

namespace World.SameButKeys

variable {w₁ w₂ : World}

theorem refl (w : World) : w.SameButKeys w := ⟨rfl, rfl, rfl, rfl⟩

theorem callCount (h : w₁.SameButKeys w₂) (s : Service) : w₁.callCount s = w₂.callCount s := by
  have hcount (w : World) : w.callCount s =
      ((w.calls.map Call.withoutKey).filter fun c => c.service == s).length := by
    simp only [World.callCount, List.filter_map, List.length_map, Function.comp_def,
      Call.service_withoutKey]
  rw [hcount, hcount, h.calls]

theorem wait (h : w₁.SameButKeys w₂) (ms : Nat) : (w₁.wait ms).SameButKeys (w₂.wait ms) :=
  ⟨h.ledger, h.calls, h.lookups, congrArg (· + ms) h.clock⟩

theorem noteLookup (h : w₁.SameButKeys w₂) (id : String) :
    (w₁.noteLookup id).SameButKeys (w₂.noteLookup id) :=
  ⟨h.ledger, h.calls, congrArg (· ++ [id]) h.lookups, h.clock⟩

theorem setLedger (h : w₁.SameButKeys w₂) (l : Ledger) :
    SameButKeys { w₁ with ledger := l } { w₂ with ledger := l } :=
  ⟨rfl, h.calls, h.lookups, h.clock⟩

/-- Calls that differ only in their keys come to the same. -/
theorem perform (h : w₁.SameButKeys w₂) (limit : Nat) {responder : Responder} {c₁ c₂ : Call}
    (hcall : c₁.withoutKey = c₂.withoutKey)
    (hr : ∀ k, responder k c₁ = responder k c₂) :
    (w₁.perform limit responder c₁).1 = (w₂.perform limit responder c₂).1 ∧
      (w₁.perform limit responder c₁).2.SameButKeys (w₂.perform limit responder c₂).2 := by
  have hservice : c₁.service = c₂.service := by
    rw [← c₁.service_withoutKey, hcall, c₂.service_withoutKey]
  have hrecord : (w₁.record c₁).SameButKeys (w₂.record c₂) := by
    refine ⟨h.ledger, ?_, h.lookups, h.clock⟩
    simp only [World.record, List.map_append, List.map_cons, List.map_nil, h.calls, hcall]
  unfold World.perform
  rw [hservice, h.callCount, hr]
  dsimp only
  split
  · exact ⟨rfl, hrecord.wait limit⟩
  · split <;> exact ⟨rfl, hrecord.wait _⟩

end World.SameButKeys

/-! ## Steps -/

/-- Either both are there or none is. -/
theorem none_or_some_of_isSome_eq {α : Type} {a b : Option α} (h : a.isSome = b.isSome) :
    (a = none ∧ b = none) ∨ ∃ x y, a = some x ∧ b = some y := by
  cases a <;> cases b <;> simp_all

variable {e₁ e₂ : Engine} {x : RunContext} {p : Payload} {w₁ w₂ : World}

/-- Engines that differ only in secrets get at a secret both or neither. -/
theorem Engine.SameButSecrets.resolveSecret (h : e₁.SameButSecrets e₂) (id : String)
    (hw : w₁.SameButKeys w₂) :
    SameButSecret (e₁.resolveSecret id w₁).1 (e₂.resolveSecret id w₂).1 ∧
      (e₁.resolveSecret id w₁).2.SameButKeys (e₂.resolveSecret id w₂).2 := by
  obtain ⟨_, _, htimeout, hvault, hcredentials, hlookups, _⟩ := h
  unfold Engine.resolveSecret
  rcases none_or_some_of_isSome_eq hcredentials with ⟨hs₁, hs₂⟩ | ⟨source₁, source₂, hs₁, hs₂⟩
  · rw [hs₁, hs₂]
    exact ⟨.error _, hw⟩
  rcases none_or_some_of_isSome_eq hvault with ⟨hv₁, hv₂⟩ | ⟨v₁, v₂, hv₁, hv₂⟩
  · rw [hs₁, hs₂, hv₁, hv₂]
    exact ⟨.error _, hw⟩
  rw [hs₁, hs₂, hv₁, hv₂]
  -- sources answer by how often they were asked, which is the same in both worlds
  have houtcome := hlookups source₁ hs₁ source₂ hs₂ v₁ hv₁ v₂ hv₂ id w₁.lookups.length
  have hnoted := hw.noteLookup id
  dsimp only
  rw [← hw.lookups]
  generalize (source₁ id).outcome w₁.lookups.length = o₁ at houtcome ⊢
  generalize (source₂ id).outcome w₁.lookups.length = o₂ at houtcome ⊢
  cases houtcome with
  | opened hd₁ hd₂ =>
    simp only [Engine.reveal, hd₁, hd₂]
    exact ⟨.ok _ _, hnoted⟩
  | closed hd₁ hd₂ =>
    simp only [Engine.reveal, hd₁, hd₂]
    exact ⟨.error _, hnoted⟩
  | missing | failing => exact ⟨.error _, hnoted⟩
  | silent =>
    rw [← htimeout]
    exact ⟨.error _, hnoted.wait _⟩

/-- Only a secret can tell two calls of an action apart. -/
theorem Action.withoutKey_call (a : Action) (p : Payload) (secret₁ secret₂ : String) :
    (a.call p secret₁).withoutKey = (a.call p secret₂).withoutKey := by
  cases a <;> rfl

namespace Engine.SameButSecrets

theorem secret (h : e₁.SameButSecrets e₂) (a : Action) (hw : w₁.SameButKeys w₂) :
    SameButSecret (a.secret e₁ w₁).1 (a.secret e₂ w₂).1 ∧
      (a.secret e₁ w₁).2.SameButKeys (a.secret e₂ w₂).2 := by
  unfold Action.secret
  split
  · exact h.resolveSecret _ hw
  · exact ⟨.ok _ _, hw⟩

/-- An attempt to carry out an action comes to the same. -/
theorem attempt (h : e₁.SameButSecrets e₂) (hr : e₁.services.IgnoreKeys) (a : Action)
    (p : Payload) (hw : w₁.SameButKeys w₂) :
    (a.attempt e₁ p w₁).1 = (a.attempt e₂ p w₂).1 ∧
      (a.attempt e₁ p w₁).2.SameButKeys (a.attempt e₂ p w₂).2 := by
  unfold Action.attempt
  rw [← h.services, ← h.timeout]
  cases hresponder : e₁.services.get? a.service with
  | none => exact ⟨rfl, hw⟩
  | some responder =>
    obtain ⟨hsecret, hw'⟩ := h.secret a hw
    dsimp only
    rcases hs₁ : a.secret e₁ w₁ with ⟨secret₁, w₁'⟩
    rcases hs₂ : a.secret e₂ w₂ with ⟨secret₂, w₂'⟩
    rw [hs₁, hs₂] at hsecret hw'
    cases hsecret with
    | error err => exact ⟨rfl, hw'⟩
    | ok secret₁ secret₂ =>
      have hcall := a.withoutKey_call p secret₁ secret₂
      obtain ⟨hanswer, hw''⟩ := hw'.perform e₁.timeout hcall fun k =>
        hr _ responder hresponder k _ _ hcall
      dsimp only
      rcases hp₁ : w₁'.perform e₁.timeout responder (a.call p secret₁) with ⟨answer, w₁''⟩
      rcases hp₂ : w₂'.perform e₁.timeout responder (a.call p secret₂) with ⟨answer', w₂''⟩
      rw [hp₁, hp₂] at hanswer hw''
      obtain rfl : answer = answer' := hanswer
      cases answer with
      | answered | broke => exact ⟨rfl, hw''⟩

theorem apiKey (h : e₁.SameButSecrets e₂) (c : GenerateRecipeConfig) (hw : w₁.SameButKeys w₂) :
    SameButSecret (Recipe.apiKey e₁ c w₁).1 (Recipe.apiKey e₂ c w₂).1 ∧
      (Recipe.apiKey e₁ c w₁).2.SameButKeys (Recipe.apiKey e₂ c w₂).2 := by
  unfold Recipe.apiKey
  split
  · exact h.resolveSecret _ hw
  · rcases none_or_some_of_isSome_eq h.defaultAiKey with ⟨hk₁, hk₂⟩ | ⟨key₁, key₂, hk₁, hk₂⟩
    · rw [hk₁, hk₂]
      exact ⟨.error _, hw⟩
    · rw [hk₁, hk₂]
      exact ⟨.ok key₁ key₂, hw⟩

/-- A completion comes to the same. -/
theorem complete (h : e₁.SameButSecrets e₂) (hr : e₁.services.IgnoreKeys)
    (c : GenerateRecipeConfig) (question : String) (hw : w₁.SameButKeys w₂) :
    (Recipe.complete e₁ c question w₁).1 = (Recipe.complete e₂ c question w₂).1 ∧
      (Recipe.complete e₁ c question w₁).2.SameButKeys (Recipe.complete e₂ c question w₂).2 := by
  unfold Recipe.complete
  rw [← h.services, ← h.timeout]
  cases hresponder : e₁.services.completion with
  | none => exact ⟨rfl, hw⟩
  | some responder =>
    obtain ⟨hkey, hw'⟩ := h.apiKey c hw
    dsimp only
    rcases hk₁ : Recipe.apiKey e₁ c w₁ with ⟨key₁, w₁'⟩
    rcases hk₂ : Recipe.apiKey e₂ c w₂ with ⟨key₂, w₂'⟩
    rw [hk₁, hk₂] at hkey hw'
    cases hkey with
    | error err => exact ⟨rfl, hw'⟩
    | ok key₁ key₂ =>
      have hcall : (Call.completion question key₁).withoutKey =
          (Call.completion question key₂).withoutKey := rfl
      obtain ⟨hanswer, hw''⟩ := hw'.perform e₁.timeout hcall fun k =>
        hr .completion responder hresponder k _ _ hcall
      dsimp only
      rcases hp₁ : w₁'.perform e₁.timeout responder (.completion question key₁) with
        ⟨answer, w₁''⟩
      rcases hp₂ : w₂'.perform e₁.timeout responder (.completion question key₂) with
        ⟨answer', w₂''⟩
      rw [hp₁, hp₂] at hanswer hw''
      obtain rfl : answer = answer' := hanswer
      cases answer with
      | answered | broke => exact ⟨rfl, hw''⟩

theorem suggestRecipe (h : e₁.SameButSecrets e₂) (hr : e₁.services.IgnoreKeys) (x : RunContext)
    (p : Payload) (c : GenerateRecipeConfig) (hw : w₁.SameButKeys w₂) :
    (NodeTask.suggestRecipe e₁ x p c w₁).1 = (NodeTask.suggestRecipe e₂ x p c w₂).1 ∧
      (NodeTask.suggestRecipe e₁ x p c w₁).2.SameButKeys
        (NodeTask.suggestRecipe e₂ x p c w₂).2 := by
  unfold NodeTask.suggestRecipe
  cases x.mode with
  | test => exact ⟨rfl, hw⟩
  | live =>
    obtain ⟨hanswer, hw'⟩ := h.complete hr c (Recipe.prompt c p) hw
    dsimp only
    rcases hc₁ : Recipe.complete e₁ c (Recipe.prompt c p) w₁ with ⟨answer, w₁'⟩
    rcases hc₂ : Recipe.complete e₂ c (Recipe.prompt c p) w₂ with ⟨answer', w₂'⟩
    rw [hc₁, hc₂] at hanswer hw'
    obtain rfl : answer = answer' := hanswer
    cases answer with
    | answered result => cases result <;> exact ⟨rfl, hw'⟩
    | broke message => exact ⟨rfl, hw'⟩

end Engine.SameButSecrets

theorem World.SameButKeys.reserve (h : w₁.SameButKeys w₂) (x : RunContext) (key : ActionKey) :
    (NodeTask.reserve x key w₁).1 = (NodeTask.reserve x key w₂).1 ∧
      (NodeTask.reserve x key w₁).2.SameButKeys (NodeTask.reserve x key w₂).2 := by
  unfold NodeTask.reserve
  cases x.guard with
  | none => exact ⟨rfl, h⟩
  | some gd =>
    rw [← h.ledger]
    exact ⟨rfl, h.setLedger _⟩

theorem World.SameButKeys.release (h : w₁.SameButKeys w₂) (x : RunContext) (key : ActionKey) :
    (NodeTask.release x key w₁).SameButKeys (NodeTask.release x key w₂) := by
  unfold NodeTask.release
  cases x.guard with
  | none => exact h
  | some gd =>
    rw [← h.ledger]
    exact h.setLedger _

namespace Engine.SameButSecrets

theorem carryOut (h : e₁.SameButSecrets e₂) (hr : e₁.services.IgnoreKeys) (x : RunContext)
    (id : String) (p : Payload) (a : Action) (hw : w₁.SameButKeys w₂) :
    (NodeTask.carryOut e₁ x id p a w₁).1 = (NodeTask.carryOut e₂ x id p a w₂).1 ∧
      (NodeTask.carryOut e₁ x id p a w₁).2.SameButKeys
        (NodeTask.carryOut e₂ x id p a w₂).2 := by
  obtain ⟨hgranted, hw'⟩ := hw.reserve x (NodeTask.actionKey x p id)
  unfold NodeTask.carryOut
  dsimp only
  rcases hr₁ : NodeTask.reserve x (NodeTask.actionKey x p id) w₁ with ⟨granted, w₁'⟩
  rcases hr₂ : NodeTask.reserve x (NodeTask.actionKey x p id) w₂ with ⟨granted', w₂'⟩
  rw [hr₁, hr₂] at hgranted hw'
  obtain rfl : granted = granted' := hgranted
  cases granted with
  | false => exact ⟨rfl, hw'⟩
  | true =>
    obtain ⟨hresult, hw''⟩ := h.attempt hr a p hw'
    dsimp only
    rcases ha₁ : a.attempt e₁ p w₁' with ⟨result, w₁''⟩
    rcases ha₂ : a.attempt e₂ p w₂' with ⟨result', w₂''⟩
    rw [ha₁, ha₂] at hresult hw''
    obtain rfl : result = result' := hresult
    cases result with
    | sent | broke => exact ⟨rfl, hw''⟩
    | unavailable | failed => exact ⟨rfl, hw''.release _ _⟩

/-- Engines that differ only in secrets come to the same at every node. -/
theorem inLockstep (h : e₁.SameButSecrets e₂) (hr : e₁.services.IgnoreKeys) (x : RunContext) :
    InLockstep World.SameButKeys e₁ e₂ x x := by
  intro task id p w₁ w₂ hw
  cases task with
  | expiry | status | choose | write => exact ⟨rfl, hw⟩
  | suggest c => exact h.suggestRecipe hr x p c hw
  | act a =>
    unfold NodeTask.step
    cases x.mode with
    | test => exact ⟨rfl, hw⟩
    | live => exact h.carryOut hr x id p a hw

end Engine.SameButSecrets

/-! ## Runs -/

/-- Secrets influence nothing that a run reports: two engines that differ only in secrets, and whose
collaborators ignore them, make runs that tell the same events, return the same, and leave the same
behind, down to the calls made, except for the keys in these. -/
theorem FlowGraph.run_keeps_secrets (h : e₁.SameButSecrets e₂) (hr : e₁.services.IgnoreKeys)
    (g : FlowGraph) (mode : RunMode) (guard : Option Guard) (p : Payload) (w : World) :
    let o₁ := g.run e₁ mode guard p w
    let o₂ := g.run e₂ mode guard p w
    o₁.events = o₂.events ∧ o₁.result = o₂.result ∧ o₁.world.ledger = o₂.world.ledger ∧
      o₁.world.calls.map Call.withoutKey = o₂.world.calls.map Call.withoutKey ∧
      o₁.world.lookups = o₂.world.lookups ∧ o₁.world.clock = o₂.world.clock := by
  intro o₁ o₂
  obtain ⟨hevents, hresult, hw⟩ := InLockstep.run g (h.inLockstep hr ⟨g.flowId, mode, guard⟩)
    (fun _ _ hw => hw.clock) p (.refl w)
  exact ⟨hevents, hresult, hw.ledger, hw.calls, hw.lookups, hw.clock⟩

namespace Example

/-- An engine whose credentials are all sealed in one envelope. -/
def sealedEngine (v : Vault) (envelope key : String) : Engine :=
  { engine with
    vault := some v
    credentials := some fun id => .found (some ⟨id, .apiKey, envelope, []⟩)
    services := { engine.services with
      completion := some fun _ _ => .atOnce (.answer (.ok "Pancakes.")) }
    defaultAiKey := some key }

theorem sealedEngine_sameButSecrets {v : Vault} {envelope₁ envelope₂ secret₁ secret₂ : String}
    (h₁ : v.decrypt envelope₁ = .ok secret₁) (h₂ : v.decrypt envelope₂ = .ok secret₂) :
    (sealedEngine v envelope₁ secret₁).SameButSecrets (sealedEngine v envelope₂ secret₂) where
  registry := rfl
  services := rfl
  timeout := rfl
  vault := rfl
  credentials := rfl
  lookups := by
    rintro _ ⟨⟩ _ ⟨⟩ _ ⟨⟩ _ ⟨⟩ id k
    exact .opened h₁ h₂
  defaultAiKey := rfl

/-- A vault. -/
def vault : Vault := ⟨List.replicate keySize 7, rfl⟩

/-- An engine with one secret for everything: for all its credentials, and for completions. -/
def keyed (secret : String) : Engine :=
  sealedEngine vault (vault.encrypt (List.replicate nonceSize 1) secret) secret

theorem keyed_sameButSecrets (secret₁ secret₂ : String) :
    (keyed secret₁).SameButSecrets (keyed secret₂) :=
  sealedEngine_sameButSecrets (vault.decrypt_encrypt List.length_replicate secret₁)
    (vault.decrypt_encrypt List.length_replicate secret₂)

theorem keyed_ignoreKeys (secret : String) : (keyed secret).services.IgnoreKeys := by
  intro service responder hresponder k c₁ c₂ _
  cases service <;> cases hresponder <;> rfl

end Example

/-- The completion service is given one key or another, and nothing else tells of it. -/
theorem FlowGraph.run_keeps_secrets_milk : ∃ g,
    (Example.flow .epoch).validate .builtin = .ok g ∧
    let o (secret : String) := g.run (Example.keyed secret) .live (some Example.minuteGuard)
      Example.milkPayload .initial
    (o "alpha").world.calls.filterMap Call.key? = ["alpha"] ∧
    (o "omega").world.calls.filterMap Call.key? = ["omega"] ∧
    (o "alpha").events = (o "omega").events ∧ (o "alpha").result = (o "omega").result ∧
    (o "alpha").world.calls.map Call.withoutKey = (o "omega").world.calls.map Call.withoutKey := by
  have hkeys : (((Example.flow .epoch).validate .builtin).toOption.map fun g =>
      ["alpha", "omega"].map fun secret =>
        (g.run (Example.keyed secret) .live (some Example.minuteGuard) Example.milkPayload
          .initial).world.calls.filterMap Call.key?) = some [["alpha"], ["omega"]] := by
    decide +kernel
  obtain ⟨g, hg, hkeys⟩ := Option.map_eq_some_iff.1 hkeys
  obtain ⟨halpha, hkeys⟩ := List.cons.inj hkeys
  obtain ⟨homega, -⟩ := List.cons.inj hkeys
  obtain ⟨hevents, hresult, -, hcalls, -⟩ := FlowGraph.run_keeps_secrets
    (Example.keyed_sameButSecrets "alpha" "omega") (Example.keyed_ignoreKeys "alpha") g .live
    (some Example.minuteGuard) Example.milkPayload .initial
  exact ⟨g, Fallible.toOption_eq_some_iff.1 hg, halpha, homega, hevents, hresult, hcalls⟩

end KitchenFlow
