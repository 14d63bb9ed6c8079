import KitchenFlow.Proofs.Run.Chronicle
import KitchenFlow.Proofs.Run.Mirror

/-!
# Rehearsals as previews

A rehearsal takes every action to be carried out and every recipe to come from the demo set. A live
run in which it turned out so, no action having failed or been skipped, has gone the way that was
rehearsed: it has entered the same nodes and made the same of its payload. What it has noted is
worded differently where something was done for real, but there are as many lines; and what the
rehearsal counts as a demo is what was dispatched, or was a demo in the live run as well.

    GraphNode.mirrored_of_isForeseen   at a node where nothing unforeseen happens
    Flow.rehearsal_previews_run        in a whole run
-/

namespace KitchenFlow

/-! ## One node -/

namespace NodeEffect

/-- Whether an effect is one that a rehearsal reckons with. -/
def isForeseen : NodeEffect → Bool
  | .suggested _ _ .ai | .acted _ _ (.failed _) | .acted _ _ .duplicate | .aborted _ => false
  | .asked .. | .branched .. | .wrote .. | .suggested _ _ (.demo _) | .acted _ _ .dispatched
  | .acted _ _ (.demo _) => true

/-- The effect of a live run, and the one rehearsed in its place. -/
inductive Previewed : NodeEffect → NodeEffect → Prop where
  | asked {isMatch itemId itemName} :
      Previewed (.asked isMatch itemId itemName) (.asked isMatch itemId itemName)
  | branched {c b} : Previewed (.branched c b) (.branched c b)
  | wrote {key value} : Previewed (.wrote key value) (.wrote key value)
  | suggested {itemName recipe reason} :
      Previewed (.suggested itemName recipe (.demo reason))
        (.suggested itemName recipe (.demo testReason))
  | dispatched {description itemId} :
      Previewed (.acted description itemId .dispatched)
        (.acted description itemId (.demo testReason))
  | demo {description itemId reason} :
      Previewed (.acted description itemId (.demo reason))
        (.acted description itemId (.demo testReason))

end NodeEffect

section

variable {e : Engine} {x : RunContext} {id : String} {p : Payload} {w w' : World}
  {effect : NodeEffect}

/-- An action that does not break the run off comes out in some way. -/
theorem NodeTask.exists_outcome_of_step {a : Action}
    (h : (NodeTask.act a).step e x id p w = (effect, w')) (hgo : effect.isAbort = false) :
    ∃ o, effect = .acted (a.describe p) p.item.id o := by
  unfold step at h
  cases hmode : x.mode with
  | test =>
    rw [hmode] at h
    cases h
    exact ⟨_, rfl⟩
  | live =>
    rw [hmode] at h
    rcases hreserve : reserve x (actionKey x p id) w with ⟨granted, w₁⟩
    cases granted with
    | false =>
      simp only [carryOut, hreserve] at h
      cases h
      exact ⟨_, rfl⟩
    | true =>
      rcases hresult : a.attempt e p w₁ with ⟨result, w₂⟩
      simp only [carryOut, hreserve, hresult] at h
      cases result with
      | sent | unavailable | failed =>
        cases h
        exact ⟨_, rfl⟩
      | broke message =>
        cases h
        cases hgo

/-- A recipe that was not asked for is the demo recipe. -/
theorem NodeTask.exists_reason_of_suggestRecipe {c : GenerateRecipeConfig}
    (h : suggestRecipe e x p c w = (effect, w')) (hforeseen : effect.isForeseen = true) :
    ∃ reason, effect = demoRecipe p reason := by
  unfold suggestRecipe at h
  split at h
  · cases h
    exact ⟨_, rfl⟩
  · split at h
    · cases h
      cases hforeseen
    · cases h
      exact ⟨_, rfl⟩
    · cases h
      cases hforeseen

/-- Only a node that is to suggest a recipe does. -/
theorem NodeTask.ComesTo.exists_suggest {item : InventoryItem} {task : NodeTask}
    {itemName recipe : String} {source : RecipeSource}
    (h : ComesTo e item task (.suggested itemName recipe source)) : ∃ c, task = .suggest c := by
  cases h
  exact ⟨_, rfl⟩

theorem NodeEffect.isAbort_of_isForeseen (h : effect.isForeseen = true) :
    effect.isAbort = false := by
  cases effect with
  | aborted => cases h
  | asked | branched | wrote | suggested | acted => rfl

/-- Where nothing unforeseen has happened, the rehearsal mirrors it. -/
theorem GraphNode.mirrored_of_isForeseen (e : Engine) (x : RunContext) (n : GraphNode)
    (hforeseen : effect.isForeseen = true) :
    n.Mirrored e x NodeEffect.Previewed (· = ·) effect := by
  rintro p _ w w' rfl h
  cases htask : n.config.task with
  | expiry | status =>
    rw [htask] at h
    cases h
    exact ⟨.asked, rfl, rfl⟩
  | choose c =>
    rw [htask] at h
    cases h
    exact ⟨.branched, rfl, rfl⟩
  | write c =>
    rw [htask] at h
    cases h
    exact ⟨.wrote, rfl, rfl⟩
  | suggest c =>
    rw [htask] at h
    obtain ⟨reason, rfl⟩ := NodeTask.exists_reason_of_suggestRecipe h hforeseen
    exact ⟨.suggested, rfl, rfl⟩
  | act a =>
    rw [htask] at h
    obtain ⟨o, rfl⟩ :=
      NodeTask.exists_outcome_of_step h (NodeEffect.isAbort_of_isForeseen hforeseen)
    cases o with
    | dispatched => exact ⟨.dispatched, rfl, rfl⟩
    | demo reason => exact ⟨.demo, rfl, rfl⟩
    | failed err => cases hforeseen
    | duplicate => cases hforeseen

end

/-! ## Whole stories -/

namespace Story

variable {s t : Story}

/-- As many triggers match, and what was dispatched or a demo is a demo. -/
theorem counts_of_previewed (h : List.Forall₂ (Moment.Mirrors NodeEffect.Previewed) s t) :
    t.stats.triggersMatched = s.stats.triggersMatched ∧
      t.stats.demoFallbacks = s.stats.actionsDispatched + s.stats.demoFallbacks := by
  have hfold : ∀ st st' : RunStats, st'.triggersMatched = st.triggersMatched →
      st'.demoFallbacks = st.actionsDispatched + st.demoFallbacks →
      (t.foldl Moment.count st').triggersMatched = (s.foldl Moment.count st).triggersMatched ∧
        (t.foldl Moment.count st').demoFallbacks =
          (s.foldl Moment.count st).actionsDispatched +
            (s.foldl Moment.count st).demoFallbacks := by
    induction h with
    | nil => exact fun st st' hmatched hdemos => ⟨hmatched, hdemos⟩
    | cons hm _ ih =>
      intro st st' hmatched hdemos
      rw [List.foldl_cons, List.foldl_cons]
      cases hm with
      | refusal => exact ih st st' hmatched hdemos
      | visit hE =>
        cases hE with
        | @asked isMatch =>
          cases isMatch with
          | true => exact ih _ _ (congrArg (· + 1) hmatched) hdemos
          | false => exact ih _ _ hmatched hdemos
        | branched | wrote => exact ih _ _ hmatched hdemos
        | suggested | demo => exact ih _ _ hmatched (congrArg (· + 1) hdemos)
        | dispatched =>
          refine ih _ _ hmatched ?_
          show st'.demoFallbacks + 1 = st.actionsDispatched + 1 + st.demoFallbacks
          omega
  exact hfold .none .none rfl rfl

/-- When the counts say that no action has failed or been skipped, and every recipe entered is told
to be a demo, all that has happened was foreseen. -/
theorem isForeseen_of_stats (hgo : ∀ n effect, Moment.visit n effect ∈ s → effect.isAbort = false)
    (hfailed : s.stats.actionsFailed = 0) (hskipped : s.stats.duplicatesSkipped = 0)
    (hrecipes : ∀ n itemName recipe, Moment.visit n (.suggested itemName recipe .ai) ∉ s) :
    ∀ n effect, Moment.visit n effect ∈ s → effect.isForeseen = true := by
  have hcounts := RunStats.Counts.none.append_story s
  rw [List.nil_append] at hcounts
  intro n effect hn
  have htold {v : RunEvent} (hv : effect.event? n.id = some v) : v ∈ s.events :=
    List.mem_flatMap.2 ⟨_, hn, List.mem_cons_of_mem _ (Option.mem_toList.2 hv)⟩
  cases effect with
  | asked | branched | wrote => rfl
  | suggested itemName recipe source =>
    cases source with
    | ai => exact (hrecipes n itemName recipe hn).elim
    | demo reason => rfl
  | acted description itemId o =>
    cases o with
    | dispatched | demo => rfl
    | failed err =>
      have hzero := List.countP_eq_zero.1 (hcounts.failed.symm.trans hfailed)
      exact (hzero _ (htold rfl) rfl).elim
    | duplicate =>
      have hzero := List.countP_eq_zero.1 (hcounts.skipped.symm.trans hskipped)
      exact (hzero _ (htold rfl) rfl).elim
  | aborted message => cases hgo n _ hn

end Story

/-! ## Whole runs -/

/-- A rehearsal previews every live run in which no action has failed or been skipped and every
recipe was a demo: it has the same trace, the same payload, as many lines and as many triggers that
match, and its demos are the actions dispatched and the demos of the live run. -/
theorem Flow.rehearsal_previews_run {f : Flow} {r : Registry} {g : FlowGraph}
    (hg : f.validate r = .ok g) (e : Engine) (guard : Option Guard) (p : Payload) (w : World)
    {res : RunResult} (h : (g.run e .live guard p w).result = .ok res)
    (hfailed : res.stats.actionsFailed = 0) (hskipped : res.stats.duplicatesSkipped = 0)
    (hrecipes : ∀ n ∈ g.nodes, n.kind = .generateRecipe → n.id ∈ res.trace →
      ∃ reason, RunEvent.demoFallback n.id reason ∈ (g.run e .live guard p w).events)
    (e' : Engine) (guard' : Option Guard) (w' : World) :
    ∃ res', (g.run e' .test guard' p w').result = .ok res' ∧ res'.trace = res.trace ∧
      res'.payload = res.payload ∧ res'.log.length = res.log.length ∧
      res'.stats.triggersMatched = res.stats.triggersMatched ∧
      res'.stats.demoFallbacks = res.stats.actionsDispatched + res.stats.demoFallbacks := by
  have hd := f.depicts_of_validate hg
  have hf := f.wellFormed_of_validate hg
  have habort := FlowGraph.abort?_of_result_eq_ok h
  have hwalk := walksAll_walkAll g e ⟨g.flowId, .live, guard⟩ (g.listeners p.triggerEvent) p w
  rcases hs : g.walkAll e ⟨g.flowId, .live, guard⟩ (g.listeners p.triggerEvent) p w with ⟨s, w₁⟩
  rw [hs] at habort hwalk
  have hrun := FlowGraph.run_of_abort?_eq_none hs habort
  rw [hrun] at h hrecipes
  cases h
  have hgo := hwalk.not_isAbort habort
  have hno : ∀ n itemName recipe, Moment.visit n (.suggested itemName recipe .ai) ∉ s := by
    intro n itemName recipe hn
    have hkind :=
      GraphNode.kind_eq_generateRecipe_iff.2 (hwalk.routes.comesTo n _ hn).exists_suggest
    obtain ⟨reason, htold⟩ := hrecipes n (hwalk.routes.mem_nodes hn) hkind
      (Story.mem_trace_iff.2 ⟨n, _, hn, rfl⟩)
    have hmem : RunEvent.demoFallback n.id reason ∈ s.events := by simpa using htold
    have hnd := hwalk.routes.nodup_trace_of_depicts hd hf
    have hevent := Story.event?_of_mem_events hnd hn hmem rfl
    cases hevent
  obtain ⟨hst, hpayload⟩ := hwalk.mirrored (E := NodeEffect.Previewed) (R := (· = ·)) hgo
    (fun n effect hn => n.mirrored_of_isForeseen e _
      (Story.isForeseen_of_stats hgo hfailed hskipped hno n effect hn)) rfl
  obtain ⟨hmatched, hdemos⟩ := Story.counts_of_previewed hst
  refine ⟨_, congrArg RunOutcome.result (g.run_test p e' guard' w'), ?_, hpayload.symm, ?_,
    hmatched, hdemos⟩
  · exact (Story.trace_eq_of_mirrors hst).symm
  · rw [List.length_append, List.length_append, Story.length_log_eq_of_mirrors hst, g.rehearsal_eq]

namespace Example

/-- Why there is no recipe to be had for the milk. -/
def noCompletion : String := (AdapterError.failed "no completion adapter configured").message

/-- In the run on milk the recipe is a demo, and no action has failed or been skipped. -/
theorem exists_milk_demo : ∃ g res, (flow .epoch).validate .builtin = .ok g ∧
    (g.run engine .live (some minuteGuard) milkPayload .initial).result = .ok res ∧
    res.stats = ⟨1, 1, 0, 0, 1⟩ ∧
    ∀ n ∈ g.nodes, n.kind = .generateRecipe → RunEvent.demoFallback n.id noCompletion ∈
      (g.run engine .live (some minuteGuard) milkPayload .initial).events := by
  have h : (((flow .epoch).validate .builtin).toOption.bind fun g =>
      (g.run engine .live (some minuteGuard) milkPayload .initial).result.toOption.map fun res =>
        (res.stats, decide (∀ n ∈ g.nodes, n.kind = .generateRecipe →
          RunEvent.demoFallback n.id noCompletion ∈
            (g.run engine .live (some minuteGuard) milkPayload .initial).events))) =
      some (⟨1, 1, 0, 0, 1⟩, true) := by decide +kernel
  obtain ⟨g, hg, h⟩ := Option.bind_eq_some_iff.1 h
  obtain ⟨res, hres, h⟩ := Option.map_eq_some_iff.1 h
  obtain ⟨hstats, htold⟩ := Prod.mk.inj h
  exact ⟨g, res, Fallible.toOption_eq_some_iff.1 hg, Fallible.toOption_eq_some_iff.1 hres, hstats,
    of_decide_eq_true htold⟩

end Example

/-- A rehearsal on milk previews the run: the dispatched warning and the demo recipe are its two
demos. -/
theorem Flow.rehearsal_previews_run_milk : ∃ g res res',
    (Example.flow .epoch).validate .builtin = .ok g ∧
    (g.run Example.engine .live (some Example.minuteGuard) Example.milkPayload .initial).result
      = .ok res ∧
    (g.run .bare .test none Example.milkPayload .initial).result = .ok res' ∧
    res'.trace = res.trace ∧ res'.payload = res.payload ∧ res'.stats.demoFallbacks = 2 := by
  obtain ⟨g, res, hg, hres, hstats, htold⟩ := Example.exists_milk_demo
  obtain ⟨res', hres', htrace, hpayload, -, -, hdemos⟩ := Flow.rehearsal_previews_run hg
    Example.engine (some Example.minuteGuard) Example.milkPayload .initial hres (by rw [hstats])
    (by rw [hstats]) (fun n hn hkind _ => ⟨_, htold n hn hkind⟩) .bare none .initial
  rw [hstats] at hdemos
  exact ⟨g, res, res', hg, hres, hres', htrace, hpayload, hdemos⟩

end KitchenFlow
