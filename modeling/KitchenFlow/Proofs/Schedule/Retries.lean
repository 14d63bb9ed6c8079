import KitchenFlow.Proofs.Run.Memoryless
import KitchenFlow.Proofs.Run.Resumption
import KitchenFlow.Proofs.Schedule.Coverage
import KitchenFlow.Proofs.Schedule.Slots

/-!
# Retries

An action that fails gives its slot back, so that the next tick can try it again. But the next tick
has to get there first, and what lies on the way may not let it pass: an action that was carried out
in the first tick is skipped in the second, and a run does not go on after an action that it skips.
Behind such an action, what failed once is not tried again before the window is over:

    retries_failed        the action is called for again, or something is named that prevents it
    cut_off_after_failure a tick that carries out one action and fails at the next, and another
                          tick that does not come to it
-/

namespace KitchenFlow

/-! ## Engines with a steady store -/

/-- An action that has failed once makes its call whenever it is attempted. -/
theorem Action.exists_call? {e : Engine} (hs : e.Steady) {p : Payload} {a : Action} {w w' : World}
    {err : AdapterError} (h : a.attempt e p w = (.failed err, w')) (q : Payload) (v : World) :
    ∃ c, a.call? e q v = some c := by
  have hsecret := a.secret_eq hs w v
  unfold attempt at h
  unfold call?
  cases hr : e.services.get? a.service with
  | none =>
    rw [hr] at h
    cases h
  | some responder =>
    rw [hr] at h
    rw [← hsecret]
    cases hk : (a.secret e w).1 with
    | ok secret => exact ⟨_, rfl⟩
    | error err =>
      rcases hw : a.secret e w with ⟨secret, w₁⟩
      rw [hw] at h hk
      cases hk
      cases h

/-- A node that came to a failure is an action that makes its call whenever it is attempted. -/
theorem exists_call?_of_failed {e : Engine} (hs : e.Steady) {item : InventoryItem} {task : NodeTask}
    {effect : NodeEffect} {err : AdapterError} (h : task.ComesTo e item effect)
    (ho : effect.outcome? = some (.failed err)) :
    ∃ a, task = .act a ∧ ∀ q v, ∃ c, a.call? e q v = some c := by
  cases h with
  | fail hatt => exact ⟨_, rfl, Action.exists_call? hs hatt⟩
  | expiry | status | choose | write | suggest | crash | skip | rehearse | send | lack
    | breakdown => cases ho

/-- An action is attempted or it is skipped. -/
theorem NodeTask.ComesTo.isAttempt_or {e : Engine} {item : InventoryItem} {a : Action}
    {effect : NodeEffect} (h : ComesTo e item (.act a) effect) :
    effect.isAttempt = true ∨ effect.outcome? = some .duplicate := by
  cases h with
  | skip => exact .inr rfl
  | rehearse | send | lack | fail | breakdown => exact .inl rfl

/-! ## Two ticks -/

/-- No two visits of a story are to one node. -/
theorem Story.effect_eq {s : Story} (hs : s.trace.Nodup) {m n : GraphNode}
    {effect effect' : NodeEffect} (hm : .visit m effect ∈ s) (hn : .visit n effect' ∈ s)
    (hid : m.id = n.id) : effect = effect' := by
  induction s with
  | nil => cases hm
  | cons x s ih =>
    cases x with
    | refusal id => exact ih hs (by simpa using hm) (by simpa using hn)
    | visit k effect'' =>
      rw [trace_visit, List.nodup_cons] at hs
      rcases List.mem_cons.1 hm with hm' | hm'
      · cases hm'
        rcases List.mem_cons.1 hn with hn' | hn'
        · cases hn'
          rfl
        · exact (hs.1 (mem_trace_iff.2 ⟨n, effect', hn', hid.symm⟩)).elim
      · rcases List.mem_cons.1 hn with hn' | hn'
        · cases hn'
          exact (hs.1 (mem_trace_iff.2 ⟨m, effect, hm', hid⟩)).elim
        · exact ih hs.2 hm' hn'

namespace Scheduler

variable {s : Scheduler} {t₁ t₂ : Instant} {src : FlowSource} {w₁ w₁' w₂ w₂' : World}
  {jobs₁ jobs₂ : List Job} {cs₁ cs₂ : List (ActionKey × Call)} {report₁ report₂ : TickReport}

/-- What becomes of an action that failed in one evaluation when another tick makes the evaluation
again. -/
inductive Retry (jobs₁ jobs₂ : List Job) (cs₂ : List (ActionKey × Call)) (report₂ : TickReport)
    (j₁ j₂ : Job) (id : String) : Prop where
  /-- Its collaborator is called. -/
  | called {c} : (j₁.evaluation.key id, c) ∈ cs₂ → Retry jobs₁ jobs₂ cs₂ report₂ j₁ j₂ id
  /-- The evaluation is broken off. -/
  | broken {err} : j₂.error? = some err → err ∈ report₂.errors →
      Retry jobs₁ jobs₂ cs₂ report₂ j₁ j₂ id
  /-- An action on the way let the first evaluation pass, and it stops the second one. -/
  | cut {m} : j₁.runner.story.CutsAt j₂.runner.story m →
      j₁.evaluation.graph.arcs.Reaches m id → Retry jobs₁ jobs₂ cs₂ report₂ j₁ j₂ id
  /-- Another evaluation of the first tick has kept the slot. -/
  | kept {j} : (id, ActionOutcome.duplicate) ∈ j₂.runner.story.outcomes → j ∈ jobs₁ → j ≠ j₁ →
      j.Keeps (j₁.evaluation.key id) → Retry jobs₁ jobs₂ cs₂ report₂ j₁ j₂ id
  /-- In the second tick, the slot is taken for another flow that has the same id. -/
  | taken {j} : (id, ActionOutcome.duplicate) ∈ j₂.runner.story.outcomes → j ∈ jobs₂ →
      j.evaluation.graph ≠ j₁.evaluation.graph → j.Attempts (j₁.evaluation.key id) →
      Retry jobs₁ jobs₂ cs₂ report₂ j₁ j₂ id

/-- What is evaluated in one tick is evaluated in any other with the same store. -/
theorem Course.exists_again (h₁ : s.Course t₁ src w₁ jobs₁ cs₁ w₁' report₁)
    (h₂ : s.Course t₂ src w₂ jobs₂ cs₂ w₂' report₂) {j₁ : Job} (hj₁ : j₁ ∈ jobs₁) :
    ∃ j₂ ∈ jobs₂, j₂.evaluation =
      ⟨j₁.evaluation.graph, { j₁.evaluation.payload with timestamp := t₂ }⟩ := by
  have hev : j₁.evaluation ∈ s.evaluations t₁ src :=
    h₁.map_evaluation ▸ List.mem_map_of_mem hj₁
  obtain ⟨org, horg, flows, items, hload, f, hflow, g, hg, item, hitem, event, hevent, heq⟩ :=
    mem_evaluations_iff.1 hev
  have hagain : (⟨g, payloadFor org item event t₂⟩ : Evaluation) ∈ s.evaluations t₂ src :=
    mem_evaluations_iff.2
      ⟨org, horg, flows, items, hload, f, hflow, g, hg, item, hitem, event, hevent, rfl⟩
  rw [← h₂.map_evaluation] at hagain
  obtain ⟨j₂, hj₂, heq₂⟩ := List.mem_map.1 hagain
  refine ⟨j₂, hj₂, ?_⟩
  rw [heq₂, heq]
  rfl

/-- A slot that was taken in a tick and is found reserved later was kept by an evaluation. -/
theorem Course.exists_keeps (h : s.Course t₁ src w₁ jobs₁ cs₁ w₁' report₁) {k : ActionKey} {j : Job}
    (hj : j ∈ jobs₁) (hattempt : j.Attempts k) (hget : w₁'.ledger.get? k ≠ none) :
    ∃ j ∈ jobs₁, j.Keeps k :=
  h.mem_slots_iff.1 (h.explains.kept k (h.mem_granted_iff.2 ⟨j, hj, hattempt⟩) hget)

/-- An action that is skipped has a reservation from before, or it is attempted by somebody. -/
theorem Course.exists_attempts (h : s.Course t₂ src w₂ jobs₂ cs₂ w₂' report₂) {k : ActionKey}
    {j : Job} (hj : j ∈ jobs₂) (hskip : j.Skips k) :
    w₂.ledger.get? k ≠ none ∨ ∃ j ∈ jobs₂, j.Attempts k := by
  rcases h.explains.refused k (h.mem_refused_iff.2 ⟨j, hj, hskip⟩) with hold | hgranted
  · refine .inl fun hnone => hold ?_
    rw [Ledger.get?_prune, hnone]
    rfl
  · exact .inr (h.mem_granted_iff.1 hgranted)

/-- An evaluation in which an action failed has not kept its slot. -/
theorem Course.not_keeps (h : s.Course t₁ src w₁ jobs₁ cs₁ w₁' report₁) {j : Job} (hj : j ∈ jobs₁)
    {id : String} {err : AdapterError} (hfail : (id, .failed err) ∈ j.runner.story.outcomes) :
    ¬ j.Keeps (j.evaluation.key id) := by
  obtain ⟨f, hg, -⟩ := h.exists_flow hj
  have hnd := (h.routes hj).2.nodup_trace_of_depicts (f.depicts_of_validate hg)
    (f.wellFormed_of_validate hg)
  obtain ⟨n, effect, hn, ho, rfl⟩ := Story.mem_outcomes_iff.1 hfail
  rintro ⟨m, effect', hm, -, hkept, hkey⟩
  obtain rfl := Story.effect_eq hnd hn hm (congrArg ActionKey.nodeId hkey)
  rcases hkept with hsent | hbroken
  · cases ho.symm.trans hsent
  · cases effect <;> cases ho
    cases hbroken

/-- The slot of an action that failed in the first tick and is skipped in the second was kept by
another evaluation of the first, or it is taken by somebody in the second. -/
theorem Course.exists_keeps_or_attempts (h₁ : s.Course t₁ src w₁ jobs₁ cs₁ w₁' report₁)
    (h₂ : s.Course t₂ src w₂ jobs₂ cs₂ w₂' report₂) (hledger : w₂.ledger = w₁'.ledger)
    {j₁ j₂ : Job} (hj₁ : j₁ ∈ jobs₁) {id : String} {err : AdapterError}
    (hfail : (id, .failed err) ∈ j₁.runner.story.outcomes) (hj₂ : j₂ ∈ jobs₂)
    (hskip : j₂.Skips (j₁.evaluation.key id)) :
    (∃ j ∈ jobs₁, j ≠ j₁ ∧ j.Keeps (j₁.evaluation.key id)) ∨
      ∃ j ∈ jobs₂, j.Attempts (j₁.evaluation.key id) := by
  have hnot := h₁.not_keeps hj₁ hfail
  obtain ⟨n, effect, hn, ho, rfl⟩ := Story.mem_outcomes_iff.1 hfail
  rcases h₂.exists_attempts hj₂ hskip with hold | hattempts
  · rw [hledger] at hold
    have hact := h₁.capability_of_outcome hj₁ hn ho
    have hattempt : effect.isAttempt = true := by
      cases effect <;> cases ho
      rfl
    obtain ⟨j, hj, hkeeps⟩ := h₁.exists_keeps hj₁ ⟨n, effect, hn, hact, hattempt, rfl⟩ hold
    refine .inl ⟨j, hj, ?_, hkeeps⟩
    rintro rfl
    exact hnot hkeeps
  · exact .inr hattempts

/-- An action that failed in the first tick makes its call wherever it is attempted in the
second. -/
theorem Course.exists_call_again (hsteady : s.engine.Steady)
    (h₁ : s.Course t₁ src w₁ jobs₁ cs₁ w₁' report₁)
    (h₂ : s.Course t₂ src w₂ jobs₂ cs₂ w₂' report₂) {j₁ j : Job} (hj₁ : j₁ ∈ jobs₁)
    {n : GraphNode} {effect effect' : NodeEffect} {err : AdapterError}
    (hn : .visit n effect ∈ j₁.runner.story) (ho : effect.outcome? = some (.failed err))
    (hj : j ∈ jobs₂) (hn' : .visit n effect' ∈ j.runner.story)
    (hattempt : effect'.isAttempt = true) : ∃ c, (j.evaluation.key n.id, c) ∈ cs₂ := by
  have hcomes := (h₁.routes hj₁).2.comesTo n effect hn
  obtain ⟨a, htask, hcalls⟩ := exists_call?_of_failed hsteady hcomes ho
  obtain ⟨q, v, hlisted⟩ := h₂.exists_call hj hn' hattempt htask
  obtain ⟨c, hc⟩ := hcalls q v
  exact ⟨c, hlisted c hc⟩

/-- Let an action fail in an evaluation of a tick, of a flow without conditions. The next tick, with
the same store and the same ledger, makes the evaluation again, and it calls for the action again,
unless the evaluation is broken off, an action on the way lets it pass no longer, or somebody else
has the slot of the action. -/
theorem retries_failed (hsteady : s.engine.Steady)
    (h₁ : s.Course t₁ src w₁ jobs₁ cs₁ w₁' report₁)
    (h₂ : s.Course t₂ src w₂ jobs₂ cs₂ w₂' report₂) (hledger : w₂.ledger = w₁'.ledger) {j₁ : Job}
    (hj₁ : j₁ ∈ jobs₁) (hplain : ∀ n ∈ j₁.evaluation.graph.nodes, n.capability ≠ .condition)
    {id : String} {err : AdapterError}
    (hfail : (id, .failed err) ∈ j₁.runner.story.outcomes) :
    (∃ new, w₂'.calls = w₂.calls ++ new ∧
      new.filter (·.service ≠ .completion) = cs₂.map Prod.snd) ∧
    ∃ j₂ ∈ jobs₂, j₂.evaluation =
        ⟨j₁.evaluation.graph, { j₁.evaluation.payload with timestamp := t₂ }⟩ ∧
      Retry jobs₁ jobs₂ cs₂ report₂ j₁ j₂ id := by
  refine ⟨h₂.exists_calls, ?_⟩
  obtain ⟨j₂, hj₂, heq⟩ := h₁.exists_again h₂ hj₁
  refine ⟨j₂, hj₂, heq, ?_⟩
  have howner := h₁.exists_keeps_or_attempts h₂ hledger hj₁ hfail hj₂
  obtain ⟨n, effect, hn, ho, rfl⟩ := Story.mem_outcomes_iff.1 hfail
  obtain ⟨f, hg, -⟩ := h₁.exists_flow hj₁
  have hd := f.depicts_of_validate hg
  have hf := f.wellFormed_of_validate hg
  have hroute₁ := (h₁.routes hj₁).2
  have hroute₂ := (h₂.routes hj₂).2
  rw [heq] at hroute₂
  have hkey : j₂.evaluation.key n.id = j₁.evaluation.key n.id := by
    rw [heq]
    rfl
  cases herror : j₂.error? with
  | some e => exact .broken herror (h₂.mem_errors hj₂ herror)
  | none =>
    rcases hroute₁.resumes hroute₂ (Job.error?_eq_none_iff.1 herror) hd hf hplain n effect hn with
      hmem | ⟨m, hcut, hreach⟩
    · obtain ⟨effect₂, hn₂⟩ := hroute₂.exists_visit hd hf (hroute₁.mem_nodes hn) hmem
      obtain ⟨a, htask⟩ := (hroute₁.comesTo n effect hn).exists_act ho
      have hcomes₂ := hroute₂.comesTo n effect₂ hn₂
      rw [htask] at hcomes₂
      rcases hcomes₂.isAttempt_or with hattempt | hskip
      · obtain ⟨c, hc⟩ := h₁.exists_call_again hsteady h₂ hj₁ hn ho hj₂ hn₂ hattempt
        exact .called (hkey ▸ hc)
      · have hact := h₁.capability_of_outcome hj₁ hn ho
        have hdup := Story.mem_outcomes_iff.2 ⟨n, effect₂, hn₂, hskip, rfl⟩
        rcases howner ⟨n, effect₂, hn₂, hact, hskip, hkey.symm⟩ with
          ⟨j, hj, hne, hkeeps⟩ | ⟨j, hj, m, effect', hm, hact', hattempt, hkey'⟩
        · exact .kept hdup hj hne hkeeps
        · by_cases hgraph : j.evaluation.graph = j₁.evaluation.graph
          -- an evaluation of the same graph has attempted the very node
          · have hnode : m ∈ j₁.evaluation.graph.nodes := hgraph ▸ (h₂.routes hj).2.mem_nodes hm
            obtain rfl : n = m := hd.eq_of_id hf (hroute₁.mem_nodes hn) hnode
              (congrArg ActionKey.nodeId hkey')
            obtain ⟨c, hc⟩ := h₁.exists_call_again hsteady h₂ hj₁ hn ho hj hm hattempt
            exact .called (hkey' ▸ hc)
          · exact .taken hdup hj hgraph ⟨m, effect', hm, hact', hattempt, hkey'⟩
    · exact .cut hcut hreach

end Scheduler

/-! ## A warning that fails at first -/

namespace Example

/-- A notifier that fails at its first call. -/
def firstFails : Responder := fun n _ =>
  .atOnce (.answer (if n = 0 then .error (.failed "offline") else .ok ""))

end Example

/-- Half a minute after the warning has failed, it is sent. -/
theorem Scheduler.retries_failed_lookout :
    let s := Example.minuteScheduler Example.firstFails
    s.engine.Steady ∧ ∃ jobs₁ cs₁ w₁ report₁ jobs₂ cs₂ w₂ report₂,
      s.Course ⟨0, 0⟩ Example.lookoutSource .initial jobs₁ cs₁ w₁ report₁ ∧
      s.Course ⟨30, 0⟩ Example.lookoutSource w₁ jobs₂ cs₂ w₂ report₂ ∧
      ∃ j₁ ∈ jobs₁, (∀ n ∈ j₁.evaluation.graph.nodes, n.capability ≠ .condition) ∧
        (∃ err, ("warn", .failed err) ∈ j₁.runner.story.outcomes) ∧
        ∃ c, (j₁.evaluation.key "warn", c) ∈ cs₂ := by
  intro s
  have hsteady : s.engine.Steady := nofun
  obtain ⟨jobs₁, cs₁, hcourse₁, hyields₁⟩ := s.course_tick ⟨0, 0⟩ Example.lookoutSource .initial
  obtain ⟨jobs₂, cs₂, hcourse₂, hyields₂⟩ := s.course_tick ⟨30, 0⟩ Example.lookoutSource
    (s.tick Example.lookoutSource ⟨0, 0⟩ .initial).world
  refine ⟨hsteady, jobs₁, cs₁, _, _, jobs₂, cs₂, _, _, hcourse₁, hcourse₂, ?_⟩
  -- the warning failed in one of the evaluations of the first tick
  have hfailed : NodeEffect.actionEvent "warn" (.failed (.failed "offline")) ∈
      (s.tick Example.lookoutSource ⟨0, 0⟩ .initial).events := by decide +kernel
  obtain ⟨j₁, hj₁, htold⟩ := (actionEvent_mem_flatMap_iff hyields₁).1 hfailed
  obtain ⟨err, herr⟩ := Story.exists_failed_of_mem_events htold
  have hplain : ∀ n ∈ j₁.evaluation.graph.nodes, n.capability ≠ .condition := by
    have hall : (Example.lookout.validate .builtin).toOption.all (fun g =>
        g.nodes.all fun n => n.capability ≠ .condition) = true := by decide +kernel
    have hev : j₁.evaluation ∈ s.evaluations ⟨0, 0⟩ Example.lookoutSource :=
      hcourse₁.map_evaluation ▸ List.mem_map_of_mem hj₁
    obtain ⟨org, -, flows, items, hload, f, hf, g, hg, item, -, event, -, heq⟩ :=
      mem_evaluations_iff.1 hev
    obtain ⟨rfl, -⟩ := Prod.mk.inj (Except.ok.inj hload)
    obtain rfl := List.mem_singleton.1 hf
    have hg : Example.lookout.validate .builtin = .ok g := hg
    rw [hg] at hall
    rw [heq]
    intro n hn
    simpa using List.all_eq_true.1 hall n hn
  refine ⟨j₁, hj₁, hplain, ⟨err, herr⟩, ?_⟩
  -- in the second tick no action fails or is skipped
  have hquiet : (s.tick Example.lookoutSource ⟨30, 0⟩
      (s.tick Example.lookoutSource ⟨0, 0⟩ .initial).world).events.all (fun v => match v with
        | .actionFailed .. | .actionSkipped _ => false
        | _ => true) = true := by decide +kernel
  have hpass : ∀ j ∈ jobs₂, ∀ id o, (id, o) ∈ j.runner.story.outcomes → o.goesOn = true := by
    intro j hj id o ho
    have htold := (actionEvent_mem_flatMap_iff hyields₂).2
      ⟨j, hj, Story.actionEvent_mem_of_mem_outcomes ho⟩
    have hno := List.all_eq_true.1 hquiet _ htold
    cases o with
    | dispatched | demo => rfl
    | failed | duplicate => cases hno
  obtain ⟨-, j₂, hj₂, -, hretry⟩ :=
    retries_failed hsteady hcourse₁ hcourse₂ rfl hj₁ hplain herr
  cases hretry with
  | called hcall => exact ⟨_, hcall⟩
  | broken _ hmem =>
    have hnone : (s.tick Example.lookoutSource ⟨30, 0⟩
        (s.tick Example.lookoutSource ⟨0, 0⟩ .initial).world).report.errors = [] := by
      decide +kernel
    rw [hnone] at hmem
    cases hmem
  | cut hcut _ =>
    obtain ⟨-, o₂, -, ho₂, -, hstop⟩ := hcut
    cases hstop.symm.trans (hpass j₂ hj₂ _ o₂ ho₂)
  | kept hdup | taken hdup => cases hpass j₂ hj₂ _ _ hdup

/-! ## A warning behind a webhook -/

namespace Example

/-- A flow that calls a webhook for what expires soon, and then warns of it. -/
def escalation : Flow :=
  ((({ Flow.empty "flow-escalation" "Escalation" with
      nodes :=
        [node "soon" .expirationTrigger 0 0 [("timeOffset", .ofNat 3)],
          node "hook" .webhookDelivery 0 0 [("targetUrl", .string "https://example.com/hook")],
          node "warn" .sendNotification 0 0
            [("channel", .string "sms"), ("recipient", .string "555"),
              ("message", .string "use it")]] }.connect
    "soon" "hook").connect "hook" "warn").publish .epoch)

/-- A scheduler with a notifier that fails at first, and a webhook that answers. -/
def escalator : Scheduler :=
  { minuteScheduler firstFails with
    engine := { (minuteScheduler firstFails).engine with
      services := { Services.none with
        notifications := some firstFails
        webhooks := some fun _ _ => .atOnce (.answer (.ok "")) } } }

/-- A store with the flow and the milk in it. -/
def escalationSource : FlowSource := ⟨fun _ => .ok [escalation], fun _ => .ok [milk]⟩

end Example

/-- In the first tick the webhook is called and the warning fails. In the second one the webhook is
skipped, and nobody is called at all. -/
theorem Scheduler.cut_off_after_failure :
    ∃ (s : Scheduler) (src : FlowSource) (t₁ t₂ : Instant) (w : World), t₁ ≤ t₂ ∧
      (∃ f g, src.flows "kitchen" = .ok [f] ∧ s.organizations = ["kitchen"] ∧
        f.validate s.engine.registry = .ok g ∧ ∀ n ∈ g.nodes, n.capability ≠ .condition) ∧
      RunEvent.actionFailed "warn" "Adapter call failed: offline" ∈ (s.tick src t₁ w).events ∧
      (s.tick src t₂ (s.tick src t₁ w).world).world.calls.length =
        (s.tick src t₁ w).world.calls.length := by
  have hgraph : (Example.escalation.validate .builtin).toOption.any (fun g =>
      g.nodes.all fun n => n.capability ≠ .condition) = true := by decide +kernel
  obtain ⟨g, hg, hplain⟩ := (Option.any_eq_true _ _).1 hgraph
  refine ⟨Example.escalator, Example.escalationSource, ⟨0, 0⟩, ⟨30, 0⟩, .initial, by decide, ?_, ?_⟩
  · have hg := Fallible.toOption_eq_some_iff.1 hg
    exact ⟨Example.escalation, g, rfl, rfl, hg, by simpa using hplain⟩
  · decide +kernel

end KitchenFlow
