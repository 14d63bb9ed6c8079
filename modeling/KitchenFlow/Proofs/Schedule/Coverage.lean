import KitchenFlow.Proofs.Run.Triggers
import KitchenFlow.Proofs.Schedule.Spacing
import KitchenFlow.Proofs.Schedule.Tallies

/-!
# A tick asks every trigger

For every flow and item a tick makes one evaluation for each event that the flow listens for, and
each evaluation begins at the triggers that listen for its event. The two agree on what the events
of a flow are, so together the evaluations ask every trigger of the flow about the item, and none of
them twice. What a tick reports as matches is then a matter of the store alone:

    Course.triggersMatched_eq_due   the matches reported are the triggers that match
    covers_triggers                 every trigger is asked exactly once
-/

namespace KitchenFlow

namespace Scheduler

/-! ## The matches to be expected -/

/-- The triggers of a flow that match one of the items, if the flow is valid. -/
def dueIn (s : Scheduler) (items : List InventoryItem) (f : Flow) : Nat :=
  match f.validate s.engine.registry with
  | .ok g => (items.map fun item => g.nodes.countP fun n => n.isMatch item).sum
  | .error _ => 0

/-- The triggers that match in an organization, if it can be loaded. -/
def dueAt (s : Scheduler) (src : FlowSource) (org : String) : Nat :=
  match load src org with
  | .ok (flows, items) => (flows.map (s.dueIn items)).sum
  | .error _ => 0

/-- The triggers that match in all organizations. -/
def due (s : Scheduler) (src : FlowSource) : Nat := (s.organizations.map (s.dueAt src)).sum

variable {s : Scheduler} {now : Instant} {src : FlowSource} {w w' : World} {jobs : List Job}
  {cs : List (ActionKey × Call)} {report : TickReport}

/-- The evaluations of a flow on an item. -/
def evaluationsFor (org : String) (now : Instant) (f : Flow) (g : FlowGraph)
    (item : InventoryItem) : List Evaluation :=
  f.triggerEvents.map fun event => ⟨g, payloadFor org item event now⟩

/-- The listeners that match the item of an evaluation. -/
def listening (ev : Evaluation) : Nat :=
  (ev.graph.listeners ev.payload.triggerEvent).countP fun n => n.isMatch ev.payload.item

theorem sum_map_flatMap {α β : Type} (f : α → List β) (p : β → Nat) (l : List α) :
    ((l.flatMap f).map p).sum = (l.map fun a => ((f a).map p).sum).sum := by
  rw [List.map_flatMap, List.flatMap_def, List.sum_flatten, List.map_map]
  rfl

theorem sum_map_eq {α : Type} [DecidableEq α] (l : List α) (a : α) :
    (l.map fun b => if b = a then 1 else 0).sum = l.count a := by
  induction l with
  | nil => rfl
  | cons b l ih =>
    rw [List.map_cons, List.sum_cons, ih, List.count_cons, Nat.add_comm]
    simp only [beq_iff_eq]

/-- The evaluations of a flow on an item ask all its triggers. -/
theorem sum_listening_evaluationsFor {f : Flow} {g : FlowGraph}
    (hg : f.validate s.engine.registry = .ok g) (org : String) (item : InventoryItem) :
    ((evaluationsFor org now f g item).map listening).sum =
      g.nodes.countP fun n => n.isMatch item := by
  have hd := f.depicts_of_validate hg
  have hf := f.wellFormed_of_validate hg
  -- only triggers match, and every trigger is a root
  have hroots : (g.roots.countP fun n => n.isMatch item) =
      g.nodes.countP fun n => n.isMatch item := by
    rw [FlowGraph.roots, List.countP_filter]
    refine List.countP_congr fun n hn => ?_
    rw [Bool.and_eq_true, and_iff_left_iff_imp]
    intro hmatch
    have hroot := (hd.mem_roots_iff hf).2 ⟨hn, GraphNode.trigger_of_isMatch hmatch⟩
    exact (List.mem_filter.1 hroot).2
  rw [← hroots, ← (hd.perm_roots hf).countP_eq, List.countP_flatMap, evaluationsFor, List.map_map]
  rfl

theorem sum_listening_evaluationsIn (s : Scheduler) (now : Instant) (org : String)
    (items : List InventoryItem) (f : Flow) :
    ((s.evaluationsIn now org items f).map listening).sum = s.dueIn items f := by
  unfold evaluationsIn dueIn
  cases hg : f.validate s.engine.registry with
  | error err => rfl
  | ok g =>
    show ((items.flatMap (evaluationsFor org now f g)).map listening).sum = _
    rw [sum_map_flatMap]
    exact congrArg List.sum
      (List.map_congr_left fun item _ => sum_listening_evaluationsFor hg org item)

theorem sum_listening_evaluations (s : Scheduler) (now : Instant) (src : FlowSource) :
    ((s.evaluations now src).map listening).sum = s.due src := by
  unfold evaluations due
  rw [sum_map_flatMap]
  refine congrArg List.sum (List.map_congr_left fun org _ => ?_)
  unfold evaluationsAt dueAt
  cases load src org with
  | error err => rfl
  | ok loaded =>
    dsimp only
    rw [sum_map_flatMap]
    exact congrArg List.sum
      (List.map_congr_left fun f _ => s.sum_listening_evaluationsIn now org loaded.2 f)

/-! ## Evaluations that are not broken off -/

theorem Course.exists_flow (h : s.Course now src w jobs cs w' report) {j : Job} (hj : j ∈ jobs) :
    ∃ f : Flow, f.validate s.engine.registry = .ok j.evaluation.graph ∧
      j.evaluation.payload.triggerEvent ∈ f.triggerEvents := by
  have hev : j.evaluation ∈ s.evaluations now src :=
    h.map_evaluation ▸ List.mem_map_of_mem hj
  obtain ⟨org, -, flows, items, -, f, -, g, hg, item, -, event, hevent, heq⟩ :=
    mem_evaluations_iff.1 hev
  rw [heq]
  exact ⟨f, hg, hevent⟩

/-- In an evaluation that is not broken off, the listeners that match are counted. -/
theorem Course.matched_eq (h : s.Course now src w jobs cs w' report) {j : Job} (hj : j ∈ jobs)
    (hgo : j.error? = none) : j.matched = listening j.evaluation := by
  obtain ⟨f, hg, -⟩ := h.exists_flow hj
  have hs := Job.error?_eq_none_iff.1 hgo
  have hroute := (h.routes hj).2
  have hperm := hroute.perm_triggers hs (f.depicts_of_validate hg) (f.wellFormed_of_validate hg)
  rw [Job.matched, Job.result, hs]
  dsimp only
  rw [hroute.triggersMatched_eq, hperm.countP_eq]
  rfl

/-- The matches reported are the triggers that match. -/
theorem Course.triggersMatched_eq_due (h : s.Course now src w jobs cs w' report)
    (hgo : ∀ j ∈ jobs, j.error? = none) : report.triggersMatched = s.due src := by
  have hmatched : jobs.map Job.matched = (jobs.map Job.evaluation).map listening := by
    rw [List.map_map]
    exact List.map_congr_left fun j hj => h.matched_eq hj (hgo j hj)
  rw [h.triggersMatched_eq, hmatched, h.map_evaluation, sum_listening_evaluations]

/-- A trigger is entered once in an evaluation for its event, and not at all in any other. -/
theorem Course.count_trace_eq (h : s.Course now src w jobs cs w' report) {j : Job} (hj : j ∈ jobs)
    (hgo : j.error? = none) {n : GraphNode} (hn : n ∈ j.evaluation.graph.nodes)
    {event : TriggerEvent} (hevent : n.kind.triggerEvent? = some event) :
    j.runner.story.trace.count n.id =
      if j.evaluation.payload.triggerEvent = event then 1 else 0 := by
  obtain ⟨f, hg, -⟩ := h.exists_flow hj
  have hd := f.depicts_of_validate hg
  have hf := f.wellFormed_of_validate hg
  have hroute := (h.routes hj).2
  have ht : n.capability = .trigger := by
    rw [GraphNode.capability, ← NodeKind.isSome_triggerEvent?_iff, hevent]
    rfl
  split
  · next hsame =>
    have hlistens : n ∈ j.evaluation.graph.listeners j.evaluation.payload.triggerEvent :=
      FlowGraph.mem_listeners_iff.2 ⟨(hd.mem_roots_iff hf).2 ⟨hn, ht⟩, hsame ▸ hevent⟩
    have hmem := (hroute.closed (Job.error?_eq_none_iff.1 hgo)).1 n hlistens
    exact List.count_eq_one_of_mem (hroute.nodup_trace_of_depicts hd hf) hmem
  · next hother =>
    rw [List.count_eq_zero]
    intro hmem
    obtain ⟨effect, hvisit⟩ := hroute.exists_visit hd hf hn hmem
    have hlistens := (FlowGraph.mem_listeners_iff.1 (hroute.mem_listeners hd hf hvisit ht)).2
    exact hother (Option.some.inj (hlistens.symm.trans hevent))

/-- Over the evaluations of a flow on an item, each trigger is entered once. -/
theorem Course.count_traces_eq_one (h : s.Course now src w jobs cs w' report)
    (hgo : ∀ j ∈ jobs, j.error? = none) {f : Flow} {g : FlowGraph}
    (hg : f.validate s.engine.registry = .ok g) {pairs : List Job} (hpairs : pairs ⊆ jobs)
    {org : String} {item : InventoryItem}
    (hevs : pairs.map Job.evaluation = evaluationsFor org now f g item)
    {n : GraphNode} (hn : n ∈ g.nodes) (ht : n.capability = .trigger) :
    (pairs.flatMap fun j => j.runner.story.trace).count n.id = 1 := by
  have hd := f.depicts_of_validate hg
  have hf := f.wellFormed_of_validate hg
  have hsome := (NodeKind.isSome_triggerEvent?_iff n.kind).2 ht
  obtain ⟨event, hevent⟩ := Option.isSome_iff_exists.1 hsome
  have hlisted : event ∈ f.triggerEvents :=
    (hd.mem_triggerEvents_iff hf).2 ⟨n, (hd.mem_roots_iff hf).2 ⟨hn, ht⟩, hevent⟩
  -- there is an evaluation for each event of the flow, and the trigger listens for one of them
  have hcount : pairs.map (fun j => j.runner.story.trace.count n.id) =
      f.triggerEvents.map fun event' => if event' = event then 1 else 0 := by
    have hgraph : ∀ j ∈ pairs, j.evaluation.graph = g := by
      intro j hj
      have hev : j.evaluation ∈ pairs.map Job.evaluation := List.mem_map_of_mem hj
      rw [hevs, evaluationsFor] at hev
      obtain ⟨event', -, heq⟩ := List.mem_map.1 hev
      rw [← heq]
    have hevents : pairs.map (fun j => j.evaluation.payload.triggerEvent) = f.triggerEvents := by
      have hmap := congrArg (List.map fun ev : Evaluation => ev.payload.triggerEvent) hevs
      rw [evaluationsFor, List.map_map, List.map_map] at hmap
      exact hmap.trans (List.map_id _)
    rw [← hevents, List.map_map]
    refine List.map_congr_left fun j hj => ?_
    exact h.count_trace_eq (hpairs hj) (hgo j (hpairs hj)) (hgraph j hj ▸ hn) hevent
  rw [List.count_flatMap]
  show (pairs.map fun j => j.runner.story.trace.count n.id).sum = 1
  rw [hcount, sum_map_eq, List.count_eq_one_of_mem f.nodup_triggerEvents hlisted]

/-! ## All triggers, once each -/

/-- The evaluations of a flow on an item stand together among those of a tick. -/
theorem infix_evaluations {org : String} (horg : org ∈ s.organizations) {flows : List Flow}
    {items : List InventoryItem} (hload : load src org = .ok (flows, items)) {f : Flow}
    (hflow : f ∈ flows) {g : FlowGraph} (hg : f.validate s.engine.registry = .ok g)
    {item : InventoryItem} (hitem : item ∈ items) :
    evaluationsFor org now f g item <:+: s.evaluations now src := by
  have hpart {α β : Type} {l : List α} {a : α} (ha : a ∈ l) (f : α → List β) :
      f a <:+: l.flatMap f := by
    rw [List.flatMap_def]
    exact List.infix_of_mem_flatten (List.mem_map_of_mem ha)
  have hofFlow : evaluationsFor org now f g item <:+: s.evaluationsIn now org items f := by
    rw [evaluationsIn, hg]
    exact hpart hitem (evaluationsFor org now f g)
  have hofOrg : s.evaluationsIn now org items f <:+: s.evaluationsAt now src org := by
    rw [evaluationsAt, hload]
    exact hpart hflow (s.evaluationsIn now org items)
  exact hofFlow.trans (hofOrg.trans (hpart horg (s.evaluationsAt now src)))

/-- A tick in which no evaluation is broken off reports as many matches as there are triggers that
match, over all valid flows and all items. For each flow and item there are evaluations for all
events of the flow. Their traces have every trigger of the flow exactly once, and none of them says
that no trigger listens. -/
theorem covers_triggers (h : s.Course now src w jobs cs w' report)
    (hgo : ∀ j ∈ jobs, j.error? = none) :
    report.triggersMatched = s.due src ∧
    (∀ org ∈ s.organizations, ∀ flows items, load src org = .ok (flows, items) →
      ∀ f ∈ flows, ∀ g, f.validate s.engine.registry = .ok g → ∀ item ∈ items,
        (∃ pairs, pairs <:+: jobs ∧ pairs.map Job.evaluation = evaluationsFor org now f g item) ∧
        ∀ pairs, pairs ⊆ jobs → pairs.map Job.evaluation = evaluationsFor org now f g item →
          ∀ n ∈ g.nodes, n.capability = .trigger →
            (pairs.flatMap fun j => j.runner.story.trace).count n.id = 1) ∧
    ∀ j ∈ jobs, ∃ r, j.result = .ok r ∧
      ∀ line ∈ r.log, ¬ "No trigger in flow ".toList <+: line.toList := by
  refine ⟨h.triggersMatched_eq_due hgo, ?_, fun j hj => ?_⟩
  · intro org horg flows items hload f hflow g hg item hitem
    refine ⟨?_, fun pairs hpairs hevs n hn ht => h.count_traces_eq_one hgo hg hpairs hevs hn ht⟩
    have hpart : evaluationsFor org now f g item <:+: s.evaluations now src :=
      infix_evaluations horg hload hflow hg hitem
    obtain ⟨before, after, heq⟩ := hpart
    rw [← h.map_evaluation, eq_comm, List.map_eq_append_iff] at heq
    obtain ⟨front, rest, rfl, hfront, -⟩ := heq
    rw [List.map_eq_append_iff] at hfront
    obtain ⟨first, pairs, rfl, -, hpairs⟩ := hfront
    exact ⟨pairs, ⟨first, rest, rfl⟩, hpairs⟩
  · obtain ⟨f, hg, hevent⟩ := h.exists_flow hj
    have hs := Job.error?_eq_none_iff.1 (hgo j hj)
    have hpreface := (f.depicts_of_validate hg).preface_eq_nil (f.wellFormed_of_validate hg) hevent
    rw [Job.result, hs, hpreface]
    refine ⟨_, rfl, Story.not_prefix_of_mem_log fun n effect hn => ?_⟩
    exact (h.routes hj).2.not_isAbort hs hn

end Scheduler

/-! ## A flow with two triggers -/

namespace Example

/-- A flow that warns of what expires soon, and makes a note of what is low. -/
def lookout : Flow :=
  ((({ Flow.empty "flow-lookout" "Lookout" with
      nodes :=
        [node "soon" .expirationTrigger 0 0 [("timeOffset", .ofNat 3)],
          node "low" .inventoryStatusTrigger 0 0 [("status", .string "low_stock")],
          node "warn" .sendNotification 0 0
            [("channel", .string "sms"), ("recipient", .string "555"),
              ("message", .string "use it")],
          node "note" .updateData 0 0
            [("targetField", .string "note"), ("value", .string "buy more")]] }.connect
    "soon" "warn").connect "low" "note").publish .epoch)

/-- A store with the flow and the milk in it. -/
def lookoutSource : FlowSource := ⟨fun _ => .ok [lookout], fun _ => .ok [milk]⟩

end Example

/-- The tick makes two evaluations. One of them asks whether the milk expires soon, which it does,
and the other one whether it is low, which it does not. -/
theorem Scheduler.covers_triggers_lookout :
    let s := Example.minuteScheduler fun _ _ => .atOnce (.answer (.ok ""))
    ∃ jobs cs w' report g,
      s.Course ⟨0, 0⟩ Example.lookoutSource .initial jobs cs w' report ∧
      (∀ j ∈ jobs, j.error? = none) ∧ Example.lookout.validate .builtin = .ok g ∧
      report.triggersMatched = 1 ∧
      ∃ pairs, pairs <:+: jobs ∧ pairs.map Job.evaluation =
          evaluationsFor "kitchen" ⟨0, 0⟩ Example.lookout g Example.milk ∧
        (pairs.flatMap fun j => j.runner.story.trace).count "soon" = 1 ∧
        (pairs.flatMap fun j => j.runner.story.trace).count "low" = 1 := by
  intro s
  obtain ⟨jobs, cs, hcourse, hyields⟩ := s.course_tick ⟨0, 0⟩ Example.lookoutSource .initial
  have hok : (s.tick Example.lookoutSource ⟨0, 0⟩ .initial).results.all
      (·.outcome.result.isOk) = true := by decide +kernel
  have hdue : s.due Example.lookoutSource = 1 := by decide +kernel
  have hgraph : (Example.lookout.validate .builtin).toOption.map (fun g =>
      g.nodes.map fun n => (n.id, n.capability)) =
      some [("soon", .trigger), ("low", .trigger), ("warn", .action), ("note", .enrichment)] := by
    decide +kernel
  obtain ⟨g, hg, hnodes⟩ := Option.map_eq_some_iff.1 hgraph
  have hg := Fallible.toOption_eq_some_iff.1 hg
  have hgo := Job.forall_error?_eq_none hyields hok
  obtain ⟨hmatched, hpairs, -⟩ := covers_triggers hcourse hgo
  obtain ⟨⟨pairs, hpart, hevs⟩, hcount⟩ := hpairs "kitchen" List.mem_cons_self _ _ rfl
    Example.lookout List.mem_cons_self g hg Example.milk List.mem_cons_self
  have honce {id : String} (hid : (id, Capability.trigger) ∈ g.nodes.map fun n =>
      (n.id, n.capability)) : (pairs.flatMap fun j => j.runner.story.trace).count id = 1 := by
    obtain ⟨n, hn, heq⟩ := List.mem_map.1 hid
    obtain ⟨rfl, ht⟩ := Prod.mk.inj heq
    exact hcount pairs hpart.subset hevs n hn ht
  rw [hnodes] at honce
  exact ⟨jobs, cs, _, _, g, hcourse, hgo, hg, hmatched.trans hdue, pairs, hpart, hevs,
    honce (by decide), honce (by decide)⟩

end KitchenFlow
