import KitchenFlow.Proofs.Run.Calls
import KitchenFlow.Proofs.Run.Once
import KitchenFlow.Proofs.Run.Triggers

/-!
# One story

A run leaves several records: the events that it tells, its counts, its log, its trace, and the
calls that the world has noted. Each of them is kept by itself, and written to in many places. Still
none says what another does not, since all of them are views of the story of the run
(`run_eq_outcome`). What is said here of stories holds of the records for this reason only.

    FollowEntries               what is told of a node is told right after the node is entered
    Story.filter_events         nothing else is told of a node that is entered once
    RunStats.Counts             the counts are the numbers of events of four types
    Story.length_log            two lines for each node entered and one for each refusal
    Performs                    the calls, node by node
    Flow.run_tells_one_story    all of this about a run that returns
-/

namespace KitchenFlow

/-! ## Events of a story -/

namespace RunEvent

/-- The node that is entered. -/
def entered? : RunEvent → Option String
  | .nodeEntered id _ => some id
  | .runStarted .. | .demoFallback .. | .actionDispatched _ | .actionFailed .. | .actionSkipped _
    | .runCompleted .. => none

/-- The node whose action or recipe the event is about. -/
def about? : RunEvent → Option String
  | .demoFallback id _ | .actionDispatched id | .actionFailed id _ | .actionSkipped id => some id
  | .runStarted .. | .nodeEntered .. | .runCompleted .. => none

/-- Whether a run as a whole starts or ends. -/
def isFrame (v : RunEvent) : Bool := v.type = .runStarted || v.type = .runCompleted

/-- What is about a node comes right after the entry of the node. -/
def FollowEntries (events : List RunEvent) : Prop :=
  ∀ before v after id, events = before ++ v :: after → v.about? = some id →
    ∃ front kind, before = front ++ [.nodeEntered id kind]

theorem followEntries_nil : FollowEntries [] := by
  intro before v after id h
  simp at h

theorem followEntries_singleton {v : RunEvent} (h : v.about? = none) : FollowEntries [v] := by
  intro before v' after id heq hid
  have hmem : v' ∈ [v] := heq ▸ List.mem_append_right _ List.mem_cons_self
  rw [List.mem_singleton.1 hmem, h] at hid
  cases hid

theorem FollowEntries.append {events more : List RunEvent} (h : FollowEntries events)
    (h' : FollowEntries more) : FollowEntries (events ++ more) := by
  intro before v after id heq hid
  rcases List.append_eq_append_iff.1 heq with ⟨rest, rfl, hmore⟩ | ⟨rest, hevents, hmore⟩
  · obtain ⟨front, kind, rfl⟩ := h' rest v after id hmore hid
    exact ⟨events ++ front, kind, (List.append_assoc ..).symm⟩
  · cases rest with
    | nil =>
      -- the second list would have to begin with an event that follows an entry
      obtain ⟨front, kind, hnil⟩ := h' [] v after id hmore.symm hid
      simp at hnil
    | cons v' rest =>
      obtain ⟨rfl, rfl⟩ := List.cons.inj hmore
      exact h before v rest id hevents hid

end RunEvent

open RunEvent

/-- What is told of an effect is about its node. -/
theorem NodeEffect.about?_of_event? {effect : NodeEffect} {id : String} {v : RunEvent}
    (h : effect.event? id = some v) :
    v.about? = some id ∧ v.entered? = none ∧ v.isFrame = false := by
  cases effect with
  | acted d i o =>
    cases o <;> cases h <;> exact ⟨rfl, rfl, rfl⟩
  | suggested i recipe source =>
    cases source <;> cases h
    exact ⟨rfl, rfl, rfl⟩
  | asked | branched | wrote | aborted => cases h

theorem Moment.followEntries_events (m : Moment) : FollowEntries m.events := by
  cases m with
  | refusal id => exact followEntries_nil
  | visit n effect =>
    cases hv : effect.event? n.id with
    | none =>
      rw [events, hv]
      exact followEntries_singleton rfl
    | some v =>
      obtain ⟨habout, -⟩ := NodeEffect.about?_of_event? hv
      rw [events, hv]
      intro before v' after id heq hid
      rcases before with _ | ⟨entry, _ | ⟨more, rest⟩⟩
      · cases heq
        cases hid
      · cases heq
        cases habout.symm.trans hid
        exact ⟨[], n.kind, rfl⟩
      · simp at heq

namespace Story

variable {s : Story}

theorem followEntries_events (s : Story) : FollowEntries s.events := by
  induction s with
  | nil => exact followEntries_nil
  | cons m s ih => exact m.followEntries_events.append ih

theorem filterMap_entered?_events (s : Story) : s.events.filterMap RunEvent.entered? = s.trace := by
  induction s with
  | nil => rfl
  | cons m s ih =>
    rw [events, List.flatMap_cons, List.filterMap_append, ← events, ih]
    cases m with
    | refusal id => rfl
    | visit n effect =>
      rw [trace_visit]
      have hentry : (RunEvent.nodeEntered n.id n.kind).entered? = some n.id := rfl
      cases hv : effect.event? n.id with
      | none => simp [Moment.events, hv, hentry]
      | some v => simp [Moment.events, hv, hentry, NodeEffect.about?_of_event? hv]

/-- A story does not tell that the run starts or ends. -/
theorem isFrame_of_mem_events {v : RunEvent} (h : v ∈ s.events) : v.isFrame = false := by
  obtain ⟨m, -, hv⟩ := List.mem_flatMap.1 h
  cases m with
  | refusal id => cases hv
  | visit n effect =>
    rcases List.mem_cons.1 hv with rfl | hv
    · rfl
    · exact (NodeEffect.about?_of_event? (Option.mem_toList.1 hv)).2.2

/-- What is told at a node is about this node only. -/
theorem filter_visit (n : GraphNode) (effect : NodeEffect) (id : String) :
    (Moment.visit n effect).events.filter (·.about? = some id) =
      if n.id = id then (effect.event? n.id).toList else [] := by
  have hentry : (RunEvent.nodeEntered n.id n.kind).about? = none := rfl
  cases hv : effect.event? n.id with
  | none => simp [Moment.events, hv, hentry]
  | some v => simp [Moment.events, hv, hentry, NodeEffect.about?_of_event? hv, List.filter_cons]

theorem filter_cons (m : Moment) (s : Story) (id : String) :
    (events (m :: s)).filter (·.about? = some id) =
      m.events.filter (·.about? = some id) ++ s.events.filter (·.about? = some id) := by
  rw [events, List.flatMap_cons, List.filter_append]
  rfl

theorem filter_events_of_notMem {id : String} (h : id ∉ s.trace) :
    s.events.filter (·.about? = some id) = [] := by
  induction s with
  | nil => rfl
  | cons m s ih =>
    rw [filter_cons]
    cases m with
    | refusal _ => exact ih h
    | visit n effect =>
      rw [trace_visit, List.mem_cons, not_or] at h
      rw [filter_visit, if_neg (Ne.symm h.1), ih h.2]
      rfl

/-- All that a story tells about a node that it enters once is what it tells of the visit. -/
theorem filter_events (hnd : s.trace.Nodup) {n : GraphNode} {effect : NodeEffect}
    (hn : .visit n effect ∈ s) :
    s.events.filter (·.about? = some n.id) = (effect.event? n.id).toList := by
  induction s with
  | nil => cases hn
  | cons m s ih =>
    rw [filter_cons]
    cases m with
    | refusal id => exact ih hnd (by simpa using hn)
    | visit n' effect' =>
      obtain ⟨hnot, hnd⟩ := List.nodup_cons.1 hnd
      rw [filter_visit]
      rcases List.mem_cons.1 hn with hn | hn
      · cases hn
        rw [if_pos rfl, filter_events_of_notMem hnot, List.append_nil]
      · have hne : n'.id ≠ n.id := fun heq => hnot (heq ▸ mem_trace_iff.2 ⟨n, effect, hn, rfl⟩)
        rw [if_neg hne, ih hnd hn]
        rfl

/-- What a story tells about a node that it enters once is told of the visit. -/
theorem event?_of_mem_events (hnd : s.trace.Nodup) {n : GraphNode} {effect : NodeEffect}
    (hn : .visit n effect ∈ s) {v : RunEvent} (hv : v ∈ s.events) (habout : v.about? = some n.id) :
    effect.event? n.id = some v := by
  rw [← Option.mem_toList, ← filter_events hnd hn]
  exact List.mem_filter.2 ⟨hv, by simpa using habout⟩

end Story

/-- The events that there can be about a node, by what is done at it. -/
theorem NodeTask.ComesTo.event? {e : Engine} {item : InventoryItem} {task : NodeTask}
    {effect : NodeEffect} (h : task.ComesTo e item effect) (hgo : effect.isAbort = false)
    (id : String) :
    ((∃ a, task = .act a) → ∃ o, effect.event? id = some (NodeEffect.actionEvent id o)) ∧
    ((∃ c, task = .suggest c) →
      effect.event? id = none ∨ ∃ reason, effect.event? id = some (.demoFallback id reason)) ∧
    ((∀ a, task ≠ .act a) → (∀ c, task ≠ .suggest c) → effect.event? id = none) := by
  cases h with
  | expiry | status | choose | write =>
    refine ⟨?_, ?_, fun _ _ => rfl⟩
    · rintro ⟨_, h⟩
      cases h
    · rintro ⟨_, h⟩
      cases h
  | @suggest c recipe source =>
    refine ⟨?_, fun _ => ?_, fun _ hno => (hno c rfl).elim⟩
    · rintro ⟨_, h⟩
      cases h
    · cases source with
      | ai => exact .inl rfl
      | demo reason => exact .inr ⟨reason, rfl⟩
  | @skip a | @rehearse a | @send a | @lack a | @fail a =>
    refine ⟨fun _ => ⟨_, rfl⟩, ?_, fun hno => (hno a rfl).elim⟩
    rintro ⟨_, h⟩
    cases h
  | crash | breakdown => cases hgo

/-! ## Counts and lines -/

/-- Four counts are the numbers of the events that go with them. -/
structure RunStats.Counts (st : RunStats) (events : List RunEvent) : Prop where
  dispatched : st.actionsDispatched = events.countP (·.type = .actionDispatched)
  failed : st.actionsFailed = events.countP (·.type = .actionFailed)
  skipped : st.duplicatesSkipped = events.countP (·.type = .actionSkipped)
  demos : st.demoFallbacks = events.countP (·.type = .demoFallback)

namespace RunStats.Counts

variable {st : RunStats} {events : List RunEvent}

theorem none : RunStats.none.Counts [] := ⟨rfl, rfl, rfl, rfl⟩

theorem append_other (h : st.Counts events) {v : RunEvent} (hv : v.about? = .none) :
    st.Counts (events ++ [v]) := by
  obtain ⟨h₁, h₂, h₃, h₄⟩ := h
  cases v with
  | runStarted | nodeEntered | runCompleted =>
    constructor <;> simp [List.countP_append, RunEvent.type, *]
  | demoFallback | actionDispatched | actionFailed | actionSkipped => cases hv

/-- An effect is counted as it is told. -/
theorem append_effect (h : st.Counts events) (effect : NodeEffect) (id : String) :
    (effect.count st).Counts (events ++ (effect.event? id).toList) := by
  obtain ⟨h₁, h₂, h₃, h₄⟩ := h
  cases effect with
  | asked b i name =>
    cases b <;> constructor <;> simp [NodeEffect.count, NodeEffect.event?, *]
  | suggested i recipe source =>
    cases source <;> constructor <;>
      simp [NodeEffect.count, NodeEffect.event?, List.countP_append, RunEvent.type, *]
  | acted d i o =>
    cases o <;> constructor <;> simp [NodeEffect.count, NodeEffect.event?, NodeEffect.actionEvent,
      List.countP_append, RunEvent.type, *]
  | branched | wrote | aborted =>
    constructor <;> simp [NodeEffect.count, NodeEffect.event?, *]

theorem append_moment (h : st.Counts events) (m : Moment) :
    (m.count st).Counts (events ++ m.events) := by
  cases m with
  | refusal id => simpa [Moment.count, Moment.events] using h
  | visit n effect =>
    have hentry := (h.append_other (v := .nodeEntered n.id n.kind) rfl).append_effect effect n.id
    rwa [List.append_assoc] at hentry

theorem append_story (h : st.Counts events) (s : Story) :
    (s.foldl Moment.count st).Counts (events ++ s.events) := by
  induction s generalizing st events with
  | nil => simpa [Story.events] using h
  | cons m s ih =>
    have hrest := ih (h.append_moment m)
    rwa [List.append_assoc] at hrest

end RunStats.Counts

/-- Whether a node was come to again and not entered. -/
def Moment.isRefusal : Moment → Bool
  | .visit .. => false
  | .refusal _ => true

/-- There are two lines for each node entered, and one for each refusal. -/
theorem Story.length_log (s : Story) :
    s.log.length = 2 * s.trace.length + s.countP Moment.isRefusal := by
  induction s with
  | nil => rfl
  | cons m s ih =>
    rw [log, List.flatMap_cons, List.length_append, ← log, ih, List.countP_cons]
    cases m with
    | visit n effect =>
      rw [trace_visit, List.length_cons]
      simp only [Moment.lines, Moment.isRefusal, List.length_cons, List.length_nil,
        Bool.false_eq_true, if_false]
      omega
    | refusal id =>
      simp only [trace_refusal, Moment.lines, Moment.isRefusal, List.length_cons, List.length_nil,
        if_true]
      omega

/-! ## Calls, node by node -/

/-- The effects of a story are those that its nodes come to, and each node makes its calls. -/
inductive Performs (e : Engine) (x : RunContext) :
    Payload → World → Story → List (GraphNode × List Call) → World → Prop where
  | nil {p w} : Performs e x p w [] [] w
  | refusal {p w id s made w'} : Performs e x p w s made w' →
      Performs e x p w (.refusal id :: s) made w'
  | visit {p w n effect calls w₁ s made w'} : n.config.task.step e x n.id p w = (effect, w₁) →
      w₁.calls = w.calls ++ calls → Performs e x (effect.apply p) w₁ s made w' →
      Performs e x p w (.visit n effect :: s) ((n, calls) :: made) w'

theorem NodeTask.exists_calls (e : Engine) (x : RunContext) (id : String) (p : Payload) (w : World)
    (task : NodeTask) : ∃ calls, (task.step e x id p w).2.calls = w.calls ++ calls := by
  by_cases hact : ∃ a, task = .act a
  · obtain ⟨a, rfl⟩ := hact
    obtain ⟨calls, hcalls, -⟩ := step_makes e x id p a w
    exact ⟨calls, hcalls⟩
  · obtain ⟨calls, hcalls, -⟩ := step_calls (not_exists.1 hact) e x id p w
    exact ⟨calls, hcalls⟩

variable {e : Engine} {x : RunContext} {p : Payload} {w w' : World} {s : Story}
  {made : List (GraphNode × List Call)}

theorem Unfolds.exists_performs (h : Unfolds e x p w s w') :
    ∃ made, Performs e x p w s made w' := by
  induction h with
  | nil => exact ⟨[], .nil⟩
  | refusal _ ih =>
    obtain ⟨made, hmade⟩ := ih
    exact ⟨made, .refusal hmade⟩
  | @visit p w n effect w₁ s w' hstep _ ih =>
    obtain ⟨made, hmade⟩ := ih
    obtain ⟨calls, hcalls⟩ := NodeTask.exists_calls e x n.id p w n.config.task
    rw [hstep] at hcalls
    exact ⟨(n, calls) :: made, .visit hstep hcalls hmade⟩

namespace Performs

/-- The calls of the nodes are all calls there are. -/
theorem calls_eq (h : Performs e x p w s made w') :
    w'.calls = w.calls ++ made.flatMap Prod.snd := by
  induction h with
  | nil => exact (List.append_nil _).symm
  | refusal _ ih => exact ih
  | visit _ hcalls _ ih => rw [ih, hcalls, List.flatMap_cons, List.append_assoc]

theorem map_id (h : Performs e x p w s made w') : made.map (·.1.id) = s.trace := by
  induction h with
  | nil => rfl
  | refusal _ ih => exact ih
  | visit _ _ _ ih => rw [List.map_cons, ih, Story.trace_visit]

/-- The calls of an action go with its effect. -/
theorem makes (h : Performs e x p w s made w') {n : GraphNode} {calls : List Call}
    (hn : (n, calls) ∈ made) :
    ∃ effect, .visit n effect ∈ s ∧ ∀ a, n.config.task = .act a → a.Makes effect calls := by
  induction h with
  | nil => cases hn
  | refusal _ ih =>
    obtain ⟨effect, hmem, hmakes⟩ := ih hn
    exact ⟨effect, List.mem_cons_of_mem _ hmem, hmakes⟩
  | @visit p w n' effect calls' w₁ s made w' hstep hcalls _ ih =>
    rcases List.mem_cons.1 hn with hn | hn
    · cases hn
      refine ⟨effect, List.mem_cons_self, fun a ha => ?_⟩
      obtain ⟨new, hnew, hmakes⟩ := NodeTask.step_makes e x n.id p a w
      rw [ha] at hstep
      rw [hstep] at hnew hmakes
      obtain rfl := List.append_cancel_left (hcalls.symm.trans hnew)
      exact hmakes
    · obtain ⟨effect', hmem, hmakes⟩ := ih hn
      exact ⟨effect', List.mem_cons_of_mem _ hmem, hmakes⟩

end Performs

/-! ## What a run tells -/

variable {f : Flow} {r : Registry} {g : FlowGraph}

/-- One line goes before those of the story if no trigger of the flow listens for the event. -/
theorem FlowGraph.Depicts.length_preface (hd : g.Depicts r f) (hf : f.WellFormed r)
    (event : TriggerEvent) :
    (g.preface event).length = if event ∈ f.triggerEvents then 0 else 1 := by
  split
  · next h => rw [hd.preface_eq_nil hf h, List.length_nil]
  · next h =>
    have hnone : g.listeners event = [] := by
      refine List.eq_nil_iff_forall_not_mem.2 fun n hn => h ?_
      obtain ⟨hroot, hlisten⟩ := FlowGraph.mem_listeners_iff.1 hn
      exact (hd.mem_triggerEvents_iff hf).2 ⟨n, hroot, hlisten⟩
    simp [FlowGraph.preface, hnone]

theorem GraphNode.kind_eq_generateRecipe_iff {n : GraphNode} :
    n.kind = .generateRecipe ↔ ∃ c, n.config.task = .suggest c := by
  obtain ⟨id, config⟩ := n
  cases config <;> simp [GraphNode.kind, NodeConfig.kind, NodeConfig.task]

/-- The calls of an action go with what is told of it. -/
theorem Action.Makes.of_event? {a : Action} {effect : NodeEffect} {calls : List Call}
    (h : a.Makes effect calls) {id : String} {v : RunEvent} (hv : effect.event? id = some v) :
    (v.type = .actionDispatched ∨ v.type = .actionFailed →
      ∃ c, c.service = a.service ∧ calls = [c]) ∧ (v.type = .actionSkipped → calls = []) := by
  cases h with
  | send hservice | fail hservice =>
    cases hv
    exact ⟨fun _ => ⟨_, hservice, rfl⟩, by simp [NodeEffect.actionEvent, RunEvent.type]⟩
  | skip | lack | decline =>
    cases hv
    simp [NodeEffect.actionEvent, RunEvent.type]
  | breakdown => cases hv

namespace Routes

variable {item : InventoryItem} {event : TriggerEvent} {n : GraphNode}

/-- What a story tells of a node that it enters, by what the node is. -/
theorem told (h : Routes g e item (g.listeners event) [] [] s) (hgo : s.abort? = none)
    (hd : g.Depicts r f) (hf : f.WellFormed r) (hn : n ∈ g.nodes) (hid : n.id ∈ s.trace) :
    let told := s.events.filter (·.about? = some n.id)
    (n.capability = .action → ∃ o, told = [NodeEffect.actionEvent n.id o]) ∧
    (n.kind = .generateRecipe → told = [] ∨ ∃ reason, told = [.demoFallback n.id reason]) ∧
    (n.capability ≠ .action → n.kind ≠ .generateRecipe → told = []) := by
  intro told
  obtain ⟨effect, hvisit⟩ := h.exists_visit hd hf hn hid
  have htold : told = (effect.event? n.id).toList :=
    Story.filter_events (h.nodup_trace_of_depicts hd hf) hvisit
  obtain ⟨hact, hsuggest, hnone⟩ :=
    (h.comesTo n effect hvisit).event? (h.not_isAbort hgo hvisit) n.id
  rw [← GraphNode.capability_eq_action_iff] at hact
  rw [← GraphNode.kind_eq_generateRecipe_iff] at hsuggest
  rw [← not_exists, ← GraphNode.capability_eq_action_iff, ← not_exists,
    ← GraphNode.kind_eq_generateRecipe_iff] at hnone
  rw [htold]
  refine ⟨fun h => ?_, fun h => ?_, fun h h' => ?_⟩
  · obtain ⟨o, ho⟩ := hact h
    exact ⟨o, by rw [ho, Option.toList_some]⟩
  · rcases hsuggest h with hv | ⟨reason, hv⟩
    · exact .inl (by rw [hv, Option.toList_none])
    · exact .inr ⟨reason, by rw [hv, Option.toList_some]⟩
  · rw [hnone h h', Option.toList_none]

/-- What is told of a node, other than that something was a demo, is told of an action. The calls
of the action go with it. -/
theorem makes_of_told (h : Routes g e item (g.listeners event) [] [] s) (hnd : s.trace.Nodup)
    (hmade : Performs e x p w s made w') {calls : List Call} (hn : (n, calls) ∈ made)
    {v : RunEvent} (hv : v ∈ s.events) (habout : v.about? = some n.id)
    (htype : v.type ≠ .demoFallback) :
    ∃ a effect, n.config.task = .act a ∧ a.Makes effect calls ∧ effect.event? n.id = some v := by
  obtain ⟨effect, hvisit, hmakes⟩ := hmade.makes hn
  have hevent := Story.event?_of_mem_events hnd hvisit hv habout
  obtain ⟨a, ha⟩ : ∃ a, n.config.task = .act a := by
    cases effect with
    | acted d i o => exact (h.comesTo n _ hvisit).exists_act rfl
    | suggested i recipe source =>
      cases source <;> cases hevent
      exact (htype rfl).elim
    | asked | branched | wrote | aborted => cases hevent
  exact ⟨a, effect, ha, hmakes a ha, hevent⟩

/-- An action that is told to be carried out or failed has made one call. -/
theorem makes_one (h : Routes g e item (g.listeners event) [] [] s) (hnd : s.trace.Nodup)
    (hmade : Performs e x p w s made w') {calls : List Call} (hn : (n, calls) ∈ made)
    {v : RunEvent} (hv : v ∈ s.events) (habout : v.about? = some n.id)
    (htype : v.type = .actionDispatched ∨ v.type = .actionFailed) :
    ∃ a c, n.config.task = .act a ∧ c.service = a.service ∧ calls = [c] := by
  have hdemo : v.type ≠ .demoFallback := by rcases htype with h | h <;> simp [h]
  obtain ⟨a, effect, ha, hmakes, hevent⟩ := h.makes_of_told hnd hmade hn hv habout hdemo
  obtain ⟨c, hservice, hcalls⟩ := (hmakes.of_event? hevent).1 htype
  exact ⟨a, c, ha, hservice, hcalls⟩

/-- An action that is told to be skipped has made no call. -/
theorem makes_none (h : Routes g e item (g.listeners event) [] [] s) (hnd : s.trace.Nodup)
    (hmade : Performs e x p w s made w') {calls : List Call} (hn : (n, calls) ∈ made)
    (hv : .actionSkipped n.id ∈ s.events) : calls = [] := by
  obtain ⟨a, effect, -, hmakes, hevent⟩ :=
    h.makes_of_told hnd hmade hn hv rfl (by simp [RunEvent.type])
  exact (hmakes.of_event? hevent).2 rfl

end Routes

/-- What is about a node is told between the start and the end. -/
theorem RunEvent.mem_of_about? {events : List RunEvent} {flowId id : String} {t : TriggerEvent}
    {mode : RunMode} {visited ms : Nat} {v : RunEvent}
    (hv : v ∈ .runStarted flowId t mode :: events ++ [.runCompleted visited ms])
    (habout : v.about? = some id) : v ∈ events := by
  rcases List.mem_append.1 hv with hv | hv
  · rcases List.mem_cons.1 hv with rfl | hv
    · cases habout
    · exact hv
  · cases List.mem_singleton.1 hv
    cases habout

/-- The events, the counts, the log, the trace and the calls of a run that returns, each kept by
itself, tell one story: that of the walk of the run. -/
theorem Flow.run_tells_one_story (hg : f.validate r = .ok g) (e : Engine) (mode : RunMode)
    (guard : Option Guard) (p : Payload) (w : World) {res : RunResult}
    (h : (g.run e mode guard p w).result = .ok res) :
    let x : RunContext := ⟨g.flowId, mode, guard⟩
    let story := (g.walkAll e x (g.listeners p.triggerEvent) p w).1
    let events := (g.run e mode guard p w).events
    let after := (g.run e mode guard p w).world
    let told (n : GraphNode) := events.filter (·.about? = some n.id)
    -- the events begin with a start and end with a completion, and there is no other of either
    (∃ between ms, events = .runStarted g.flowId p.triggerEvent mode :: between ++
        [.runCompleted res.trace.length ms] ∧
      ∀ v ∈ between, v.type ≠ .runStarted ∧ v.type ≠ .runCompleted) ∧
    -- the nodes entered are the trace, and whatever is about a node comes right after its entry
    events.filterMap RunEvent.entered? = res.trace ∧
    RunEvent.FollowEntries events ∧
    -- one thing is told of each action entered, at most one of each recipe, and nothing of others
    (∀ n ∈ g.nodes, n.id ∈ res.trace →
      (n.capability = .action → ∃ o, told n = [NodeEffect.actionEvent n.id o]) ∧
      (n.kind = .generateRecipe → told n = [] ∨ ∃ reason, told n = [.demoFallback n.id reason]) ∧
      (n.capability ≠ .action → n.kind ≠ .generateRecipe → told n = [])) ∧
    res.stats.Counts events ∧
    -- an action carried out or failed has made one call to its collaborator, and one skipped none
    (∃ made, Performs e x p w story made after ∧ made.map (·.1.id) = res.trace ∧
      after.calls = w.calls ++ made.flatMap Prod.snd ∧
      ∀ n calls, (n, calls) ∈ made →
        (RunEvent.actionDispatched n.id ∈ events ∨ (∃ m, RunEvent.actionFailed n.id m ∈ events) →
          ∃ a c, n.config.task = .act a ∧ c.service = a.service ∧ calls = [c]) ∧
        (RunEvent.actionSkipped n.id ∈ events → calls = [])) ∧
    -- the log has two lines for each node entered, one for each that the walk comes to again, and
    -- one if no trigger listens
    res.log.length = 2 * res.trace.length + story.countP Moment.isRefusal +
      if p.triggerEvent ∈ f.triggerEvents then 0 else 1 := by
  intro x story events after told
  have hd := f.depicts_of_validate hg
  have hf := f.wellFormed_of_validate hg
  -- the run as its story has it
  have hgo := FlowGraph.abort?_of_result_eq_ok h
  have hwalk := walksAll_walkAll g e x (g.listeners p.triggerEvent) p w
  rcases hs : g.walkAll e x (g.listeners p.triggerEvent) p w with ⟨s, w'⟩
  rw [hs] at hgo hwalk
  have hrun := FlowGraph.run_of_abort?_eq_none hs hgo
  have hstory : story = s := congrArg Prod.fst hs
  have hevents : events = .runStarted g.flowId p.triggerEvent mode :: s.events ++
      [.runCompleted s.trace.length (w'.clock - w.clock)] := congrArg RunOutcome.events hrun
  have hafter : after = w' := congrArg RunOutcome.world hrun
  rw [hrun] at h
  obtain rfl := Except.ok.inj h
  have hroutes := hwalk.routes
  have hnd := hroutes.nodup_trace_of_depicts hd hf
  have hmem {v : RunEvent} {id : String} (hv : v ∈ events) (habout : v.about? = some id) :
      v ∈ s.events := RunEvent.mem_of_about? (hevents ▸ hv) habout
  refine ⟨⟨s.events, _, hevents, fun v hv => ?_⟩, ?_, ?_, fun n hn hid => ?_, ?_, ?_, ?_⟩
  · simpa [RunEvent.isFrame] using Story.isFrame_of_mem_events hv
  · rw [hevents, List.filterMap_append, List.filterMap_cons_none rfl,
      Story.filterMap_entered?_events]
    exact List.append_nil _
  · rw [hevents]
    have hstart : FollowEntries [.runStarted g.flowId p.triggerEvent mode] :=
      followEntries_singleton rfl
    exact (hstart.append s.followEntries_events).append (followEntries_singleton rfl)
  · have hframe : told n = s.events.filter (·.about? = some n.id) := by
      simp [told, hevents, RunEvent.about?]
    rw [hframe]
    exact hroutes.told hgo hd hf hn hid
  · rw [hevents]
    have hstart := RunStats.Counts.none.append_other
      (v := .runStarted g.flowId p.triggerEvent mode) rfl
    exact (hstart.append_story s).append_other rfl
  · obtain ⟨made, hmade⟩ := hwalk.unfolds.exists_performs
    refine ⟨made, ?_, hmade.map_id, ?_, fun n calls hn => ⟨?_, fun hv => ?_⟩⟩
    · rwa [hstory, hafter]
    · rw [hafter, hmade.calls_eq]
    · rintro (hv | ⟨m, hv⟩)
      · exact hroutes.makes_one hnd hmade hn (hmem hv rfl) rfl (.inl rfl)
      · exact hroutes.makes_one hnd hmade hn (hmem hv rfl) rfl (.inr rfl)
    · exact hroutes.makes_none hnd hmade hn (hmem hv rfl)
  · rw [hstory, List.length_append, hd.length_preface hf, Story.length_log, Nat.add_comm]

/-- The example tells its story on milk: four nodes are entered, one after the other, and each is
noted in two lines. -/
theorem Flow.run_tells_one_story_milk : ∃ g res,
    (Example.flow .epoch).validate .builtin = .ok g ∧
    (g.run Example.engine .live (some Example.minuteGuard) Example.milkPayload .initial).result
      = .ok res ∧
    (g.run Example.engine .live (some Example.minuteGuard) Example.milkPayload
      .initial).events.filterMap RunEvent.entered? =
        ["trigger-1", "cond-1", "recipe-1", "notify-1"] ∧
    (g.run Example.engine .live (some Example.minuteGuard) Example.milkPayload
      .initial).events.countP (·.type = .actionDispatched) = 1 := by
  obtain ⟨g, res, hg, hres, htrace, hcount⟩ := Example.exists_milk_run
  obtain ⟨-, hentered, -, -, hcounts, -⟩ := Flow.run_tells_one_story hg Example.engine .live
    (some Example.minuteGuard) Example.milkPayload .initial hres
  exact ⟨g, res, hg, hres, hentered.trans htrace, hcounts.dispatched.symm.trans hcount⟩

end KitchenFlow
