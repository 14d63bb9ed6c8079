import KitchenFlow.Proofs.Graph.Depiction
import KitchenFlow.Proofs.Run.Narration

/-!
# The triggers of a flow

Which events a flow listens for is read off the names of its nodes, whether or not the flow is
valid. Which nodes a run on an event begins at is read off the graph. In a valid flow the two agree:
every trigger is a root, and it is among the listeners of exactly one of the events of the flow. A
run that is not broken off asks each of its listeners once, and no other trigger:

    Depicts.mem_triggerEvents_iff   the events of a flow are those that some root listens for
    Depicts.perm_roots              its roots are its listeners, event by event
    Routes.perm_triggers            the triggers that a run enters are the listeners

That no trigger listens is said before the walk begins, and no line of a story looks like it.
-/

namespace KitchenFlow

/-! ## The events of a flow -/

theorem Flow.foldl_insert {α : Type} [BEq α] [LawfulBEq α] (l : List α) {events : List α}
    (hnd : events.Nodup) :
    (l.foldl (fun events e => if events.contains e then events else events ++ [e]) events).Nodup ∧
    ∀ x, x ∈ l.foldl (fun events e => if events.contains e then events else events ++ [e]) events ↔
      x ∈ events ∨ x ∈ l := by
  induction l generalizing events with
  | nil => simp [hnd]
  | cons e l ih =>
    rw [List.foldl_cons]
    by_cases he : e ∈ events
    · rw [if_pos (List.contains_iff_mem.2 he)]
      obtain ⟨hnodup, hmem⟩ := ih hnd
      refine ⟨hnodup, fun x => ?_⟩
      rw [hmem, List.mem_cons]
      constructor
      · exact Or.imp_right Or.inr
      · rintro (hx | rfl | hx)
        exacts [.inl hx, .inl he, .inr hx]
    · rw [if_neg (mt List.contains_iff_mem.1 he)]
      have hnd' : (events ++ [e]).Nodup := by
        refine List.nodup_append'.2 ⟨hnd, List.nodup_singleton e, ?_⟩
        simpa using he
      obtain ⟨hnodup, hmem⟩ := ih hnd'
      refine ⟨hnodup, fun x => ?_⟩
      rw [hmem, List.mem_append, List.mem_singleton, List.mem_cons, or_assoc]

/-- Each event is listed once. -/
theorem Flow.nodup_triggerEvents (f : Flow) : f.triggerEvents.Nodup :=
  (Flow.foldl_insert _ .nil).1

theorem Flow.mem_triggerEvents_iff {f : Flow} {event : TriggerEvent} :
    event ∈ f.triggerEvents ↔ ∃ n ∈ f.nodes, eventOf? n = some event := by
  rw [triggerEvents, (Flow.foldl_insert _ .nil).2, List.mem_filterMap]
  simp

/-- A node of a known kind listens for what its kind responds to. -/
theorem NodeSpec.IsKind.eventOf? {r : Registry} {n : NodeSpec} {k : NodeKind} (h : n.IsKind r k) :
    Flow.eventOf? n = k.triggerEvent? := by
  rw [Flow.eventOf?, ← h.1, NodeKind.ofName?_name]
  rfl

/-! ## The roots of a graph -/

namespace FlowGraph

variable {g : FlowGraph} {r : Registry} {f : Flow}

/-- A run that goes on does not come to a trigger. -/
theorem Depicts.not_trigger_of_mem_follow (h : g.Depicts r f) (hf : f.WellFormed r) {m : GraphNode}
    {id : String} {next : Next} (hm : m ∈ g.follow id next) : m.capability ≠ .trigger := by
  intro ht
  obtain ⟨hnode, harrow⟩ := mem_follow hm
  exact h.not_arrow hf hnode ht id harrow

/-- The events of a flow are those that some root listens for. -/
theorem Depicts.mem_triggerEvents_iff (h : g.Depicts r f) (hf : f.WellFormed r)
    {event : TriggerEvent} :
    event ∈ f.triggerEvents ↔ ∃ n ∈ g.roots, n.kind.triggerEvent? = some event := by
  rw [Flow.mem_triggerEvents_iff]
  constructor
  · rintro ⟨spec, hspec, hevent⟩
    -- the node of the graph that has the id of the specified one is made of it
    have hid : spec.id ∈ g.nodes.map GraphNode.id := h.nodeIds ▸ List.mem_map_of_mem hspec
    obtain ⟨n, hn, hid⟩ := List.mem_map.1 hid
    obtain ⟨spec', hspec', hid', hkind⟩ := h.kinds n hn
    obtain rfl : spec' = spec :=
      List.inj_on_of_nodup_map hf.distinct hspec' hspec (hid'.trans hid)
    rw [hkind.eventOf?] at hevent
    have ht : n.capability = .trigger := by
      rw [GraphNode.capability, ← NodeKind.isSome_triggerEvent?_iff, hevent]
      rfl
    exact ⟨n, (h.mem_roots_iff hf).2 ⟨hn, ht⟩, hevent⟩
  · rintro ⟨n, hn, hevent⟩
    obtain ⟨spec, hspec, -, hkind⟩ := h.kinds n (mem_roots hn).1
    exact ⟨spec, hspec, hkind.eventOf?.trans hevent⟩

/-- For every event of a flow there is a root that listens for it. -/
theorem Depicts.preface_eq_nil (h : g.Depicts r f) (hf : f.WellFormed r) {event : TriggerEvent}
    (hevent : event ∈ f.triggerEvents) : g.preface event = [] := by
  obtain ⟨n, hn, hlisten⟩ := (h.mem_triggerEvents_iff hf).1 hevent
  have hmem : n ∈ g.listeners event := mem_listeners_iff.2 ⟨hn, hlisten⟩
  rw [preface, if_neg]
  intro hempty
  rw [List.isEmpty_iff] at hempty
  rw [hempty] at hmem
  cases hmem

/-- A graph has each root once. -/
theorem Depicts.nodup_roots (h : g.Depicts r f) (hf : f.WellFormed r) : g.roots.Nodup :=
  (List.Nodup.of_map _ (h.nodup hf)).sublist List.filter_sublist

/-- The roots are the listeners of one event or another, and of one only. -/
theorem Depicts.perm_roots (h : g.Depicts r f) (hf : f.WellFormed r) :
    (f.triggerEvents.flatMap g.listeners).Perm g.roots := by
  have hnd : (f.triggerEvents.flatMap g.listeners).Nodup := by
    rw [List.nodup_flatMap]
    refine ⟨fun event _ => (h.nodup_roots hf).sublist List.filter_sublist, ?_⟩
    refine f.nodup_triggerEvents.imp fun hne n hm hn => hne ?_
    rw [mem_listeners_iff] at hm hn
    exact Option.some.inj (hm.2.symm.trans hn.2)
  refine (List.perm_ext_iff_of_nodup hnd (h.nodup_roots hf)).2 fun n => ?_
  rw [List.mem_flatMap]
  constructor
  · rintro ⟨event, -, hn⟩
    exact (mem_listeners_iff.1 hn).1
  · intro hn
    have hsome := (NodeKind.isSome_triggerEvent?_iff n.kind).2 (mem_roots hn).2
    obtain ⟨event, hevent⟩ := Option.isSome_iff_exists.1 hsome
    exact ⟨event, (h.mem_triggerEvents_iff hf).2 ⟨n, hn, hevent⟩, mem_listeners_iff.2 ⟨hn, hevent⟩⟩

end FlowGraph

/-! ## The triggers that a run enters -/

/-- Whether a node is a trigger that matches an item. -/
def GraphNode.isMatch (n : GraphNode) (item : InventoryItem) : Bool :=
  match n.config with
  | .expirationTrigger c => c.isMatch item
  | .inventoryStatusTrigger c => c.isMatch item
  | .conditionalBranch _ | .updateData _ | .generateRecipe _ | .sendNotification _
    | .webhookDelivery _ | .partnerIntegration _ => false

theorem GraphNode.trigger_of_isMatch {n : GraphNode} {item : InventoryItem}
    (h : n.isMatch item = true) : n.capability = .trigger := by
  obtain ⟨id, config⟩ := n
  cases config with
  | expirationTrigger c | inventoryStatusTrigger c => rfl
  | conditionalBranch | updateData | generateRecipe | sendNotification | webhookDelivery
    | partnerIntegration => cases h

/-- The trigger that is entered. -/
def Moment.trigger? : Moment → Option GraphNode
  | .visit n _ => if n.capability = .trigger then some n else none
  | .refusal _ => none

/-- Whether a trigger is entered that matches. -/
def Moment.isMatch : Moment → Bool
  | .visit _ (.asked true _ _) => true
  | _ => false

/-- The triggers that are entered, in order. -/
def Story.triggers (s : Story) : List GraphNode := s.filterMap Moment.trigger?

theorem Story.mem_triggers_iff {s : Story} {n : GraphNode} :
    n ∈ s.triggers ↔ n.capability = .trigger ∧ ∃ effect, .visit n effect ∈ s := by
  rw [triggers, List.mem_filterMap]
  constructor
  · rintro ⟨m, hm, ht⟩
    cases m with
    | visit n' effect =>
      rw [Moment.trigger?, Option.ite_none_right_eq_some] at ht
      obtain ⟨ht, hn⟩ := ht
      cases hn
      exact ⟨ht, effect, hm⟩
    | refusal id => cases ht
  · rintro ⟨ht, effect, hm⟩
    exact ⟨_, hm, if_pos ht⟩

theorem Story.sublist_triggers (s : Story) : (s.triggers.map GraphNode.id).Sublist s.trace := by
  induction s with
  | nil => exact .slnil
  | cons m s ih =>
    cases m with
    | visit n effect =>
      rw [trace_visit, triggers]
      by_cases ht : n.capability = .trigger
      · have hm : (Moment.visit n effect).trigger? = some n := if_pos ht
        rw [List.filterMap_cons_some hm]
        exact ih.cons_cons n.id
      · have hm : (Moment.visit n effect).trigger? = none := if_neg ht
        rw [List.filterMap_cons_none hm]
        exact ih.cons n.id
    | refusal id => exact ih

namespace Routes

variable {g : FlowGraph} {r : Registry} {f : Flow} {e : Engine} {item : InventoryItem}
  {event : TriggerEvent} {s : Story}

theorem nodup_trace_of_depicts (h : Routes g e item (g.listeners event) [] [] s)
    (hd : g.Depicts r f) (hf : f.WellFormed r) : s.trace.Nodup :=
  h.nodup_trace ((hd.pairwise_roots hf).sublist List.filter_sublist)

theorem mem_nodes (h : Routes g e item (g.listeners event) [] [] s) {n : GraphNode}
    {effect : NodeEffect} (hn : .visit n effect ∈ s) : n ∈ g.nodes := by
  refine h.visit_mem (fun m hm => ?_) (by simp) n effect hn
  exact (FlowGraph.mem_roots (FlowGraph.mem_listeners_iff.1 hm).1).1

/-- A node of a graph is entered if its id is in the trace. -/
theorem exists_visit (h : Routes g e item (g.listeners event) [] [] s) (hd : g.Depicts r f)
    (hf : f.WellFormed r) {n : GraphNode} (hn : n ∈ g.nodes) (hid : n.id ∈ s.trace) :
    ∃ effect, .visit n effect ∈ s := by
  obtain ⟨m, effect, hm, hid⟩ := Story.mem_trace_iff.1 hid
  exact ⟨effect, hd.eq_of_id hf (h.mem_nodes hm) hn hid ▸ hm⟩

/-- The only triggers that a run enters are listeners. -/
theorem mem_listeners (h : Routes g e item (g.listeners event) [] [] s) (hd : g.Depicts r f)
    (hf : f.WellFormed r) {n : GraphNode} {effect : NodeEffect} (hn : .visit n effect ∈ s)
    (ht : n.capability = .trigger) : n ∈ g.listeners event := by
  refine h.forall_visit (P := fun n => n.capability = .trigger → n ∈ g.listeners event)
    (fun n hn _ => hn) (by simp) (fun n effect _ _ m hm ht => ?_) n effect hn ht
  exact (hd.not_trigger_of_mem_follow hf hm ht).elim

/-- The triggers that a run enters are the listeners, unless it is broken off. -/
theorem perm_triggers (h : Routes g e item (g.listeners event) [] [] s) (hs : s.abort? = none)
    (hd : g.Depicts r f) (hf : f.WellFormed r) : s.triggers.Perm (g.listeners event) := by
  have hnd : s.triggers.Nodup :=
    ((h.nodup_trace_of_depicts hd hf).sublist s.sublist_triggers).of_map
  have hlisteners : (g.listeners event).Nodup := (hd.nodup_roots hf).sublist List.filter_sublist
  refine (List.perm_ext_iff_of_nodup hnd hlisteners).2 fun n => ?_
  rw [Story.mem_triggers_iff]
  constructor
  · rintro ⟨ht, effect, hn⟩
    exact h.mem_listeners hd hf hn ht
  · intro hn
    obtain ⟨hnode, ht⟩ := FlowGraph.mem_roots (FlowGraph.mem_listeners_iff.1 hn).1
    exact ⟨ht, h.exists_visit hd hf hnode ((h.closed hs).1 n hn)⟩

/-- Counted are the triggers entered that match the item. -/
theorem triggersMatched_eq {roots stack : List GraphNode} {visited : List String}
    (h : Routes g e item roots stack visited s) :
    s.stats.triggersMatched = s.triggers.countP fun n => n.isMatch item := by
  have hcount := Story.count_eq RunStats.triggersMatched Moment.isMatch (fun st m => by
    rcases m with ⟨n, effect⟩ | id
    · cases effect with
      | asked b i name => cases b <;> rfl
      | suggested i recipe source => cases source <;> rfl
      | acted d i o => cases o <;> rfl
      | branched | wrote | aborted => rfl
    · rfl) s .none
  rw [Story.stats, hcount, Story.triggers, List.countP_filterMap]
  refine (Nat.zero_add _).trans (List.countP_congr fun m hm => ?_)
  cases m with
  | refusal id => rfl
  | visit n effect =>
    have hcomes := h.comesTo n effect hm
    obtain ⟨id, config⟩ := n
    -- a node comes to the answer of a trigger exactly if it is one
    cases config with
    | expirationTrigger c | inventoryStatusTrigger c =>
      cases hcomes
      cases hb : c.isMatch item <;> simp [Moment.isMatch, Moment.trigger?, GraphNode.capability,
        GraphNode.kind, NodeConfig.kind, NodeKind.capability, GraphNode.isMatch, hb]
    | conditionalBranch | updateData | generateRecipe | sendNotification | webhookDelivery
      | partnerIntegration =>
      cases hcomes <;> simp [Moment.isMatch, Moment.trigger?, GraphNode.capability,
        GraphNode.kind, NodeConfig.kind, NodeKind.capability]

end Routes

/-! ## What is said when no trigger listens -/

/-- A text does not begin with one that its own beginning disagrees with. -/
theorem Text.not_prefix_append {p a : String} (h : ¬ p.toList <+: a.toList)
    (h' : ¬ a.toList <+: p.toList) (b : String) : ¬ p.toList <+: (a ++ b).toList := by
  rw [String.toList_append]
  intro hp
  -- of two beginnings of one text, one is a beginning of the other
  exact (List.prefix_or_prefix_of_prefix hp (List.prefix_append _ _)).elim h h'

/-- How the lines about a node begin. -/
def NodeEffect.openings : List String :=
  ["Trigger ", "Condition ", "Set related_data.", "Recipe generated for ", demoTag, "Dispatched ",
    "Failed to dispatch ", "Skipped duplicate "]

theorem NodeEffect.exists_opening (id : String) {effect : NodeEffect}
    (h : effect.isAbort = false) : ∃ first ∈ openings, ∃ rest, effect.line id = first ++ rest := by
  cases effect with
  | asked isMatch i name =>
    refine ⟨"Trigger ", by decide, ?_⟩
    cases isMatch with
    | true =>
      show ∃ rest, "Trigger " ++ id ++ " matched item " ++ i ++ " (" ++ name ++ ")" = _
      simp only [String.append_assoc]
      exact ⟨_, rfl⟩
    | false =>
      show ∃ rest, "Trigger " ++ id ++ " did not match item " ++ i ++ "; branch stops" = _
      simp only [String.append_assoc]
      exact ⟨_, rfl⟩
  | branched c b =>
    refine ⟨"Condition ", by decide, ?_⟩
    show ∃ rest, "Condition " ++ id ++ ": " ++ c.checkField ++ " " ++ c.operator.sign ++ " "
      ++ c.checkValue ++ " -> " ++ b.handle = _
    simp only [String.append_assoc]
    exact ⟨_, rfl⟩
  | wrote key value =>
    refine ⟨"Set related_data.", by decide, ?_⟩
    show ∃ rest, "Set related_data." ++ key ++ " = " ++ value = _
    simp only [String.append_assoc]
    exact ⟨_, rfl⟩
  | suggested i recipe source =>
    cases source with
    | ai => exact ⟨"Recipe generated for ", by decide, _, rfl⟩
    | demo reason =>
      refine ⟨demoTag, by decide, ?_⟩
      show ∃ rest, demoLine ("Recipe suggestion for " ++ i ++ " from demo set") reason = _
      simp only [demoLine, String.append_assoc]
      exact ⟨_, rfl⟩
  | acted d i o =>
    cases o with
    | dispatched => exact ⟨"Dispatched ", by decide, _, rfl⟩
    | demo reason =>
      refine ⟨demoTag, by decide, ?_⟩
      show ∃ rest, demoLine ("Would dispatch " ++ d) reason = _
      simp only [demoLine, String.append_assoc]
      exact ⟨_, rfl⟩
    | failed err =>
      refine ⟨"Failed to dispatch ", by decide, ?_⟩
      show ∃ rest, "Failed to dispatch " ++ d ++ ": " ++ err.message = _
      simp only [String.append_assoc]
      exact ⟨_, rfl⟩
    | duplicate =>
      refine ⟨"Skipped duplicate ", by decide, ?_⟩
      show ∃ rest, "Skipped duplicate " ++ d ++ " for item " ++ i = _
      simp only [String.append_assoc]
      exact ⟨_, rfl⟩
  | aborted message => cases h

/-- No line about a node that is entered begins like a text that disagrees with all openings. -/
theorem Moment.not_prefix_of_mem_lines {p : String} (hp : ∀ first ∈
      "Entering node " :: NodeEffect.openings,
      ¬ p.toList <+: first.toList ∧ ¬ first.toList <+: p.toList)
    {n : GraphNode} {effect : NodeEffect} (hgo : effect.isAbort = false) :
    ∀ line ∈ (Moment.visit n effect).lines, ¬ p.toList <+: line.toList := by
  have hno {first rest : String} (hmem : first ∈ "Entering node " :: NodeEffect.openings) :
      ¬ p.toList <+: (first ++ rest).toList :=
    Text.not_prefix_append (hp first hmem).1 (hp first hmem).2 rest
  intro line hline
  rcases List.mem_cons.1 hline with rfl | hline
  · simp only [String.append_assoc]
    exact hno List.mem_cons_self
  · obtain ⟨first, hfirst, rest, heq⟩ := NodeEffect.exists_opening n.id hgo
    rw [List.mem_singleton.1 hline, heq]
    exact hno (List.mem_cons_of_mem _ hfirst)

/-- No line of a story begins like the one that says that no trigger listens. -/
theorem Story.not_prefix_of_mem_log {s : Story}
    (hgo : ∀ n effect, Moment.visit n effect ∈ s → effect.isAbort = false) :
    ∀ line ∈ s.log, ¬ "No trigger in flow ".toList <+: line.toList := by
  intro line hline
  obtain ⟨m, hm, hline⟩ := List.mem_flatMap.1 hline
  cases m with
  | visit n effect => exact Moment.not_prefix_of_mem_lines (by decide) (hgo n effect hm) line hline
  | refusal id =>
    rw [List.mem_singleton.1 hline, String.append_assoc]
    exact Text.not_prefix_append (by decide) (by decide) _

end KitchenFlow
