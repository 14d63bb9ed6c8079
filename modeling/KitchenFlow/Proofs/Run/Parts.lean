import KitchenFlow.Proofs.Graph.Restriction
import KitchenFlow.Proofs.Payload
import KitchenFlow.Proofs.Run.Mirror
import KitchenFlow.Proofs.Run.Writes

/-!
# The part of a run that belongs to a trigger

The triggers of an accepted flow share no node, so a run in test mode falls into parts, one for each
trigger that listens, in the order of the flow. Each part is the run of a smaller flow: of what can
be reached from its trigger alone. But all parts hand on one payload. What comes of a trigger is
therefore that smaller run on the payload that the triggers before it have left, and the same as on
the payload of the whole run only if nothing is read that they have written.

    FlowGraph.walkAll_within   a walk stays in its part of the graph
    Flow.listeners_within      the triggers of a part
    GraphNode.mirrored_test    payloads that differ in what is not read lead the same way
    Flow.rehearsal_of_part     the part of a run that belongs to a trigger
-/

namespace KitchenFlow

/-! ## Walks in a part of a graph -/

namespace FlowGraph

variable {g : FlowGraph} {ids : List String}

theorem follow_within (hclosed : g.arcs.Closed ids) {id : String} (hid : id ∈ ids) (next : Next) :
    (g.within ids).follow id next = g.follow id next := by
  cases next with
  | stop => rfl
  | go branch => exact successors_within hclosed hid branch

/-- A walk from nodes of a part that no link leads out of does not notice that there is more. -/
theorem walk_within (hclosed : g.arcs.Closed ids) (e : Engine) (x : RunContext)
    {stack : List GraphNode} (hstack : ∀ n ∈ stack, n.id ∈ ids) (visited : List String)
    (p : Payload) (w : World) :
    (g.within ids).walk e x stack visited p w = g.walk e x stack visited p w := by
  fun_induction FlowGraph.walk g e x stack visited p w with
  | case1 => rw [FlowGraph.walk]
  | case2 visited p w n rest hv s w' hwalk ih =>
    rw [FlowGraph.walk, dif_pos hv, ih fun m hm => hstack m (List.mem_cons_of_mem _ hm), hwalk]
  | case3 visited p w n rest hv effect w' hstep habort =>
    rw [FlowGraph.walk, dif_neg hv, hstep]
    dsimp only
    rw [if_pos habort]
  | case4 visited p w n rest hv effect w₁ hstep habort s w' hwalk ih =>
    have hn := hstack n List.mem_cons_self
    have hnext : ∀ m ∈ g.follow n.id effect.next ++ rest, m.id ∈ ids := by
      intro m hm
      rcases List.mem_append.1 hm with hm | hm
      · exact hclosed n.id m.id (mem_follow hm).2 hn
      · exact hstack m (List.mem_cons_of_mem _ hm)
    rw [FlowGraph.walk, dif_neg hv, hstep]
    dsimp only
    rw [if_neg habort, follow_within hclosed hn, ih hnext, hwalk]

theorem walkAll_within (hclosed : g.arcs.Closed ids) (e : Engine) (x : RunContext)
    {roots : List GraphNode} (hroots : ∀ n ∈ roots, n.id ∈ ids) (p : Payload) (w : World) :
    (g.within ids).walkAll e x roots p w = g.walkAll e x roots p w := by
  induction roots generalizing p w with
  | nil => rfl
  | cons root roots ih =>
    have hroot : ∀ n ∈ [root], n.id ∈ ids := by
      simpa using hroots root List.mem_cons_self
    have hrest := ih fun n hn => hroots n (List.mem_cons_of_mem _ hn)
    simp only [FlowGraph.walkAll, walk_within hclosed e x hroot, hrest]

theorem rehearseAll_within (hclosed : g.arcs.Closed ids) {roots : List GraphNode}
    (hroots : ∀ n ∈ roots, n.id ∈ ids) (p : Payload) :
    (g.within ids).rehearseAll p roots = g.rehearseAll p roots :=
  congrArg Prod.fst (walkAll_within hclosed .bare ⟨g.flowId, .test, none⟩ hroots p .initial)

theorem Depicts.listeners_eq {r : Registry} {f : Flow} (h : g.Depicts r f) (hf : f.WellFormed r)
    (event : TriggerEvent) :
    g.listeners event = g.nodes.filter fun n => n.kind.triggerEvent? == some event := by
  rw [listeners, h.roots_eq hf, List.filter_filter]
  refine List.filter_congr fun n _ => ?_
  have ht := NodeKind.isSome_triggerEvent?_iff n.kind
  rw [GraphNode.capability]
  cases hevent : n.kind.triggerEvent? with
  | none => rfl
  | some event' =>
    rw [hevent] at ht
    rw [decide_eq_true (ht.1 rfl), Bool.and_true]

end FlowGraph

/-- The triggers of a part of a flow that listen for an event are those of the whole. -/
theorem Flow.listeners_within {f : Flow} {r : Registry} {g : FlowGraph} {ids : List String}
    (hg : f.validate r = .ok g) (hclosed : f.arcs.Closed ids) (event : TriggerEvent) :
    (g.within ids).listeners event = (g.listeners event).filter fun n => ids.contains n.id := by
  have hpart := f.validate_within hg hclosed
  rw [(Flow.depicts_of_validate hpart).listeners_eq (Flow.wellFormed_of_validate hpart),
    (f.depicts_of_validate hg).listeners_eq (f.wellFormed_of_validate hg), FlowGraph.within,
    List.filter_filter, List.filter_filter]
  exact List.filter_congr fun n _ => Bool.and_comm _ _

/-! ## The triggers that listen, one after the other -/

/-- The ids of the nodes among some that listen for an event. -/
def Flow.listening (nodes : List NodeSpec) (event : TriggerEvent) : List String :=
  (nodes.filter fun s => Flow.eventOf? s == some event).map NodeSpec.id

namespace FlowGraph

variable {g : FlowGraph} {r : Registry} {f : Flow} {event : TriggerEvent} {ids : List String}
  {before mine after : List GraphNode}

/-- The triggers of a graph that listen for an event are the nodes of the flow that do. -/
theorem Depicts.map_listeners (h : g.Depicts r f) (hf : f.WellFormed r) :
    (g.listeners event).map GraphNode.id = Flow.listening f.nodes event := by
  -- in the graph as in the flow, whether a node listens can be told from its id
  let listens (id : String) : Bool :=
    f.nodes.any fun s => s.id == id && Flow.eventOf? s == some event
  have hspec : ∀ s ∈ f.nodes, (Flow.eventOf? s == some event) = listens s.id := by
    intro s hs
    rw [Bool.eq_iff_iff, List.any_eq_true]
    constructor
    · exact fun hevent => ⟨s, hs, by rw [hevent, beq_self_eq_true, Bool.and_true]⟩
    · rintro ⟨s', hs', hid⟩
      obtain ⟨hid, hevent⟩ := Bool.and_eq_true_iff.1 hid
      rwa [List.inj_on_of_nodup_map hf.distinct hs' hs (eq_of_beq hid)] at hevent
  have hnode : ∀ n ∈ g.nodes, (n.kind.triggerEvent? == some event) = listens n.id := by
    intro n hn
    obtain ⟨s, hs, hid, hkind⟩ := h.kinds n hn
    rw [← hkind.eventOf?, ← hid]
    exact hspec s hs
  rw [h.listeners_eq hf, Flow.listening, List.filter_congr hnode, List.filter_congr hspec]
  have hids := congrArg (List.filter listens) h.nodeIds
  rwa [Flow.nodeIds, List.filter_map, List.filter_map] at hids

/-- A listener has its place among the listeners. -/
theorem Depicts.exists_listeners (h : g.Depicts r f) (hf : f.WellFormed r)
    {front back : List NodeSpec} {t : NodeSpec} (hnodes : f.nodes = front ++ t :: back)
    (ht : Flow.eventOf? t = some event) :
    ∃ before n after, g.listeners event = before ++ [n] ++ after ∧
      before.map GraphNode.id = Flow.listening front event ∧ n.id = t.id := by
  have hmap : (g.listeners event).map GraphNode.id =
      Flow.listening front event ++ t.id :: Flow.listening back event := by
    have hevent : (Flow.eventOf? t == some event) = true := beq_iff_eq.2 ht
    rw [h.map_listeners hf, hnodes, Flow.listening, List.filter_append,
      List.filter_cons, if_pos hevent, List.map_append, List.map_cons]
    rfl
  obtain ⟨before, more, hsplit, hbefore, hmore⟩ := List.map_eq_append_iff.1 hmap
  obtain ⟨n, after, rfl, hn, -⟩ := List.map_eq_cons_iff.1 hmore
  exact ⟨before, n, after, by rw [hsplit, List.append_assoc]; rfl, hbefore, hn⟩

/-- What some listeners reach, the others do not. -/
theorem Depicts.not_mem_of_reaches (h : g.Depicts r f) (hf : f.WellFormed r)
    (hsplit : g.listeners event = before ++ mine ++ after)
    (hids : ∀ id, id ∈ ids ↔ ∃ n ∈ mine, g.arcs.Reaches n.id id) {m : GraphNode}
    (hm : m ∈ before ∨ m ∈ after) {id : String} (hid : g.arcs.Reaches m.id id) : id ∉ ids := by
  intro hmem
  obtain ⟨n, hn, hreach⟩ := (hids id).1 hmem
  have hapart := (h.pairwise_roots hf).sublist
    (List.filter_sublist (p := fun n => n.kind.triggerEvent? == some event))
  rw [← listeners, hsplit, List.append_assoc, List.pairwise_append, List.pairwise_append] at hapart
  obtain ⟨-, ⟨-, -, hafter⟩, hbefore⟩ := hapart
  rcases hm with hm | hm
  · exact hbefore m hm n (List.mem_append_left _ hn) id hid hreach
  · exact hafter n hn m hm id hreach hid

/-- The listeners of the part of a graph that some listeners reach are these. -/
theorem Depicts.filter_listeners (h : g.Depicts r f) (hf : f.WellFormed r)
    (hsplit : g.listeners event = before ++ mine ++ after)
    (hids : ∀ id, id ∈ ids ↔ ∃ n ∈ mine, g.arcs.Reaches n.id id) :
    (g.listeners event).filter (fun n => ids.contains n.id) = mine := by
  have hother : ∀ m, m ∈ before ∨ m ∈ after → ¬ ids.contains m.id = true := fun m hm hmem =>
    h.not_mem_of_reaches hf hsplit hids hm Relation.ReflTransGen.refl (List.contains_iff_mem.1 hmem)
  have hmine : ∀ n ∈ mine, ids.contains n.id = true := fun n hn =>
    List.contains_iff_mem.2 ((hids n.id).2 ⟨n, hn, Relation.ReflTransGen.refl⟩)
  rw [hsplit, List.filter_append, List.filter_append,
    List.filter_eq_nil_iff.2 fun m hm => hother m (.inl hm), List.filter_eq_self.2 hmine,
    List.filter_eq_nil_iff.2 fun m hm => hother m (.inr hm), List.nil_append, List.append_nil]

theorem reaches_of_mem_rehearseAll {p : Payload} {roots : List GraphNode} {id : String}
    (hid : id ∈ (g.rehearseAll p roots).trace) : ∃ n ∈ roots, g.arcs.Reaches n.id id :=
  (walksAll_walkAll g .bare ⟨g.flowId, .test, none⟩ roots p .initial).reaches id hid

/-- The part of a rehearsal that belongs to some listeners comes after that of the listeners before
them, and begins on the payload that these have left. -/
theorem Depicts.filter_rehearsal (h : g.Depicts r f) (hf : f.WellFormed r) {p : Payload}
    (hsplit : g.listeners p.triggerEvent = before ++ mine ++ after)
    (hids : ∀ id, id ∈ ids ↔ ∃ n ∈ mine, g.arcs.Reaches n.id id) :
    (g.rehearsal p).trace.filter ids.contains =
      (g.rehearseAll ((g.rehearseAll p before).payload p) mine).trace := by
  have hnone {roots : List GraphNode} (hroots : ∀ m ∈ roots, m ∈ before ∨ m ∈ after)
      (q : Payload) : (g.rehearseAll q roots).trace.filter ids.contains = [] := by
    refine List.filter_eq_nil_iff.2 fun id hid hmem => ?_
    obtain ⟨m, hm, hreach⟩ := reaches_of_mem_rehearseAll hid
    exact h.not_mem_of_reaches hf hsplit hids (hroots m hm) hreach (List.contains_iff_mem.1 hmem)
  have hall (q : Payload) : (g.rehearseAll q mine).trace.filter ids.contains =
      (g.rehearseAll q mine).trace :=
    List.filter_eq_self.2 fun id hid =>
      List.contains_iff_mem.2 ((hids id).2 (reaches_of_mem_rehearseAll hid))
  rw [rehearsal_eq, hsplit, rehearseAll_append, rehearseAll_append, Story.trace_append,
    Story.trace_append, List.filter_append, List.filter_append,
    hnone (fun m hm => .inl hm), hall, hnone (fun m hm => .inr hm), List.nil_append,
    List.append_nil]

end FlowGraph

/-! ## What is read of what was written -/

/-- The paths that a node looks up to decide where to go or what to write. The texts of messages
and prompts are of no consequence as long as nobody is asked for anything. -/
def GraphNode.readPaths (n : GraphNode) : List String :=
  match n.config with
  | .conditionalBranch c => [c.checkField]
  | .updateData c => Template.paths c.value
  | .expirationTrigger _ | .inventoryStatusTrigger _ | .generateRecipe _ | .sendNotification _
  | .webhookDelivery _ | .partnerIntegration _ => []

variable {K : String → Prop} {p q : Payload}

namespace Payload

/-- A payload stays alike to what it was when several entries are set that it may differ in. -/
theorem Alike.setAll_right (h : Alike K p q) {entries : Fields}
    (hkeys : ∀ key ∈ entries.map Prod.fst, K key) : Alike K p (q.setAll entries) := by
  induction entries generalizing q with
  | nil => exact h
  | cons e entries ih =>
    obtain ⟨key, value⟩ := e
    obtain ⟨hkey, hkeys⟩ := List.forall_mem_cons.1 hkeys
    exact ih (h.setRelated_right hkey value) hkeys

end Payload

/-- A rehearsal changes the payload only in what the nodes write that its roots reach. -/
theorem FlowGraph.alike_rehearseAll {g : FlowGraph} {roots : List GraphNode}
    (hroots : ∀ n ∈ roots, n ∈ g.nodes)
    (hkeys : ∀ n ∈ g.nodes, (∃ m ∈ roots, g.arcs.Reaches m.id n.id) → ∀ key ∈ n.writtenKeys, K key)
    (p : Payload) : p.Alike K ((g.rehearseAll p roots).payload p) := by
  have hwalk := walksAll_walkAll g .bare ⟨g.flowId, .test, none⟩ roots p .initial
  have hgo := hwalk.not_isAbort (g.abort?_walkAll_test .bare rfl roots p .initial)
  rw [Story.payload_eq_setAll]
  refine (Payload.Alike.refl K p).setAll_right fun key hkey => ?_
  obtain ⟨e, he, rfl⟩ := List.mem_map.1 hkey
  obtain ⟨⟨n, entries⟩, hmade, he⟩ := List.mem_flatMap.1 he
  obtain ⟨effect, hn, -⟩ := Story.mem_writes_iff.1 hmade
  obtain ⟨q, hwrites⟩ := hwalk.unfolds.exists_writes hgo hmade
  refine hkeys n (hwalk.visit_mem hroots n effect hn)
    (hwalk.reaches n.id (Story.mem_trace_iff.2 ⟨n, effect, hn, rfl⟩)) e.1 ?_
  rw [← hwrites.map_fst]
  exact List.mem_map_of_mem he

/-- Payloads that are alike stay so when the same is done to both. -/
theorem Payload.Alike.apply (h : p.Alike K q) (effect : NodeEffect) :
    (effect.apply p).Alike K (effect.apply q) := by
  cases effect with
  | wrote key value => exact h.setRelated key _
  | suggested itemName recipe source =>
    exact (h.setRelated recipeKey _).setRelated recipeSourceKey _
  | asked | branched | acted | aborted => exact h

/-- Where payloads differ only in what a node does not read, the same comes of it in a rehearsal,
unless it is an action, which is described from the payload. -/
theorem GraphNode.rehearse_eq (n : GraphNode) (hact : ∀ a, n.config.task ≠ .act a)
    (h : p.Alike K q) (hno : ∀ path ∈ n.readPaths, ∀ key, K key → ¬ Payload.Reads path key) :
    n.config.task.rehearse q = n.config.task.rehearse p := by
  obtain ⟨id, config⟩ := n
  cases config with
  | expirationTrigger c =>
    show NodeTask.ask q (c.isMatch q.item) = NodeTask.ask p (c.isMatch p.item)
    rw [NodeTask.ask, NodeTask.ask, h.item]
  | inventoryStatusTrigger c =>
    show NodeTask.ask q (c.isMatch q.item) = NodeTask.ask p (c.isMatch p.item)
    rw [NodeTask.ask, NodeTask.ask, h.item]
  | conditionalBranch c =>
    show NodeEffect.branched c (NodeTask.branch q c) = .branched c (NodeTask.branch p c)
    rw [NodeTask.branch, NodeTask.branch, h.lookup (hno c.checkField (List.mem_singleton_self _))]
  | updateData c =>
    show NodeEffect.wrote _ (q.render c.value) = .wrote _ (p.render c.value)
    rw [h.render hno]
  | generateRecipe c =>
    show NodeTask.demoRecipe q testReason = NodeTask.demoRecipe p testReason
    rw [NodeTask.demoRecipe, NodeTask.demoRecipe, h.item]
  | sendNotification | webhookDelivery | partnerIntegration => exact (hact _ rfl).elim

theorem NodeTask.next_rehearse_act (a : Action) (p : Payload) :
    ((NodeTask.act a).rehearse p).next = .go none := rfl

/-- Where payloads differ only in what a node does not read, the node leads the same way from both,
and leaves them alike. -/
theorem GraphNode.mirrored_test (e : Engine) {x : RunContext} (hx : x.mode = .test) (n : GraphNode)
    (hno : ∀ path ∈ n.readPaths, ∀ key, K key → ¬ Payload.Reads path key) (effect : NodeEffect) :
    n.Mirrored e x (fun _ _ => True) (Payload.Alike K) effect := by
  intro p q w w' h hstep
  rw [NodeTask.step_test hx] at hstep
  obtain ⟨rfl, -⟩ := Prod.mk.inj hstep
  refine ⟨trivial, ?_⟩
  by_cases hact : ∃ a, n.config.task = .act a
  · obtain ⟨a, ha⟩ := hact
    rw [ha, NodeTask.next_rehearse_act, NodeTask.next_rehearse_act]
    exact ⟨rfl, h⟩
  · rw [n.rehearse_eq (not_exists.1 hact) h hno]
    exact ⟨rfl, h.apply _⟩

/-- From payloads that differ only in what is not read, rehearsals lead through the same nodes. -/
theorem FlowGraph.trace_rehearseAll_eq {g : FlowGraph} {roots : List GraphNode}
    (hroots : ∀ n ∈ roots, n ∈ g.nodes)
    (hno : ∀ n ∈ g.nodes, (∃ m ∈ roots, g.arcs.Reaches m.id n.id) →
      ∀ path ∈ n.readPaths, ∀ key, K key → ¬ Payload.Reads path key)
    (h : p.Alike K q) : (g.rehearseAll p roots).trace = (g.rehearseAll q roots).trace := by
  have hwalk := walksAll_walkAll g .bare ⟨g.flowId, .test, none⟩ roots p .initial
  have hgo := hwalk.not_isAbort (g.abort?_walkAll_test .bare rfl roots p .initial)
  obtain ⟨hmirrors, -⟩ := hwalk.mirrored (E := fun _ _ => True) hgo (fun n effect hn =>
    n.mirrored_test .bare rfl (hno n (hwalk.visit_mem hroots n effect hn)
      (hwalk.reaches n.id (Story.mem_trace_iff.2 ⟨n, effect, hn, rfl⟩))) effect) h
  exact Story.trace_eq_of_mirrors hmirrors

/-! ## The part that belongs to a trigger -/

theorem Story.payload_triggerEvent (p : Payload) (s : Story) :
    (s.payload p).triggerEvent = p.triggerEvent := by
  rw [s.payload_eq_setAll]
  rfl

/-- No node of one part of a graph reads what a node of another writes. -/
def FlowGraph.Ignores (g : FlowGraph) (own other : List String) : Prop :=
  ∀ n ∈ g.nodes, n.id ∈ own → ∀ m ∈ g.nodes, m.id ∈ other →
    ∀ path ∈ n.readPaths, ∀ key ∈ m.writtenKeys, ¬ Payload.Reads path key

namespace FlowGraph

variable {g : FlowGraph} {r : Registry} {f : Flow} {own other : List String}
  {before mine after : List GraphNode}

/-- A rehearsal of the part of a graph that some listeners reach is a rehearsal from these. -/
theorem rehearsal_within (hg : f.validate r = .ok g) (hclosed : f.arcs.Closed own)
    (hsplit : g.listeners p.triggerEvent = before ++ mine ++ after)
    (hown : ∀ id, id ∈ own ↔ ∃ n ∈ mine, g.arcs.Reaches n.id id) :
    (g.within own).rehearsal p = g.rehearseAll p mine := by
  have hd := f.depicts_of_validate hg
  have hmine : ∀ n ∈ mine, n.id ∈ own := fun n hn =>
    (hown n.id).2 ⟨n, hn, Relation.ReflTransGen.refl⟩
  rw [rehearsal_eq, f.listeners_within hg hclosed,
    hd.filter_listeners (f.wellFormed_of_validate hg) hsplit hown,
    rehearseAll_within (hd.arcs ▸ hclosed) hmine]

/-- Listeners that reach nothing that reads what was written before them are rehearsed as if nothing
had been. -/
theorem trace_rehearseAll_of_ignores
    (hsplit : g.listeners p.triggerEvent = before ++ mine ++ after)
    (hother : ∀ id, id ∈ other ↔ ∃ n ∈ before, g.arcs.Reaches n.id id)
    (hown : ∀ id, id ∈ own ↔ ∃ n ∈ mine, g.arcs.Reaches n.id id) (h : g.Ignores own other) :
    (g.rehearseAll ((g.rehearseAll p before).payload p) mine).trace =
      (g.rehearseAll p mine).trace := by
  have hnodes : ∀ n ∈ before ++ mine ++ after, n ∈ g.nodes := fun n hn =>
    (mem_roots (mem_listeners_iff.1 (hsplit ▸ hn)).1).1
  let written (key : String) : Prop := ∃ m ∈ g.nodes, m.id ∈ other ∧ key ∈ m.writtenKeys
  have halike : p.Alike written ((g.rehearseAll p before).payload p) :=
    alike_rehearseAll (fun n hn => hnodes n (by simp [hn]))
      (fun m hm hreach key hkey => ⟨m, hm, (hother m.id).2 hreach, hkey⟩) p
  refine (trace_rehearseAll_eq (fun n hn => hnodes n (by simp [hn])) ?_ halike).symm
  rintro n hn hreach path hpath key ⟨m, hm, hmem, hkey⟩
  exact h n hn ((hown n.id).2 hreach) m hm hmem path hpath key hkey

end FlowGraph

/-- What a run in test mode enters of the nodes that a listening trigger reaches is the trace of the
flow that consists of these nodes alone, run on the payload that the listening triggers before it
leave. If nothing is read of what these write, it is also the trace of that flow on the payload of
the run itself. -/
theorem Flow.rehearsal_of_part {f : Flow} {r : Registry} {g : FlowGraph}
    (hg : f.validate r = .ok g) {front back : List NodeSpec} {t : NodeSpec}
    (hnodes : f.nodes = front ++ t :: back) (p : Payload)
    (ht : Flow.eventOf? t = some p.triggerEvent) :
    let earlier := f.reached (Flow.listening front p.triggerEvent)
    let own := f.reached [t.id]
    ∃ g₀ g₁, (f.within earlier).validate r = .ok g₀ ∧ (f.within own).validate r = .ok g₁ ∧
      ∀ (e : Engine) (guard : Option Guard) (w : World), ∃ res res₀ res₁ res₂,
        (g.run e .test guard p w).result = .ok res ∧
        (g₀.run e .test guard p w).result = .ok res₀ ∧
        (g₁.run e .test guard res₀.payload w).result = .ok res₁ ∧
        (g₁.run e .test guard p w).result = .ok res₂ ∧
        res.trace.filter own.contains = res₁.trace ∧
        (g.Ignores own earlier → res.trace.filter own.contains = res₂.trace) := by
  intro earlier own
  have hd := f.depicts_of_validate hg
  have hf := f.wellFormed_of_validate hg
  have hclosed₀ := f.closed_reached (Flow.listening front p.triggerEvent)
  have hclosed₁ := f.closed_reached [t.id]
  obtain ⟨before, n, after, hsplit, hbefore, hn⟩ := hd.exists_listeners hf hnodes ht
  have hsplit₀ : g.listeners p.triggerEvent = [] ++ before ++ ([n] ++ after) := by
    rw [hsplit, List.append_assoc, List.nil_append]
  have hids₀ : ∀ id, id ∈ earlier ↔ ∃ m ∈ before, g.arcs.Reaches m.id id := by
    intro id
    rw [Flow.mem_reached_iff, ← hbefore, hd.arcs]
    simp
  have hids₁ : ∀ id, id ∈ own ↔ ∃ m ∈ [n], g.arcs.Reaches m.id id := by
    intro id
    rw [Flow.mem_reached_iff, hd.arcs]
    simp [hn]
  have hpart := hd.filter_rehearsal hf hsplit hids₁
  refine ⟨g.within earlier, g.within own, f.validate_within hg hclosed₀,
    f.validate_within hg hclosed₁, fun e guard w => ⟨_, _, _, _,
    congrArg RunOutcome.result (g.run_test p e guard w),
    congrArg RunOutcome.result ((g.within earlier).run_test p e guard w),
    congrArg RunOutcome.result ((g.within own).run_test _ e guard w),
    congrArg RunOutcome.result ((g.within own).run_test p e guard w), ?_, fun hignores => ?_⟩⟩
  · -- the payload that is handed on is one of the same event
    have hevent := Story.payload_triggerEvent p (g.rehearseAll p before)
    show _ = ((g.within own).rehearsal _).trace
    rw [FlowGraph.rehearsal_within hg hclosed₀ hsplit₀ hids₀,
      FlowGraph.rehearsal_within hg hclosed₁ (hevent ▸ hsplit) hids₁]
    exact hpart
  · show _ = ((g.within own).rehearsal p).trace
    rw [FlowGraph.rehearsal_within hg hclosed₁ hsplit hids₁,
      ← FlowGraph.trace_rehearseAll_of_ignores hsplit hids₀ hids₁ hignores]
    exact hpart

namespace Example

/-- Two triggers: what comes of the first one sets a flag, and what comes of the second one looks at
some field. -/
def twoTriggers (field : String) : Flow :=
  ((((({ Flow.empty "flow-two" "Two triggers" with nodes } : Flow).connect "trigger-1"
    "update-1").connect "trigger-2" "cond-2").connectBranch "cond-2" .yes "update-2").connectBranch
    "cond-2" .no "update-3")
where
  update (id key : String) : NodeSpec :=
    node id .updateData 0 0 [("targetField", .string key), ("value", .string "on")]
  nodes : List NodeSpec :=
    [node "trigger-1" .expirationTrigger 0 0 [("timeOffset", .ofNat 3)], update "update-1" "flag",
      node "trigger-2" .expirationTrigger 0 0 [("timeOffset", .ofNat 3)],
      node "cond-2" .conditionalBranch 0 0
        [("checkField", .string field), ("operator", .string "=="), ("checkValue", .string "on")],
      update "update-2" "yes", update "update-3" "no"]

/-- When the second trigger looks at the flag, its part of the run is not what the run of that part
alone is: the flag is set by the first one. -/
theorem exists_part_ne_rehearsal : ∃ g g₁ res res₁,
    (twoTriggers "related_data.flag").validate .builtin = .ok g ∧
    ((twoTriggers "related_data.flag").within
      ((twoTriggers "related_data.flag").reached ["trigger-2"])).validate .builtin = .ok g₁ ∧
    (g.run .bare .test none milkPayload .initial).result = .ok res ∧
    (g₁.run .bare .test none milkPayload .initial).result = .ok res₁ ∧
    res.trace.filter ((twoTriggers "related_data.flag").reached ["trigger-2"]).contains =
      ["trigger-2", "cond-2", "update-2"] ∧
    res₁.trace = ["trigger-2", "cond-2", "update-3"] ∧
    res.trace.filter ((twoTriggers "related_data.flag").reached ["trigger-2"]).contains ≠
      res₁.trace := by
  have h : (((twoTriggers "related_data.flag").validate .builtin).toOption.bind fun g =>
      (((twoTriggers "related_data.flag").within
        ((twoTriggers "related_data.flag").reached ["trigger-2"])).validate
          .builtin).toOption.bind fun g₁ =>
      (g.run .bare .test none milkPayload .initial).result.toOption.bind fun res =>
      (g₁.run .bare .test none milkPayload .initial).result.toOption.map fun res₁ =>
        (res.trace.filter ((twoTriggers "related_data.flag").reached ["trigger-2"]).contains,
          res₁.trace)) =
      some (["trigger-2", "cond-2", "update-2"], ["trigger-2", "cond-2", "update-3"]) := by
    decide +kernel
  obtain ⟨g, hg, h⟩ := Option.bind_eq_some_iff.1 h
  obtain ⟨g₁, hg₁, h⟩ := Option.bind_eq_some_iff.1 h
  obtain ⟨res, hres, h⟩ := Option.bind_eq_some_iff.1 h
  obtain ⟨res₁, hres₁, h⟩ := Option.map_eq_some_iff.1 h
  obtain ⟨hpart, htrace⟩ := Prod.mk.inj h
  rw [Fallible.toOption_eq_some_iff] at hg hg₁ hres hres₁
  refine ⟨g, g₁, res, res₁, hg, hg₁, hres, hres₁, hpart, htrace, ?_⟩
  rw [hpart, htrace]
  decide

/-- When the second trigger looks at the category of the item, nothing is read that is written. -/
theorem exists_ignores : ∃ g, (twoTriggers "category").validate .builtin = .ok g ∧
    ∀ own other, g.Ignores own other := by
  have h : (((twoTriggers "category").validate .builtin).toOption.map fun g =>
      decide ((∀ n ∈ g.nodes, ∀ path ∈ n.readPaths, path = "category") ∧
        ∀ m ∈ g.nodes, ∀ key ∈ m.writtenKeys, key ≠ "category")) = some true := by decide +kernel
  obtain ⟨g, hg, h⟩ := Option.map_eq_some_iff.1 h
  obtain ⟨hread, hwritten⟩ := of_decide_eq_true h
  have hkeys : Payload.keysOf "category" = ["category"] := by decide
  refine ⟨g, Fallible.toOption_eq_some_iff.1 hg, ?_⟩
  intro own other n hn _ m hm _ path hpath key hkey
  obtain rfl := hread n hn path hpath
  rintro (hwhole | hbelow | ⟨hbare, -⟩)
  · exact absurd (hkeys.symm.trans hwhole) (by decide)
  · exact absurd (List.cons.inj (hkeys.symm.trans hbelow)).1 (by decide)
  · obtain ⟨rfl, -⟩ := List.cons.inj (hkeys.symm.trans hbare)
    exact hwritten m hm "category" hkey rfl

end Example

/-- On milk, the second trigger leads the same way in the run of both as in that of its own part. -/
theorem Flow.rehearsal_of_part_milk : ∃ g g₁ res res₂,
    (Example.twoTriggers "category").validate .builtin = .ok g ∧
    ((Example.twoTriggers "category").within
      ((Example.twoTriggers "category").reached ["trigger-2"])).validate .builtin = .ok g₁ ∧
    (g.run .bare .test none Example.milkPayload .initial).result = .ok res ∧
    (g₁.run .bare .test none Example.milkPayload .initial).result = .ok res₂ ∧
    res.trace.filter ((Example.twoTriggers "category").reached ["trigger-2"]).contains =
      res₂.trace := by
  obtain ⟨g, hg, hignores⟩ := Example.exists_ignores
  have hnodes : (Example.twoTriggers "category").nodes =
      (Example.twoTriggers "category").nodes.take 2 ++
        Example.node "trigger-2" .expirationTrigger 0 0 [("timeOffset", .ofNat 3)] ::
          (Example.twoTriggers "category").nodes.drop 3 := rfl
  obtain ⟨_, g₁, -, hg₁, hruns⟩ :=
    Flow.rehearsal_of_part hg hnodes Example.milkPayload (by decide)
  obtain ⟨res, -, -, res₂, hres, -, -, hres₂, -, hsame⟩ := hruns .bare none .initial
  exact ⟨g, g₁, res, res₂, hg, hg₁, hres, hres₂, hsame (hignores _ _)⟩

end KitchenFlow
