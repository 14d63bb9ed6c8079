import KitchenFlow.Proofs.Run.Effect
import KitchenFlow.Run.Walk
import Mathlib.Data.List.Nodup

/-!
# Stories

What happens in a run, one moment after the other, is its story. Trace, log, events and counts can
be read off a story; that a run keeps just these records is shown in `Proofs.Run.Narration`. This
module says what the views of a story have to do with each other: `Story.outcomes` lists how the
actions of a story came out, and the events about actions and the counts of them can be read off it.
-/

namespace KitchenFlow

/-- One moment of a run: a node is entered, or not entered again. -/
inductive Moment where
  | visit (node : GraphNode) (effect : NodeEffect)
  | refusal (nodeId : String)
deriving DecidableEq, Repr, Inhabited

/-- What happens in a run, in order. -/
abbrev Story := List Moment

namespace Moment

/-- The node entered. -/
def entered? : Moment → Option String
  | .visit n _ => some n.id
  | .refusal _ => none

/-- The lines noted. -/
def lines : Moment → List String
  | .visit n e => ["Entering node " ++ n.id ++ " (" ++ n.kind.name ++ ")", e.line n.id]
  | .refusal id => ["Node " ++ id ++ " already visited; not re-entering"]

/-- The events told. -/
def events : Moment → List RunEvent
  | .visit n e => .nodeEntered n.id n.kind :: (e.event? n.id).toList
  | .refusal _ => []

/-- Counts what happened. -/
def count (s : RunStats) : Moment → RunStats
  | .visit _ e => e.count s
  | .refusal _ => s

/-- How the payload changes. -/
def apply (p : Payload) : Moment → Payload
  | .visit _ e => e.apply p
  | .refusal _ => p

end Moment

namespace Story

/-- The nodes entered, in order. -/
def trace (s : Story) : List String := s.filterMap Moment.entered?

/-- The lines noted, in order. -/
def log (s : Story) : List String := s.flatMap Moment.lines

/-- The events told, in order. -/
def events (s : Story) : List RunEvent := s.flatMap Moment.events

/-- What happened, counted. -/
def stats (s : Story) : RunStats := s.foldl Moment.count .none

/-- What the payload becomes. -/
def payload (p : Payload) (s : Story) : Payload := s.foldl Moment.apply p

end Story

/-- Walks the nodes of a stack, the first of them first, and all that follows from them. -/
def FlowGraph.walk (g : FlowGraph) (e : Engine) (x : RunContext) (stack : List GraphNode)
    (visited : List String) (p : Payload) (w : World) : Story × World :=
  match stack with
  | [] => ([], w)
  | n :: rest =>
    if _h : visited.contains n.id then
      let (story, w) := walk g e x rest visited p w
      (.refusal n.id :: story, w)
    else
      let (effect, w) := n.config.task.step e x n.id p w
      if effect.isAbort then ([.visit n effect], w)
      else
        let (story, w) :=
          walk g e x (g.follow n.id effect.next ++ rest) (n.id :: visited) (effect.apply p) w
        (.visit n effect :: story, w)
termination_by stack.length + g.openLinks visited
decreasing_by
  · simp
  · have h1 := g.openLinks_cons (Bool.eq_false_iff.2 _h)
    have h2 := g.length_follow_le n.id effect.next
    simp only [List.length_append, List.length_cons]
    omega

namespace Story

/-- What broke the run off, if anything did. -/
def abort? (s : Story) : Option String :=
  match s.getLast? with
  | some (.visit _ (.aborted message)) => some message
  | _ => none

end Story

/-- Walks from each of several nodes in turn, nothing being visited at the start of each. -/
def FlowGraph.walkAll (g : FlowGraph) (e : Engine) (x : RunContext) :
    List GraphNode → Payload → World → Story × World
  | [], _, w => ([], w)
  | root :: rest, p, w =>
    let (story, w) := g.walk e x [root] [] p w
    if story.abort?.isSome then (story, w)
    else
      let (more, w) := walkAll g e x rest (story.payload p) w
      (story ++ more, w)

/-! ## Actions -/

/-- How an action came out, if there was one. -/
def NodeEffect.outcome? : NodeEffect → Option ActionOutcome
  | .acted _ _ o => some o
  | _ => none

/-- Whether a collaborator was to be called, so that the slot of the action was taken. -/
def NodeEffect.isAttempt : NodeEffect → Bool
  | .acted _ _ .duplicate => false
  | .acted .. | .aborted _ => true
  | .asked .. | .branched .. | .wrote .. | .suggested .. => false

/-- The node of an action, and how it came out. -/
def Moment.outcome? : Moment → Option (String × ActionOutcome)
  | .visit n e => e.outcome?.map fun o => (n.id, o)
  | .refusal _ => none

namespace Story

variable {s t : Story} {id : String} {p : Payload}

/-- How the actions of a story came out, in order. -/
def outcomes (s : Story) : List (String × ActionOutcome) := s.filterMap Moment.outcome?

/-! ## Views of a longer story -/

@[simp] theorem trace_nil : trace [] = [] := rfl

@[simp] theorem trace_visit (n : GraphNode) (e : NodeEffect) (s : Story) :
    trace (.visit n e :: s) = n.id :: trace s := rfl

@[simp] theorem trace_refusal (id : String) (s : Story) : trace (.refusal id :: s) = trace s := rfl

@[simp] theorem trace_append (s t : Story) : trace (s ++ t) = trace s ++ trace t :=
  List.filterMap_append

@[simp] theorem outcomes_nil : outcomes [] = [] := rfl

@[simp] theorem outcomes_refusal (id : String) (s : Story) :
    outcomes (.refusal id :: s) = outcomes s := rfl

theorem outcomes_visit (n : GraphNode) (e : NodeEffect) (s : Story) :
    outcomes (.visit n e :: s) = (e.outcome?.map fun o => (n.id, o)).toList ++ outcomes s := by
  cases h : e.outcome? <;> simp [outcomes, Moment.outcome?, h]

theorem payload_append (p : Payload) (s t : Story) :
    payload p (s ++ t) = payload (payload p s) t := List.foldl_append

theorem stats_concat (s : Story) (m : Moment) : stats (s ++ [m]) = m.count s.stats := by
  rw [stats, List.foldl_append]
  rfl

/-- The item of a payload is never changed. -/
@[simp] theorem payload_item (p : Payload) (s : Story) : (payload p s).item = p.item := by
  induction s generalizing p with
  | nil => rfl
  | cons m s ih =>
    have h : (m.apply p).item = p.item := by
      cases m with
      | visit n e => exact e.apply_item p
      | refusal id => rfl
    exact (ih (m.apply p)).trans h

/-- An action came out at a node that was entered. -/
theorem mem_trace_of_mem_outcomes {o : ActionOutcome} (h : (id, o) ∈ s.outcomes) :
    id ∈ s.trace := by
  obtain ⟨m, hm, ho⟩ := List.mem_filterMap.1 h
  refine List.mem_filterMap.2 ⟨m, hm, ?_⟩
  cases m with
  | visit n e =>
    obtain ⟨_, -, heq⟩ := Option.map_eq_some_iff.1 ho
    cases heq
    rfl
  | refusal _ => cases ho

theorem mem_trace_iff : id ∈ s.trace ↔ ∃ n e, Moment.visit n e ∈ s ∧ n.id = id := by
  rw [trace, List.mem_filterMap]
  constructor
  · rintro ⟨m, hm, hid⟩
    cases m with
    | visit n e => exact ⟨n, e, hm, Option.some.inj hid⟩
    | refusal _ => cases hid
  · rintro ⟨n, e, hm, rfl⟩
    exact ⟨_, hm, rfl⟩

/-! ## What breaks a story off -/

theorem isSome_abort?_visit {n : GraphNode} {effect : NodeEffect} :
    (abort? [.visit n effect]).isSome = effect.isAbort := by
  cases effect <;> rfl

theorem abort?_visit_eq_none_iff {n : GraphNode} {effect : NodeEffect} :
    abort? [.visit n effect] = none ↔ effect.isAbort = false := by
  rw [← isSome_abort?_visit, Option.isSome_eq_false_iff, Option.isNone_iff_eq_none]

/-- A story that goes on is broken off where its second part is. -/
theorem abort?_append {s : Story} (h : s.abort? = none) (t : Story) :
    abort? (s ++ t) = abort? t := by
  cases t with
  | nil => rw [List.append_nil, h, abort?, List.getLast?_nil]
  | cons m t =>
    have hlast : (s ++ m :: t).getLast? = (m :: t).getLast? := by
      rw [List.getLast?_append, List.getLast?_cons, Option.some_or]
    rw [abort?, abort?, hlast]

theorem abort?_cons {m : Moment} {s : Story} (h : abort? [m] = none) :
    abort? (m :: s) = abort? s :=
  abort?_append h s

theorem abort?_of_cons {m : Moment} {s : Story} (h : abort? (m :: s) = none) :
    abort? s = none := by
  cases s with
  | nil => rfl
  | cons _ _ => rwa [abort?, List.getLast?_cons_cons] at h

/-! ## Events and counts -/

/-- An event other than an entry was told at a node, as its effect has it. -/
theorem mem_events_iff {v : RunEvent} (hv : ∀ id k, v ≠ .nodeEntered id k) :
    v ∈ s.events ↔ ∃ n e, Moment.visit n e ∈ s ∧ e.event? n.id = some v := by
  rw [events, List.mem_flatMap]
  constructor
  · rintro ⟨m, hm, hvm⟩
    cases m with
    | visit n e =>
      rcases List.mem_cons.1 hvm with hvm | hvm
      · exact (hv _ _ hvm).elim
      · exact ⟨n, e, hm, by simpa using hvm⟩
    | refusal _ => cases hvm
  · rintro ⟨n, e, hm, hvm⟩
    exact ⟨_, hm, List.mem_cons_of_mem _ (by simp [hvm])⟩

theorem mem_outcomes_iff {o : ActionOutcome} :
    (id, o) ∈ s.outcomes ↔ ∃ n e, Moment.visit n e ∈ s ∧ e.outcome? = some o ∧ n.id = id := by
  rw [outcomes, List.mem_filterMap]
  constructor
  · rintro ⟨m, hm, ho⟩
    cases m with
    | visit n e =>
      obtain ⟨_, ho, heq⟩ := Option.map_eq_some_iff.1 ho
      cases heq
      exact ⟨n, e, hm, ho, rfl⟩
    | refusal _ => cases ho
  · rintro ⟨n, e, hm, ho, rfl⟩
    exact ⟨_, hm, by simp [Moment.outcome?, ho]⟩

/-- It is told of an action that it was carried out or skipped exactly if it was. -/
theorem actionEvent_mem_events {o : ActionOutcome} (ho : o = .dispatched ∨ o = .duplicate) :
    NodeEffect.actionEvent id o ∈ s.events ↔ (id, o) ∈ s.outcomes := by
  rw [mem_events_iff (by rcases ho with rfl | rfl <;> simp [NodeEffect.actionEvent]),
    mem_outcomes_iff]
  refine exists_congr fun n => exists_congr fun e => and_congr_right fun _ => ?_
  cases e with
  | acted d i o' =>
    rcases ho with rfl | rfl <;> cases o' <;>
      simp [NodeEffect.event?, NodeEffect.actionEvent, NodeEffect.outcome?]
  | suggested i r source =>
    rcases ho with rfl | rfl <;> cases source <;>
      simp [NodeEffect.event?, NodeEffect.actionEvent, NodeEffect.outcome?]
  | asked | branched | wrote | aborted => simp [NodeEffect.event?, NodeEffect.outcome?]

/-- However an action came out, it is told. -/
theorem actionEvent_mem_of_mem_outcomes {o : ActionOutcome} (h : (id, o) ∈ s.outcomes) :
    NodeEffect.actionEvent id o ∈ s.events := by
  obtain ⟨n, e, hn, ho, rfl⟩ := mem_outcomes_iff.1 h
  refine (mem_events_iff (by cases o <;> simp [NodeEffect.actionEvent])).2 ⟨n, e, hn, ?_⟩
  cases e <;> cases ho
  rfl

/-- It is told of an action that it failed only if it did. -/
theorem exists_failed_of_mem_events {message : String} (h : .actionFailed id message ∈ s.events) :
    ∃ err, (id, .failed err) ∈ s.outcomes := by
  obtain ⟨n, e, hn, hv⟩ := (mem_events_iff (by simp)).1 h
  cases e with
  | acted d i o =>
    cases o <;> cases hv
    exact ⟨_, mem_outcomes_iff.2 ⟨n, _, hn, rfl, rfl⟩⟩
  | suggested i r source => cases source <;> cases hv
  | asked | branched | wrote | aborted => cases hv

/-- A count that goes up by one at some moments is the number of these. -/
theorem count_eq (field : RunStats → Nat) (p : Moment → Bool)
    (h : ∀ st m, field (m.count st) = field st + if p m then 1 else 0) (s : Story)
    (st : RunStats) : field (s.foldl Moment.count st) = field st + s.countP p := by
  induction s generalizing st with
  | nil => rfl
  | cons m s ih =>
    rw [List.foldl_cons, ih, h, List.countP_cons]
    omega

/-- The number of actions that came out in one way. -/
def outcomeCount (s : Story) (o : ActionOutcome) : Nat := s.outcomes.countP fun e => e.2 = o

theorem outcomeCount_eq (s : Story) (o : ActionOutcome) :
    s.outcomeCount o = s.countP fun m => m.outcome?.any fun e => e.2 = o := by
  rw [outcomeCount, outcomes, List.countP_filterMap]
  refine List.countP_congr fun m _ => ?_
  cases m.outcome? <;> simp

/-- A count of one outcome of actions is the number of actions that came out so. -/
theorem count_eq_outcomeCount (field : RunStats → Nat) (o : ActionOutcome)
    (h0 : field .none = 0)
    (h : ∀ st (e : NodeEffect),
      field (e.count st) = field st + if e.outcome? = some o then 1 else 0)
    (s : Story) : field s.stats = s.outcomeCount o := by
  rw [outcomeCount_eq, stats, count_eq field _ _ s, h0, Nat.zero_add]
  intro st m
  cases m with
  | visit n e => cases ho : e.outcome? <;> simp [Moment.count, Moment.outcome?, h, ho]
  | refusal id => rfl

theorem actionsDispatched_eq (s : Story) :
    s.stats.actionsDispatched = s.outcomeCount .dispatched := by
  refine count_eq_outcomeCount RunStats.actionsDispatched _ rfl (fun st e => ?_) s
  cases e with
  | acted d i o => cases o <;> simp [NodeEffect.count, NodeEffect.outcome?]
  | asked b i n => cases b <;> rfl
  | suggested i r source => cases source <;> rfl
  | branched | wrote | aborted => rfl

theorem duplicatesSkipped_eq (s : Story) :
    s.stats.duplicatesSkipped = s.outcomeCount .duplicate := by
  refine count_eq_outcomeCount RunStats.duplicatesSkipped _ rfl (fun st e => ?_) s
  cases e with
  | acted d i o => cases o <;> simp [NodeEffect.count, NodeEffect.outcome?]
  | asked b i n => cases b <;> rfl
  | suggested i r source => cases source <;> rfl
  | branched | wrote | aborted => rfl

end Story
end KitchenFlow
