import KitchenFlow.Proofs.Run.Memoryless
import KitchenFlow.Proofs.Schedule.Spacing

/-!
# Organizations

The organizations of a tick share one ledger, and the key of an action says nothing of the
organization. So an organization can take a slot that another one would need, if both have a flow
and an item of the same ids. Apart from that, and from collaborators that remember what they were
asked before, nothing passes from one organization to the next:

    Evaluation.Owns         the slots that an evaluation may take
    exists_course_iff       a course of a tick, cut into the shares of its organizations
    organizations_apart     what is done for an organization in a tick can be done for it alone
    organizations_interfere an organization that is not served because of another one

Evaluations of one organization that are under way at the same time may go one way or another, so
what is compared are all the shares that an organization can have.
-/

namespace KitchenFlow

/-! ## The slots of an evaluation -/

/-- The slots that an evaluation may take are those of the actions of its flow for its item. -/
def Evaluation.Owns (ev : Evaluation) (k : ActionKey) : Prop :=
  ∃ n ∈ ev.graph.nodes, n.capability = .action ∧ k = ev.key n.id

namespace Runner

/-- A run under way of an evaluation stays within the graph and with the item. -/
structure Inside (ev : Evaluation) (r : Runner) : Prop where
  item : r.payload.item = ev.payload.item
  roots : ∀ n ∈ r.roots, n ∈ ev.graph.nodes
  stack : ∀ n ∈ r.stack, n ∈ ev.graph.nodes
  stage : match r.stage with
    | .calling n _ | .returning n _ _ => n ∈ ev.graph.nodes ∧ n.capability = .action
    | .walking | .ended => True

variable {ev : Evaluation} {e : Engine} {x : RunContext} {gd : Guard} {a b : Runner × World}
  {r : Runner} {n : GraphNode}

theorem inside_start (ev : Evaluation) :
    (start (ev.graph.listeners ev.payload.triggerEvent) ev.payload).Inside ev := by
  refine ⟨rfl, ?_, by simp [start], trivial⟩
  intro n hn
  exact (FlowGraph.mem_roots (FlowGraph.mem_listeners_iff.1 hn).1).1

theorem Inside.actionKey_eq (h : r.Inside ev) (hx : x.flowId = ev.graph.flowId) (id : String) :
    NodeTask.actionKey x r.payload id = ev.key id := by
  rw [NodeTask.actionKey, h.item, hx]
  rfl

/-- What follows a node lies within the graph as well. -/
theorem Inside.tell (h : r.Inside ev) (effect : NodeEffect) :
    (r.tell ev.graph n effect).Inside ev := by
  refine ⟨(effect.apply_item r.payload).trans h.item, h.roots, ?_, ?_⟩
  · intro m hm
    rcases List.mem_append.1 hm with hm | hm
    · exact (FlowGraph.mem_follow hm).1
    · exact h.stack m hm
  · simp only [Runner.tell]
    cases effect.isAbort <;> trivial

theorem Inside.moves (h : a.1.Inside ev) (hmove : Moves ev.graph e x gd a b) :
    b.1.Inside ev := by
  obtain ⟨hitem, hroots, hstack, hstage⟩ := h
  cases hmove with
  | finish => exact ⟨hitem, hroots, hstack, trivial⟩
  | root =>
    obtain ⟨hroot, hroots⟩ := List.forall_mem_cons.1 hroots
    exact ⟨hitem, hroots, by simpa using hroot, trivial⟩
  | again => exact ⟨hitem, hroots, (List.forall_mem_cons.1 hstack).2, trivial⟩
  | plain | skip =>
    refine Inside.tell ?_ _
    exact ⟨hitem, hroots, (List.forall_mem_cons.1 hstack).2, trivial⟩
  | take _ ha _ =>
    obtain ⟨hn, hrest⟩ := List.forall_mem_cons.1 hstack
    exact ⟨hitem, hroots, hrest, hn, GraphNode.capability_eq_action_iff.2 ⟨_, ha⟩⟩
  | send | breakdown | giveBack => exact Inside.tell ⟨hitem, hroots, hstack, hstage⟩ _
  | miss => exact ⟨hitem, hroots, hstack, hstage⟩
  | rest => exact ⟨hitem, hroots, hstack, hstage⟩

/-- A move leaves the slots of other evaluations alone. -/
theorem Inside.get?_eq (h : a.1.Inside ev) (hx : x.flowId = ev.graph.flowId)
    (hmove : Moves ev.graph e x gd a b) {k : ActionKey} (hk : ¬ ev.Owns k) :
    b.2.ledger.get? k = a.2.ledger.get? k := by
  have hattempt {act : Action} {p : Payload} {w w' : World} {result : Attempt}
      (hatt : act.attempt e p w = (result, w')) : w'.ledger.get? k = w.ledger.get? k := by
    have hledger := act.attempt_ledger e p w
    rw [hatt] at hledger
    rw [hledger]
  cases hmove with
  | finish | root | again | skip | rest => rfl
  | plain _ hact hstep => rw [(NodeTask.step_idle hstep hact).2]
  | @take _ n _ _ _ _ _ _ _ ha =>
    have hn := h.stack n List.mem_cons_self
    refine Ledger.get?_put_of_ne _ _ fun heq => hk ⟨n, hn, ?_, ?_⟩
    · exact GraphNode.capability_eq_action_iff.2 ⟨_, ha⟩
    · rw [heq, h.actionKey_eq hx]
  | send hatt | breakdown hatt => exact hattempt hatt
  | miss hatt => rcases hatt with ⟨_, -, hatt⟩ | ⟨_, -, hatt⟩ <;> exact hattempt hatt
  | @giveBack _ _ _ _ _ n =>
    obtain ⟨hn, hact⟩ := h.stage
    refine Ledger.get?_release_of_ne _ fun heq => hk ⟨n, hn, hact, ?_⟩
    rw [heq, h.actionKey_eq hx]

end Runner

/-! ## Evaluations in two worlds -/

namespace Scheduler

variable {s : Scheduler} {now : Instant} {src : FlowSource} {a b : List Job × World}
  {evs : List Evaluation} {jobs : List Job} {w w' : World}

theorem Step.inside (h : s.Step now a b) (ha : ∀ j ∈ a.1, j.runner.Inside j.evaluation) :
    ∀ j ∈ b.1, j.runner.Inside j.evaluation := by
  cases h with
  | mk b hb =>
    obtain ⟨hbefore, hrest⟩ := List.forall_mem_append.1 ha
    obtain ⟨hr, hafter⟩ := List.forall_mem_cons.1 hrest
    refine List.forall_mem_append.2 ⟨hbefore, List.forall_mem_cons.2 ⟨?_, hafter⟩⟩
    exact hr.moves (moves_of_advance hb)

theorem Step.map_evaluation (h : s.Step now a b) :
    b.1.map Job.evaluation = a.1.map Job.evaluation := by
  cases h with
  | mk b hb => simp

/-- Evaluations under way leave the slots of others alone. -/
theorem get?_of_reaches (h : Relation.ReflTransGen (s.Step now) a b)
    (ha : ∀ j ∈ a.1, j.runner.Inside j.evaluation) {k : ActionKey}
    (hk : ∀ ev ∈ a.1.map Job.evaluation, ¬ ev.Owns k) :
    b.2.ledger.get? k = a.2.ledger.get? k := by
  induction h using Relation.ReflTransGen.head_induction_on with
  | refl => rfl
  | head hstep _ ih =>
    rw [ih (hstep.inside ha) (hstep.map_evaluation ▸ hk)]
    cases hstep with
    | @mk before after ev r w b hb =>
      have hr : r.Inside ev := ha _ (List.mem_append_right _ List.mem_cons_self)
      refine hr.get?_eq rfl (moves_of_advance hb) (hk ev ?_)
      exact List.mem_map_of_mem (List.mem_append_right _ List.mem_cons_self)

/-- Evaluations take the same steps in two worlds that agree on their slots. -/
theorem reaches_alike {K : ActionKey → Prop} {calls₁ calls₂ : List Call} {w₂ : World}
    (he : s.engine.Memoryless) (h : Relation.ReflTransGen (s.Step now) a b)
    (ha : ∀ j ∈ a.1, j.runner.Inside j.evaluation)
    (hK : ∀ ev ∈ a.1.map Job.evaluation, ∀ k, ev.Owns k → K k)
    (hw : World.AlikeSince K calls₁ calls₂ a.2 w₂) :
    ∃ w₂', Relation.ReflTransGen (s.Step now) (a.1, w₂) (b.1, w₂') ∧
      World.AlikeSince K calls₁ calls₂ b.2 w₂' := by
  induction h using Relation.ReflTransGen.head_induction_on generalizing w₂ with
  | refl => exact ⟨w₂, .refl, hw⟩
  | head hstep _ ih =>
    have hinside := hstep.inside ha
    have hslots := hstep.map_evaluation ▸ hK
    cases hstep with
    | @mk before after ev r w b hb =>
      have hr : r.Inside ev := ha _ (List.mem_append_right _ List.mem_cons_self)
      have hev : ev ∈ (before ++ ⟨ev, r⟩ :: after).map Job.evaluation :=
        List.mem_map_of_mem (List.mem_append_right _ List.mem_cons_self)
      have hstack : ∀ n ∈ r.stack, n.capability = .action →
          K (NodeTask.actionKey (s.context now ev) r.payload n.id) := by
        intro n hn hact
        rw [hr.actionKey_eq rfl]
        exact hK ev hev _ ⟨n, hr.stack n hn, hact, rfl⟩
      obtain ⟨hrunner, hw'⟩ := Runner.advance_alike (g := ev.graph) he rfl rfl r hstack hw
      rw [hb] at hrunner hw'
      obtain ⟨w₂', hreach, hw₂'⟩ := ih hinside hslots hw'
      refine ⟨w₂', .head ?_ hreach, hw₂'⟩
      rw [hrunner]
      exact .mk _ rfl

theorem inside_map_job (evs : List Evaluation) :
    ∀ j ∈ evs.map job, j.runner.Inside j.evaluation := by
  intro j hj
  obtain ⟨ev, -, rfl⟩ := List.mem_map.1 hj
  exact Runner.inside_start ev

theorem Evaluates.get?_eq (h : s.Evaluates now evs w jobs w') {k : ActionKey}
    (hk : ∀ ev ∈ evs, ¬ ev.Owns k) : w'.ledger.get? k = w.ledger.get? k :=
  get?_of_reaches h.reaches (inside_map_job evs) (by rwa [map_evaluation_job])

/-- Evaluations can be made in the same way, and with the same calls, in every world that agrees on
their slots. -/
theorem Evaluates.alike (he : s.engine.Memoryless) (h : s.Evaluates now evs w jobs w')
    {w₂ : World}
    (hw : ∀ k, (∃ ev ∈ evs, ev.Owns k) → w.ledger.get? k = w₂.ledger.get? k) {calls : List Call}
    (hcalls : w'.calls = w.calls ++ calls) :
    ∃ w₂', s.Evaluates now evs w₂ jobs w₂' ∧ w₂'.calls = w₂.calls ++ calls := by
  obtain ⟨w₂', hreach, hw'⟩ := reaches_alike he h.reaches (inside_map_job evs)
    (fun ev hev k hk => ⟨ev, map_evaluation_job evs ▸ hev, hk⟩) (.start hw)
  obtain ⟨new, hnew, hnew₂⟩ := hw'.calls
  obtain rfl := List.append_cancel_left (hcalls.symm.trans hnew)
  exact ⟨w₂', ⟨hreach, h.ended⟩, hnew₂⟩

/-! ## Organizations in two worlds -/

section

variable {orgs : List String} {org : String} {x y : World × TickReport}
  {cs : List (ActionKey × Call)}

/-- Serving organizations leaves alone the slots that none of their evaluations may take. -/
theorem Courses.get?_eq (h : s.Courses now src orgs x jobs cs y) {k : ActionKey}
    (hk : ∀ org ∈ orgs, ∀ ev ∈ s.evaluationsAt now src org, ¬ ev.Owns k) :
    y.1.ledger.get? k = x.1.ledger.get? k := by
  induction h with
  | nil => rfl
  | missing _ _ ih => exact ih (List.forall_mem_cons.1 hk).2
  | @evaluated _ _ _ _ w _ evs _ jobs _ w₁ _ _ _ _ _ hload hplan hadvances hended _ _ ih =>
    obtain ⟨hfirst, hrest⟩ := List.forall_mem_cons.1 hk
    rw [evaluationsAt_eq hload hplan] at hfirst
    have heval : s.Evaluates now evs w jobs w₁ := ⟨hadvances.reaches, hended⟩
    exact (ih hrest).trans (heval.get?_eq hfirst)

/-- An organization can be served in the same way, and with the same calls, in every world that
agrees on the slots of its evaluations, whatever was reported before. -/
theorem Courses.alike (he : s.engine.Memoryless) (h : s.Courses now src [org] x jobs cs y)
    {z : World × TickReport}
    (hz : ∀ k, (∃ ev ∈ s.evaluationsAt now src org, ev.Owns k) →
      x.1.ledger.get? k = z.1.ledger.get? k)
    {calls : List Call} (hcalls : y.1.calls = x.1.calls ++ calls) :
    ∃ cs' z', s.Courses now src [org] z jobs cs' z' ∧ z'.1.calls = z.1.calls ++ calls := by
  obtain ⟨w, r⟩ := z
  cases h with
  | missing hload hrest =>
    cases hrest
    obtain rfl : calls = [] := List.self_eq_append_right.1 hcalls
    exact ⟨[], _, .missing hload .nil, (List.append_nil _).symm⟩
  | @evaluated _ _ flows items w₀ r₀ evs _ jobs _ w₁ clock _ _ _ ended hload hplan hadvances hended
      hperm hrest =>
    cases hrest
    obtain rfl := evaluationsAt_eq hload hplan
    have heval : s.Evaluates now (s.evaluationsAt now src org) w₀ jobs w₁ :=
      ⟨hadvances.reaches, hended⟩
    obtain ⟨w₂, heval₂, hcalls₂⟩ := heval.alike he hz hcalls
    obtain ⟨cs₂, hadvances₂⟩ := exists_advances heval₂.reaches
    rcases hplan₂ : s.plan org now items flows r with ⟨evs₂, planned₂⟩
    obtain rfl := evaluationsAt_eq hload hplan₂
    exact ⟨_, ({ w₂ with clock }, _), .evaluated hload hplan₂ hadvances₂ hended hperm .nil, hcalls₂⟩

end

/-! ## The shares of organizations -/

/-- What is done for an organization in a tick: what becomes of its evaluations, and the calls that
they make. -/
structure Share where
  organization : String
  jobs : List Job
  calls : List Call

/-- The ways to serve organizations one after the other, with the share of each of them: what is
done for one is a course by itself. -/
def Serves (s : Scheduler) (now : Instant) (src : FlowSource) (x : World × TickReport) :
    List Share → World × TickReport → Prop
  | [], z => x = z
  | share :: shares, z => ∃ cs y, s.Courses now src [share.organization] x share.jobs cs y ∧
      y.1.calls = x.1.calls ++ share.calls ∧ Serves s now src y shares z

/-- The ways to make a tick, with the shares of its organizations. -/
def Round (s : Scheduler) (now : Instant) (src : FlowSource) (w : World) (shares : List Share)
    (w' : World) : Prop :=
  shares.map Share.organization = s.organizations ∧
    ∃ report, s.Serves now src (s.opening now w) shares (w', report)

section

variable {orgs : List String} {x y z : World × TickReport} {shares more : List Share}

/-- Shares make up a course. -/
theorem Serves.exists_courses (h : s.Serves now src x shares z) :
    ∃ cs, s.Courses now src (shares.map Share.organization) x (shares.flatMap Share.jobs) cs z := by
  induction shares generalizing x with
  | nil => exact ⟨[], h ▸ .nil⟩
  | cons share shares ih =>
    obtain ⟨cs, y, hfirst, -, hrest⟩ := h
    obtain ⟨cs', hrest⟩ := ih hrest
    exact ⟨cs ++ cs', hfirst.append hrest⟩

/-- A course can be cut into shares. -/
theorem Courses.exists_serves {cs : List (ActionKey × Call)}
    (h : s.Courses now src orgs x jobs cs z) :
    ∃ shares, shares.map Share.organization = orgs ∧ shares.flatMap Share.jobs = jobs ∧
      s.Serves now src x shares z := by
  induction orgs generalizing x jobs cs with
  | nil =>
    cases h
    exact ⟨[], rfl, rfl, rfl⟩
  | cons org orgs ih =>
    have h : s.Courses now src ([org] ++ orgs) x jobs cs z := h
    obtain ⟨_, _, y, _, _, rfl, rfl, hfirst, hrest⟩ := h.of_append
    obtain ⟨shares, rfl, rfl, hserves⟩ := ih hrest
    obtain ⟨calls, hcalls, -⟩ := hfirst.exists_calls
    exact ⟨⟨org, _, calls⟩ :: shares, rfl, rfl, _, y, hfirst, hcalls, hserves⟩

theorem Serves.append (h : s.Serves now src x shares y) (h' : s.Serves now src y more z) :
    s.Serves now src x (shares ++ more) z := by
  induction shares generalizing x with
  | nil => exact h ▸ h'
  | cons share shares ih =>
    obtain ⟨cs, y, hfirst, hcalls, hrest⟩ := h
    exact ⟨cs, y, hfirst, hcalls, ih hrest⟩

theorem Serves.of_append (h : s.Serves now src x (shares ++ more) z) :
    ∃ y, s.Serves now src x shares y ∧ s.Serves now src y more z := by
  induction shares generalizing x with
  | nil => exact ⟨x, rfl, h⟩
  | cons share shares ih =>
    obtain ⟨cs, y, hfirst, hcalls, hrest⟩ := h
    obtain ⟨y', hshares, hmore⟩ := ih hrest
    exact ⟨y', ⟨cs, y, hfirst, hcalls, hshares⟩, hmore⟩

/-- The calls of all shares are all calls there are. -/
theorem Serves.calls_eq (h : s.Serves now src x shares z) :
    z.1.calls = x.1.calls ++ shares.flatMap Share.calls := by
  induction shares generalizing x with
  | nil => exact h ▸ (List.append_nil _).symm
  | cons share shares ih =>
    obtain ⟨cs, y, -, hcalls, hrest⟩ := h
    rw [ih hrest, hcalls, List.flatMap_cons, List.append_assoc]

/-- Organizations can be served in every world. -/
theorem exists_serves (s : Scheduler) (now : Instant) (src : FlowSource) (orgs : List String)
    (x : World × TickReport) :
    ∃ shares z, shares.map Share.organization = orgs ∧ s.Serves now src x shares z := by
  obtain ⟨jobs, cs, -, -, -, hcourses⟩ := courses_foldl s now src orgs ⟨x.2, [], x.1⟩
  obtain ⟨shares, horgs, -, hserves⟩ := hcourses.exists_serves
  exact ⟨shares, _, horgs, hserves⟩

/-- The courses of a tick are its rounds, with what is done for an organization after what is done
for those before it. -/
theorem exists_course_iff :
    (∃ cs report, s.Course now src w jobs cs w' report) ↔
      ∃ shares, s.Round now src w shares w' ∧ shares.flatMap Share.jobs = jobs := by
  constructor
  · rintro ⟨cs, report, hcourse⟩
    obtain ⟨shares, horgs, hjobs, hserves⟩ := Courses.exists_serves hcourse
    exact ⟨shares, ⟨horgs, report, hserves⟩, hjobs⟩
  · rintro ⟨shares, ⟨horgs, report, hserves⟩, rfl⟩
    obtain ⟨cs, hcourses⟩ := hserves.exists_courses
    rw [horgs] at hcourses
    exact ⟨cs, report, hcourses⟩

end

/-! ## Organizations with ids of their own -/

/-- With collaborators that have no memory, the shares that an organization can have in a tick with
others are those that it can have in a tick of its own, unless the evaluations of one that is served
before may take the same slots. -/
theorem organizations_apart (he : s.engine.Memoryless) {before after : List String} {org : String}
    (horgs : s.organizations = before ++ org :: after) (hnd : s.organizations.Nodup)
    (hapart : ∀ other ∈ before, ∀ ev ∈ s.evaluationsAt now src other,
      ∀ ev' ∈ s.evaluationsAt now src org, ∀ k, ev.Owns k → ¬ ev'.Owns k)
    (w : World) (jobs : List Job) (calls : List Call) :
    (∃ shares w', s.Round now src w shares w' ∧ ⟨org, jobs, calls⟩ ∈ shares) ↔
      ∃ w', { s with organizations := [org] }.Round now src w [⟨org, jobs, calls⟩] w' := by
  -- those that are served before leave the slots of the organization as they are
  have hledger {first : List Share} {y : World × TickReport}
      (hfirst : first.map Share.organization = before)
      (h : s.Serves now src (s.opening now w) first y) :
      ∀ k, (∃ ev ∈ s.evaluationsAt now src org, ev.Owns k) →
        y.1.ledger.get? k = (s.opening now w).1.ledger.get? k := by
    rintro k ⟨ev', hev', hk⟩
    obtain ⟨cs, hcourses⟩ := h.exists_courses
    rw [hfirst] at hcourses
    exact hcourses.get?_eq fun other hother ev hev hk' =>
      hapart other hother ev hev ev' hev' k hk' hk
  constructor
  · rintro ⟨shares, w', ⟨hshares, report, hserves⟩, hmem⟩
    have hnd : (shares.map Share.organization).Nodup := hshares ▸ hnd
    obtain ⟨first, rest, rfl, hfirst, hrest⟩ := List.map_eq_append_iff.1 (hshares.trans horgs)
    obtain ⟨share, more, rfl, horg, -⟩ := List.map_eq_cons_iff.1 hrest
    -- the organization comes up once, so this is the share in question
    obtain rfl : share = ⟨org, jobs, calls⟩ :=
      List.inj_on_of_nodup_map hnd (by simp) hmem horg
    obtain ⟨y, hbefore, hat⟩ := hserves.of_append
    obtain ⟨cs, y', hcourses, hcalls, -⟩ := hat
    obtain ⟨cs', ⟨w₂, r₂⟩, hcourses', hcalls'⟩ :=
      hcourses.alike he (hledger hfirst hbefore) hcalls
    exact ⟨w₂, rfl, r₂, cs', _, (courses_congr [org]).2 hcourses', hcalls', rfl⟩
  · rintro ⟨w', -, report, cs, y, hcourses, hcalls, -⟩
    obtain ⟨first, x, hfirst, hbefore⟩ := s.exists_serves now src before (s.opening now w)
    have hcourses := (courses_congr [org]).1 hcourses
    obtain ⟨cs', y', hcourses', hcalls'⟩ :=
      hcourses.alike he (fun k hk => (hledger hfirst hbefore k hk).symm) hcalls
    obtain ⟨rest, ⟨w'', r''⟩, hrest, hafter⟩ := s.exists_serves now src after y'
    refine ⟨first ++ ⟨org, jobs, calls⟩ :: rest, w'', ⟨?_, r'', ?_⟩, by simp⟩
    · rw [List.map_append, List.map_cons, hfirst, hrest, horgs]
    · exact hbefore.append ⟨cs', y', hcourses', hcalls', hafter⟩

end Scheduler

/-! ## A kitchen and a bistro -/

namespace Example

/-- A flow that sends a message when something expires soon. -/
def alarm (recipient : String) : Flow :=
  (({ Flow.empty "flow-alarm" "Alarm" with
      nodes :=
        [node "soon" .expirationTrigger 0 0 [("timeOffset", .ofNat 3)],
          node "warn" .sendNotification 0 0
            [("channel", .string "sms"), ("recipient", .string recipient),
              ("message", .string "use it")]] }.connect "soon" "warn").publish .epoch)

/-- A store in which each organization has one item and a flow that sends it a message. -/
def alarms (item : String → InventoryItem) : FlowSource :=
  ⟨fun org => .ok [alarm org], fun org => .ok [item org]⟩

/-- A scheduler for two organizations, with a notifier that never fails. -/
def alarmScheduler : Scheduler :=
  { minuteScheduler fun _ _ => .atOnce (.answer (.ok "")) with
    organizations := ["kitchen", "bistro"] }

/-- The recipient of a short message and what it says. -/
def message? : Call → Option (String × String)
  | .sms recipient body => some (recipient, body)
  | _ => none

/-- A flow that sends a recipe for what expires soon. -/
def cookbook (recipient : String) : Flow :=
  ((({ Flow.empty ("flow-" ++ recipient) "Cookbook" with
      nodes :=
        [node "soon" .expirationTrigger 0 0 [("timeOffset", .ofNat 3)],
          node "cook" .generateRecipe 0 0 [],
          node "send" .sendNotification 0 0
            [("channel", .string "sms"), ("recipient", .string recipient),
              ("message", .string "\x7b\x7brelated_data.recipe_suggestion\x7d\x7d")]] }.connect
    "soon" "cook").connect "cook" "send").publish .epoch)

/-- A scheduler with a completion service as well, which suggests one thing after the other. -/
def cookbookScheduler : Scheduler :=
  { alarmScheduler with
    engine := { alarmScheduler.engine with
      services := { alarmScheduler.engine.services with
        completion := some fun k _ => .atOnce (.answer (.ok (if k = 0 then "soup" else "salad"))) }
      defaultAiKey := some "key" } }

end Example

namespace Scheduler

/-- With milk of its own, the bistro is warned behind the kitchen as well. -/
theorem organizations_apart_alarm :
    let s := Example.alarmScheduler
    let src := Example.alarms fun org => { Example.milk with id := org ++ "-milk" }
    s.engine.Memoryless ∧ s.organizations.Nodup ∧
      (∀ other ∈ ["kitchen"], ∀ ev ∈ s.evaluationsAt ⟨0, 0⟩ src other,
        ∀ ev' ∈ s.evaluationsAt ⟨0, 0⟩ src "bistro", ∀ k, ev.Owns k → ¬ ev'.Owns k) ∧
      ∃ jobs calls, calls.map Call.notice? = [some ("bistro", .sms)] ∧
        ∃ shares w', s.Round ⟨0, 0⟩ src .initial shares w' ∧ ⟨"bistro", jobs, calls⟩ ∈ shares := by
  intro s src
  have he : s.engine.Memoryless := by
    refine Engine.memoryless_of_succeeds nofun ?_ nofun
    intro service responder _ h c k
    cases service <;> cases h
    exact ⟨"", rfl⟩
  have hnd : s.organizations.Nodup := by decide
  have hitem : ∀ org ∈ s.organizations, ∀ ev ∈ s.evaluationsAt ⟨0, 0⟩ src org,
      ev.payload.item.id = org ++ "-milk" := by decide +kernel
  have hapart : ∀ other ∈ ["kitchen"], ∀ ev ∈ s.evaluationsAt ⟨0, 0⟩ src other,
      ∀ ev' ∈ s.evaluationsAt ⟨0, 0⟩ src "bistro", ∀ k, ev.Owns k → ¬ ev'.Owns k := by
    rintro other hother ev hev ev' hev' k ⟨n, -, -, rfl⟩ ⟨n', -, -, hkey⟩
    obtain rfl := List.mem_singleton.1 hother
    have hkey := congrArg ActionKey.itemId hkey
    simp only [Evaluation.key, hitem "kitchen" (by decide) ev hev,
      hitem "bistro" (by decide) ev' hev'] at hkey
    exact absurd hkey (by decide)
  refine ⟨he, hnd, hapart, ?_⟩
  -- the tick of the bistro by itself
  obtain ⟨_, _, hcourse, -⟩ :=
    course_tick { s with organizations := ["bistro"] } ⟨0, 0⟩ src .initial
  obtain ⟨shares, hround, -⟩ := exists_course_iff.1 ⟨_, _, hcourse⟩
  obtain ⟨horgs, _, hserves⟩ := hround
  obtain ⟨⟨org, jobs, calls⟩, rfl, rfl⟩ := List.map_eq_singleton_iff.1 horgs
  have hcalls : ({ s with organizations := ["bistro"] }.tick src ⟨0, 0⟩ .initial).world.calls =
      calls := by simpa [opening, World.initial] using hserves.calls_eq
  have hnotice : ({ s with organizations := ["bistro"] }.tick src ⟨0, 0⟩
      .initial).world.calls.map Call.notice? = [some ("bistro", .sms)] := by decide +kernel
  have horgs : s.organizations = ["kitchen"] ++ "bistro" :: [] := rfl
  refine ⟨jobs, calls, hcalls ▸ hnotice, ?_⟩
  exact (organizations_apart he horgs hnd hapart .initial jobs calls).2 ⟨_, rfl, _, hserves⟩

/-- By itself, the bistro is warned of its milk. Behind a kitchen with a flow and an item of the
same ids it is not, although every call succeeds. Without any ids in common, it is sent another
recipe than by itself if the completion service never suggests the same twice. -/
theorem organizations_interfere :
    (∃ (s : Scheduler) (src : FlowSource) (now : Instant),
      s.organizations = ["kitchen", "bistro"] ∧ 0 < s.window ∧
      (∀ service responder, s.engine.services.get? service = some responder →
        ∀ k c, responder k c = .atOnce (.answer (.ok ""))) ∧
      ({ s with organizations := ["bistro"] }.tick src now .initial).world.calls.map Call.notice? =
        [some ("bistro", .sms)] ∧
      (s.tick src now .initial).world.calls.map Call.notice? = [some ("kitchen", .sms)]) ∧
    ∃ (s : Scheduler) (src : FlowSource) (now : Instant),
      s.organizations = ["kitchen", "bistro"] ∧ 0 < s.window ∧
      (∀ service responder, s.engine.services.get? service = some responder →
        ∀ k c, ∃ text, responder k c = .atOnce (.answer (.ok text))) ∧
      (∀ ev ∈ s.evaluationsAt now src "kitchen", ∀ ev' ∈ s.evaluationsAt now src "bistro",
        ev.graph.flowId ≠ ev'.graph.flowId) ∧
      ({ s with organizations := ["bistro"] }.tick src now .initial).world.calls.filterMap
        Example.message? = [("bistro", "soup")] ∧
      (s.tick src now .initial).world.calls.filterMap Example.message? =
        [("kitchen", "soup"), ("bistro", "salad")] := by
  constructor
  · refine ⟨Example.alarmScheduler, Example.alarms fun _ => Example.milk, ⟨0, 0⟩, rfl, by decide,
      ?_, by decide +kernel, by decide +kernel⟩
    intro service responder h k c
    cases service <;> cases h
    rfl
  · refine ⟨Example.cookbookScheduler,
      ⟨fun org => .ok [Example.cookbook org], fun _ => .ok [Example.milk]⟩, ⟨0, 0⟩, rfl, by decide,
      ?_, by decide +kernel, by decide +kernel, by decide +kernel⟩
    intro service responder h k c
    cases service <;> cases h
    · exact ⟨"", rfl⟩
    · exact ⟨_, rfl⟩

end Scheduler
end KitchenFlow
