import KitchenFlow.Proofs.Ledger.Gains
import KitchenFlow.Proofs.Schedule.Courses

/-!
# The slots that a tick takes

Everything that an evaluation has had to do with the ledger can be read off its story: the slots of
actions that were granted and refused, and which of them were not given back. Those are the slots of
the actions carried out, and of the one, if any, at which a collaborator broke down. Put together,
the accounts of all evaluations of a tick say what it does to the ledger:

    Course.deals   a course of a tick deals with the ledger by the accounts of its evaluations
-/

namespace KitchenFlow

/-! ## Accounts of runs -/

/-- What an effect says of the slot of an action. An action that was carried out or that broke down
has kept it. -/
def NodeEffect.entry (k : ActionKey) : NodeEffect → Ledger.Account
  | .acted _ _ .dispatched | .aborted _ => ⟨[k], [k], []⟩
  | .acted _ _ (.demo _) | .acted _ _ (.failed _) => ⟨[], [k], []⟩
  | .acted _ _ .duplicate => ⟨[], [], [k]⟩
  | .asked .. | .branched .. | .wrote .. | .suggested .. => .empty

/-- What a moment says of the ledger, with these keys for the nodes. -/
def Moment.entry (key : String → ActionKey) : Moment → Ledger.Account
  | .visit n effect => if n.capability = .action then effect.entry (key n.id) else .empty
  | .refusal _ => .empty

/-- What a story says of the ledger. -/
def Story.account (key : String → ActionKey) (s : Story) : Ledger.Account :=
  .total (s.map (Moment.entry key))

theorem Story.perm_account_append (key : String → ActionKey) (s : Story) (m : Moment) :
    (Story.account key (s ++ [m])).Perm (m.entry key ++ Story.account key s) := by
  rw [account, List.map_append, Ledger.Account.total_append, List.map_singleton,
    Ledger.Account.total_cons, Ledger.Account.total_nil, Ledger.Account.append_empty]
  exact Ledger.Account.perm_append_comm _ _

namespace Story

variable {key : String → ActionKey} {s : Story} {k : ActionKey}

theorem mem_account_iff (which : Ledger.Account → List ActionKey)
    (hwhich : ∀ l, which (.total l) = l.flatMap which) (hempty : which .empty = []) :
    k ∈ which (s.account key) ↔ ∃ n effect, Moment.visit n effect ∈ s ∧ n.capability = .action ∧
      k ∈ which (effect.entry (key n.id)) := by
  rw [account, hwhich, List.flatMap_map, List.mem_flatMap]
  constructor
  · rintro ⟨m, hm, hk⟩
    cases m with
    | visit n effect =>
      by_cases hn : n.capability = .action
      · rw [Moment.entry, if_pos hn] at hk
        exact ⟨n, effect, hm, hn, hk⟩
      · rw [Moment.entry, if_neg hn, hempty] at hk
        cases hk
    | refusal id =>
      rw [Moment.entry, hempty] at hk
      cases hk
  · rintro ⟨n, effect, hm, hn, hk⟩
    refine ⟨_, hm, ?_⟩
    rwa [Moment.entry, if_pos hn]

/-- The slots kept are those of the actions that were carried out or broke down. -/
theorem mem_slots_iff : k ∈ (s.account key).slots ↔
    ∃ n effect, Moment.visit n effect ∈ s ∧ n.capability = .action ∧
      (effect.outcome? = some .dispatched ∨ effect.isAbort = true) ∧
      k = key n.id := by
  rw [mem_account_iff Ledger.Account.slots (fun _ => rfl) rfl]
  refine exists_congr fun n => exists_congr fun effect => and_congr_right fun _ =>
    and_congr_right fun _ => ?_
  cases effect with
  | acted d i o => cases o <;> simp [NodeEffect.entry, NodeEffect.outcome?, NodeEffect.isAbort]
  | asked | branched | wrote | suggested | aborted =>
    simp [NodeEffect.entry, NodeEffect.outcome?, NodeEffect.isAbort, Ledger.Account.empty]

/-- The slots granted are those of the actions that were attempted. -/
theorem mem_granted_iff : k ∈ (s.account key).granted ↔
    ∃ n effect, Moment.visit n effect ∈ s ∧ n.capability = .action ∧
      effect.isAttempt = true ∧ k = key n.id := by
  rw [mem_account_iff Ledger.Account.granted (fun _ => rfl) rfl]
  refine exists_congr fun n => exists_congr fun effect => and_congr_right fun _ =>
    and_congr_right fun _ => ?_
  cases effect with
  | acted d i o => cases o <;> simp [NodeEffect.entry, NodeEffect.isAttempt]
  | asked | branched | wrote | suggested | aborted =>
    simp [NodeEffect.entry, NodeEffect.isAttempt, Ledger.Account.empty]

/-- The slots refused are those of the actions that were skipped. -/
theorem mem_refused_iff : k ∈ (s.account key).refused ↔
    ∃ n effect, Moment.visit n effect ∈ s ∧ n.capability = .action ∧
      effect.outcome? = some .duplicate ∧ k = key n.id := by
  rw [mem_account_iff Ledger.Account.refused (fun _ => rfl) rfl]
  refine exists_congr fun n => exists_congr fun effect => and_congr_right fun _ =>
    and_congr_right fun _ => ?_
  cases effect with
  | acted d i o => cases o <;> simp [NodeEffect.entry, NodeEffect.outcome?]
  | asked | branched | wrote | suggested | aborted =>
    simp [NodeEffect.entry, NodeEffect.outcome?, Ledger.Account.empty]

end Story

namespace Runner

/-- The slot that a run under way holds. -/
def held (x : RunContext) (r : Runner) : Ledger.Account :=
  match r.holding x with
  | some k => ⟨[k], [k], []⟩
  | none => .empty

/-- What a run under way has had to do with the ledger. -/
def account (x : RunContext) (r : Runner) : Ledger.Account :=
  r.held x ++ r.story.account (NodeTask.actionKey x r.payload)

variable {g : FlowGraph} {e : Engine} {x : RunContext} {gd : Guard} {r : Runner} {n : GraphNode}
  {effect : NodeEffect}

/-- Telling what happened at a node adds its entry. -/
theorem perm_account_tell : ((r.tell g n effect).account x).Perm
    (Moment.entry (NodeTask.actionKey x r.payload) (.visit n effect) ++
      r.story.account (NodeTask.actionKey x r.payload)) := by
  have hheld : (r.tell g n effect).held x = .empty := by rw [held, holding_tell]
  have hkeys : NodeTask.actionKey x (r.tell g n effect).payload = NodeTask.actionKey x r.payload :=
    funext fun id => NodeTask.actionKey_apply x r.payload effect id
  rw [account, hheld, hkeys]
  exact Story.perm_account_append _ r.story _

theorem perm_account_tell_action (hn : n.capability = .action) :
    ((r.tell g n effect).account x).Perm
      (effect.entry (NodeTask.actionKey x r.payload n.id) ++
        r.story.account (NodeTask.actionKey x r.payload)) := by
  have htell : ((r.tell g n effect).account x).Perm _ := perm_account_tell
  rwa [Moment.entry, if_pos hn] at htell

theorem perm_account_tell_plain (hn : n.capability ≠ .action) :
    ((r.tell g n effect).account x).Perm (r.story.account (NodeTask.actionKey x r.payload)) := by
  have htell : ((r.tell g n effect).account x).Perm _ := perm_account_tell
  rwa [Moment.entry, if_neg hn] at htell

/-- What holds a slot is an action, and it has not told yet what came of it. -/
def Sound (r : Runner) : Prop :=
  match r.stage with
  | .calling n _ => n.capability = .action
  | .returning n effect _ =>
    n.capability = .action ∧ ∀ k, effect.entry k = ⟨[], [k], []⟩
  | .walking | .ended => True

theorem sound_tell : (r.tell g n effect).Sound := by
  cases effect <;> trivial

theorem Moves.sound {a b : Runner × World} (h : Moves g e x gd a b) (ha : a.1.Sound) :
    b.1.Sound := by
  cases h with
  | finish | root | again | rest => trivial
  | plain | skip | send | breakdown | giveBack => exact sound_tell
  | take _ htask _ => exact NodeConfig.capability_of_task htask
  | miss hatt =>
    refine ⟨ha, fun k => ?_⟩
    rcases hatt with ⟨_, rfl, _⟩ | ⟨_, rfl, _⟩ <;> rfl

/-- What a run under way does to the ledger in a move is right by its account. -/
theorem Moves.deal {a b : Runner × World} (h : Moves g e x gd a b) (ha : a.1.Sound) :
    Ledger.Deal gd.now gd.window (a.1.account x) a.2.ledger (b.1.account x) b.2.ledger := by
  cases h with
  | finish | root | rest => exact .keep (.refl _)
  | again => exact .keep (Story.perm_account_append _ _ _)
  | @plain _ n _ _ _ _ effect _ _ _ hact hstep =>
    have hn : n.capability ≠ .action := fun h =>
      (GraphNode.capability_eq_action_iff.1 h).elim hact
    rw [(NodeTask.step_idle hstep hact).2]
    exact .keep (perm_account_tell_plain hn)
  | skip _ htask hheld =>
    exact .refuse _ hheld (perm_account_tell_action (NodeConfig.capability_of_task htask))
  | take _ _ hfree => exact .take _ hfree (.refl _)
  | @send _ _ _ p _ _ a w _ hatt =>
    have hledger := a.attempt_ledger e p w
    rw [hatt] at hledger
    rw [hledger]
    exact .keep (perm_account_tell_action ha)
  | @miss _ _ _ p _ _ a _ _ w _ hatt =>
    have hledger := a.attempt_ledger e p w
    rcases hatt with ⟨_, rfl, hatt⟩ | ⟨_, rfl, hatt⟩ <;> rw [hatt] at hledger <;>
      rw [hledger] <;> exact .keep (.refl _)
  | @breakdown _ _ _ p _ _ a _ w _ hatt =>
    have hledger := a.attempt_ledger e p w
    rw [hatt] at hledger
    rw [hledger]
    exact .keep (perm_account_tell_action ha)
  | @giveBack roots stack visited p t n effect ho w =>
    obtain ⟨hn, hentry⟩ := ha
    have htell : (account x (tell ⟨roots, stack, visited, p, t, .returning n effect ho⟩ g n
        effect)).Perm _ := perm_account_tell_action hn
    rw [hentry] at htell
    -- the slot held is the one that is given back; that it was granted stays on the account
    refine .giveBack _ ⟨?_, ?_, ?_⟩
    · exact (htell.slots.symm).cons _
    · exact htell.granted.symm
    · exact htell.refused.symm

/-- A run that is over holds nothing. -/
theorem account_of_ended (hr : r.stage = .ended) :
    r.account x = r.story.account (NodeTask.actionKey x r.payload) := by
  have hheld : r.held x = .empty := by simp only [held, holding, hr]
  rw [account, hheld, Ledger.Account.empty_append]

end Runner

/-! ## Accounts of ticks -/

namespace Job

/-- The evaluation has carried out the action with a key, or was broken off at it. -/
def Keeps (j : Job) (k : ActionKey) : Prop :=
  ∃ n effect, .visit n effect ∈ j.runner.story ∧ n.capability = .action ∧
    (effect.outcome? = some .dispatched ∨ effect.isAbort = true) ∧ k = j.evaluation.key n.id

/-- The evaluation has attempted the action with a key, whatever came of it. -/
def Attempts (j : Job) (k : ActionKey) : Prop :=
  ∃ n effect, .visit n effect ∈ j.runner.story ∧ n.capability = .action ∧
    effect.isAttempt = true ∧ k = j.evaluation.key n.id

/-- The evaluation has skipped the action with a key. -/
def Skips (j : Job) (k : ActionKey) : Prop :=
  ∃ n effect, .visit n effect ∈ j.runner.story ∧ n.capability = .action ∧
    effect.outcome? = some .duplicate ∧ k = j.evaluation.key n.id

end Job

namespace Scheduler

variable {s : Scheduler} {now : Instant} {src : FlowSource} {w w' : World} {jobs : List Job}
  {cs : List (ActionKey × Call)} {report : TickReport} {a b : List Job × World} {l : Ledger}

/-- What an evaluation has had to do with the ledger. -/
def accountIn (s : Scheduler) (now : Instant) (j : Job) : Ledger.Account :=
  j.runner.account (s.context now j.evaluation)

/-- What evaluations have had to do with the ledger. -/
def accountOf (s : Scheduler) (now : Instant) (jobs : List Job) : Ledger.Account :=
  .total (jobs.map (s.accountIn now))

theorem accountOf_middle (before after : List Job) (j : Job) :
    s.accountOf now (before ++ j :: after) =
      s.accountOf now before ++ (s.accountIn now j ++ s.accountOf now after) := by
  rw [accountOf, List.map_append, List.map_cons, Ledger.Account.total_append,
    Ledger.Account.total_cons]
  rfl

theorem accountOf_append (before after : List Job) : s.accountOf now (before ++ after) =
    s.accountOf now before ++ s.accountOf now after := by
  rw [accountOf, List.map_append, Ledger.Account.total_append]
  rfl

/-- Evaluations that are yet to begin have nothing to do with the ledger. -/
theorem accountOf_map_job (evs : List Evaluation) : s.accountOf now (evs.map job) = .empty := by
  induction evs with
  | nil => rfl
  | cons ev evs ih =>
    rw [accountOf] at ih ⊢
    rw [List.map_cons, List.map_cons, Ledger.Account.total_cons, ih]
    rfl

theorem Advances.sound (h : s.Advances now a cs b) (ha : ∀ j ∈ a.1, j.runner.Sound) :
    ∀ j ∈ b.1, j.runner.Sound :=
  h.forall_job (P := fun _ j => j.runner.Sound) (fun _ hj => hj) (fun hmove hj => hmove.sound hj) ha

/-- Evaluations under way deal with the ledger by their accounts. -/
theorem Advances.deals (h : s.Advances now a cs b) (ha : ∀ j ∈ a.1, j.runner.Sound) :
    Ledger.Deals now s.window (s.accountOf now a.1, a.2.ledger)
      (s.accountOf now b.1, b.2.ledger) := by
  induction h with
  | refl => exact .refl
  | @step cs before after ev r w b hadvances hb ih =>
    have hr : r.Sound := hadvances.sound ha ⟨ev, r⟩ (by simp)
    have hdeal := (moves_of_advance hb).deal hr
    -- the others keep their accounts as they are
    rw [accountOf_middle] at ih ⊢
    exact ih.tail (hdeal.frame _ _)

/-- A course deals with the ledger by the accounts of its evaluations, whatever was done before. -/
theorem Courses.deals {orgs : List String} {a b : World × TickReport}
    (h : s.Courses now src orgs a jobs cs b) (before : Ledger.Account) :
    Ledger.Deals now s.window (before, a.1.ledger)
      (before ++ s.accountOf now jobs, b.1.ledger) := by
  induction h generalizing before with
  | nil =>
    rw [show s.accountOf now [] = .empty from rfl, Ledger.Account.append_empty]
    exact .refl
  | missing _ _ ih => exact ih before
  | @evaluated _ _ _ _ _ _ evs _ jobs _ _ _ _ _ _ _ _ _ hadvances _ _ _ ih =>
    have hfirst := hadvances.deals (by simp only [List.forall_mem_map]; exact fun _ _ => trivial)
    have hframe := hfirst.frame before .empty
    rw [accountOf_map_job] at hframe
    simp only [Ledger.Account.append_empty] at hframe
    rw [accountOf_append, ← Ledger.Account.append_assoc]
    exact hframe.trans (ih _)

theorem Course.deals (h : s.Course now src w jobs cs w' report) :
    Ledger.Deals now s.window (.empty, (w.ledger.prune now s.window).2)
      (s.accountOf now jobs, w'.ledger) :=
  Courses.deals h .empty

theorem Course.explains (h : s.Course now src w jobs cs w' report) :
    Ledger.Explains (s.accountOf now jobs) (w.ledger.prune now s.window).2 w'.ledger :=
  .deals h.deals

theorem Course.gains (h : s.Course now src w jobs cs w' report) (hw : 0 < s.window) :
    Ledger.Gains now s.window (w.ledger.prune now s.window).2 (s.accountOf now jobs) w'.ledger := by
  refine .deals h.deals hw fun k t hk => ?_
  -- pruning leaves only what is in force
  rw [Ledger.get?_prune, Option.filter_eq_some_iff] at hk
  exact Ledger.inForce_iff.1 hk.2

/-! ### Reading accounts off the stories -/

/-- What the evaluations of a course have had to do with the ledger is in their stories. -/
theorem Course.mem_accountOf_iff (h : s.Course now src w jobs cs w' report)
    (which : Ledger.Account → List ActionKey) (hwhich : ∀ l, which (.total l) = l.flatMap which)
    {k : ActionKey} : k ∈ which (s.accountOf now jobs) ↔
      ∃ j ∈ jobs, k ∈ which (j.runner.story.account j.evaluation.key) := by
  rw [accountOf, hwhich, List.flatMap_map, List.mem_flatMap]
  refine exists_congr fun j => and_congr_right fun hj => ?_
  rw [accountIn, Runner.account_of_ended (h.ended hj), h.actionKey_eq hj]

/-- Kept are the slots of the actions that were carried out or broke down. -/
theorem Course.mem_slots_iff (h : s.Course now src w jobs cs w' report) {k : ActionKey} :
    k ∈ (s.accountOf now jobs).slots ↔ ∃ j ∈ jobs, j.Keeps k := by
  rw [h.mem_accountOf_iff Ledger.Account.slots fun _ => rfl]
  simp only [Story.mem_slots_iff, Job.Keeps]

/-- Granted are the slots of the actions that were attempted. -/
theorem Course.mem_granted_iff (h : s.Course now src w jobs cs w' report) {k : ActionKey} :
    k ∈ (s.accountOf now jobs).granted ↔ ∃ j ∈ jobs, j.Attempts k := by
  rw [h.mem_accountOf_iff Ledger.Account.granted fun _ => rfl]
  simp only [Story.mem_granted_iff, Job.Attempts]

/-- Refused are the slots of the actions that were skipped. -/
theorem Course.mem_refused_iff (h : s.Course now src w jobs cs w' report) {k : ActionKey} :
    k ∈ (s.accountOf now jobs).refused ↔ ∃ j ∈ jobs, j.Skips k := by
  rw [h.mem_accountOf_iff Ledger.Account.refused fun _ => rfl]
  simp only [Story.mem_refused_iff, Job.Skips]

end Scheduler
end KitchenFlow
