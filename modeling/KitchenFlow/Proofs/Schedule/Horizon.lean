import KitchenFlow.Proofs.Inventory
import KitchenFlow.Proofs.Schedule.Coverage
import KitchenFlow.Proofs.Schedule.Quiet
import KitchenFlow.Store.Files

/-!
# The horizon of a store

Stores keep items from a tick that are neither near their expiry nor flagged, whatever the triggers
of the flows ask for. If no trigger would have matched one of these, a tick on what the store
reports and a tick on everything that there is can go the same ways: they tell the same of the
items that are reported, make the same calls and leave the same world behind.

    FlowSource.nearExpiry      a source that keeps such items back
    Courses.narrow             a tick on everything, seen from the items that are reported
    Courses.widen              a tick on what is reported, with the other items put back
    keeps_back                 what is kept back, and that it makes no difference otherwise
    hidden_from_triggers       triggers that find nothing because of the horizon
-/

namespace KitchenFlow

/-! ## Sources -/

/-- A source that reports the items near expiry only. -/
def FlowSource.nearExpiry (src : FlowSource) (horizon : Int) : FlowSource :=
  ⟨src.flows, fun org => (src.items org).map (·.filter (·.isNearExpiry horizon))⟩

/-- All that there is in a store. -/
def MemoryStore.everything (s : MemoryStore) : FlowSource :=
  ⟨fun org => .ok (s.activeFlows org), fun org => .ok ((s.inventories.lookup org).getD [])⟩

theorem MemoryStore.source_eq (s : MemoryStore) :
    s.source = s.everything.nearExpiry defaultHorizon := rfl

/-- All that there is in a store. -/
def FileStore.everything (s : FileStore) (t : FileTree) : FlowSource :=
  ⟨s.activeFlows t, fun org => do
    match ← readOptional (s.inventoryPath org) (t.contents (s.inventoryPath org)) with
    | none => .ok []
    | some bytes =>
      (Decoder.ofBytes (.list InventoryItem.decoder) bytes).mapError fun e =>
        .during "failed to parse inventory" e.message⟩

theorem FileStore.source_eq (s : FileStore) (t : FileTree) :
    s.source t = (s.everything t).nearExpiry s.horizon := by
  have hitems : s.itemsNearExpiry t = fun org =>
      ((s.everything t).items org).map (·.filter (·.isNearExpiry s.horizon)) := by
    funext org
    unfold itemsNearExpiry everything
    dsimp only
    cases readOptional (s.inventoryPath org) (t.contents (s.inventoryPath org)) with
    | error e => rfl
    | ok bytes? =>
      cases bytes? with
      | none => rfl
      | some bytes =>
        dsimp only [bind, Except.bind]
        cases Decoder.ofBytes (.list InventoryItem.decoder) bytes <;> rfl
  rw [source, hitems]
  rfl

/-! ## Reports -/

/-- The same report, of another number of evaluations. -/
def TickReport.withPairs (r : TickReport) (pairs : Nat) : TickReport :=
  { r with pairsEvaluated := pairs }

theorem Job.foldl_note_withPairs (jobs : List Job) (r : TickReport) (pairs : Nat) :
    jobs.foldl Job.note (r.withPairs pairs) = (jobs.foldl Job.note r).withPairs pairs := by
  induction jobs generalizing r with
  | nil => rfl
  | cons j jobs ih =>
    have hnote : j.note (r.withPairs pairs) = (j.note r).withPairs pairs := by
      unfold Job.note
      cases j.result <;> rfl
    rw [List.foldl_cons, hnote, ih, List.foldl_cons]

namespace Scheduler

variable {s : Scheduler} {now : Instant} {src : FlowSource} {w w' : World} {jobs : List Job}
  {cs : List (ActionKey × Call)} {report : TickReport} {horizon : Int}

/-- An evaluation of an item near expiry. -/
def isNear (horizon : Int) (ev : Evaluation) : Bool := ev.payload.item.isNearExpiry horizon

/-! ## What there is to evaluate -/

theorem load_nearExpiry (src : FlowSource) (horizon : Int) (org : String) :
    load (src.nearExpiry horizon) org =
      (load src org).map fun (flows, items) => (flows, items.filter (·.isNearExpiry horizon)) := by
  unfold load FlowSource.nearExpiry
  dsimp only [bind, Except.bind]
  cases src.flows org with
  | error e => rfl
  | ok flows => cases src.items org <;> rfl

theorem error_of_load_nearExpiry {org : String} {err : StoreError}
    (h : load (src.nearExpiry horizon) org = .error err) : load src org = .error err := by
  rw [load_nearExpiry] at h
  cases hload : load src org with
  | error err' =>
    rw [hload] at h
    exact congrArg Except.error (Except.error.inj h)
  | ok loaded =>
    rw [hload] at h
    cases h

theorem exists_of_load_nearExpiry {org : String} {flows : List Flow} {items : List InventoryItem}
    (h : load (src.nearExpiry horizon) org = .ok (flows, items)) :
    ∃ all, load src org = .ok (flows, all) ∧ all.filter (·.isNearExpiry horizon) = items := by
  rw [load_nearExpiry] at h
  cases hload : load src org with
  | error err' =>
    rw [hload] at h
    cases h
  | ok loaded =>
    rw [hload] at h
    cases h
    exact ⟨_, rfl, rfl⟩

theorem evaluationsOf_filter (org : String) (now : Instant) (items : List InventoryItem) (f : Flow)
    (g : FlowGraph) (horizon : Int) :
    evaluationsOf org now (items.filter (·.isNearExpiry horizon)) f g =
      (evaluationsOf org now items f g).filter (isNear horizon) := by
  unfold evaluationsOf
  induction items with
  | nil => rfl
  | cons item items ih =>
    -- all evaluations of an item are near expiry, or none of them
    have hitem : (f.triggerEvents.map fun event => (⟨g, payloadFor org item event now⟩ :
        Evaluation)).filter (isNear horizon) =
        if item.isNearExpiry horizon then
          f.triggerEvents.map fun event => ⟨g, payloadFor org item event now⟩ else [] := by
      rw [List.filter_map]
      show (f.triggerEvents.filter fun _ => item.isNearExpiry horizon).map _ = _
      cases item.isNearExpiry horizon <;> simp
    rw [List.flatMap_cons, List.filter_append, hitem, ← ih, List.filter_cons]
    split <;> rfl

theorem plan_filter (s : Scheduler) (org : String) (now : Instant) (items : List InventoryItem)
    (horizon : Int) (flows : List Flow) (r : TickReport) (pairs : Nat) :
    s.plan org now (items.filter (·.isNearExpiry horizon)) flows (r.withPairs pairs) =
      ((s.plan org now items flows r).1.filter (isNear horizon),
        (s.plan org now items flows r).2.withPairs pairs) := by
  induction flows generalizing r with
  | nil => rfl
  | cons f flows ih =>
    unfold plan
    cases f.validate s.engine.registry with
    | error e =>
      exact ih ({ r with flowsEvaluated := r.flowsEvaluated + 1 }.fail ⟨f.id, "*", e.message⟩)
    | ok g =>
      have ih := ih { r with flowsEvaluated := r.flowsEvaluated + 1 }
      dsimp only [TickReport.withPairs] at ih ⊢
      rw [ih, List.filter_append, evaluationsOf_filter]

theorem evaluationsAt_of_plan {org : String} {flows : List Flow} {items : List InventoryItem}
    {r planned : TickReport} {evs : List Evaluation} (hload : load src org = .ok (flows, items))
    (hplan : s.plan org now items flows r = (evs, planned)) :
    s.evaluationsAt now src org = evs := by
  rw [evaluationsAt, hload]
  dsimp only
  rw [← s.plan_eq now org items flows r, hplan]

/-! ## Ticks on more and on less -/

namespace Courses

variable {orgs : List String} {a b : World × TickReport}

/-- A tick on everything, seen from the items near expiry. -/
theorem narrow (h : s.Courses now src orgs a jobs cs b)
    (hquiet : ∀ org ∈ orgs, ∀ ev ∈ s.evaluationsAt now src org, isNear horizon ev = false →
      ev.Quiet) (pairs : Nat) :
    (∃ pairs', s.Courses now (src.nearExpiry horizon) orgs (a.1, a.2.withPairs pairs)
      (jobs.filter fun j => isNear horizon j.evaluation) cs (b.1, b.2.withPairs pairs')) ∧
    ∀ j ∈ jobs, isNear horizon j.evaluation = false → j.Quiet := by
  induction h generalizing pairs with
  | nil => exact ⟨⟨pairs, .nil⟩, by simp⟩
  | @missing org _ err w r _ _ _ hload _ ih =>
    obtain ⟨⟨pairs', hrest⟩, hothers⟩ := ih (List.forall_mem_cons.1 hquiet).2 pairs
    have hload' : load (src.nearExpiry horizon) org = .error err := by
      rw [load_nearExpiry, hload]
      rfl
    exact ⟨⟨pairs', .missing hload' hrest⟩, hothers⟩
  | @evaluated org _ flows items w r evs planned jobs _ w₁ clock _ _ _ ended hload hplan hadvances
      hended hperm _ ih =>
    obtain ⟨hfirst, hrest⟩ := List.forall_mem_cons.1 hquiet
    rw [evaluationsAt_of_plan hload hplan] at hfirst
    obtain ⟨hnarrow, hjobs⟩ := hadvances.without_quiet hfirst
    have hload' : load (src.nearExpiry horizon) org =
        .ok (flows, items.filter (·.isNearExpiry horizon)) := by
      rw [load_nearExpiry, hload]
      rfl
    have hplan' := s.plan_filter org now items horizon flows r pairs
    rw [hplan] at hplan'
    have hended' : ∀ j ∈ jobs.filter fun j => isNear horizon j.evaluation,
        j.runner.stage = .ended := fun j hj => hended j (List.mem_of_mem_filter hj)
    have hnote : (ended.filter fun j => isNear horizon j.evaluation).foldl Job.note
        (planned.withPairs (pairs + (evs.filter (isNear horizon)).length)) =
        (ended.foldl Job.note
          { planned with pairsEvaluated := planned.pairsEvaluated + evs.length }).withPairs
            (pairs + (evs.filter (isNear horizon)).length) := by
      rw [Job.foldl_note_filter _ fun j hj => hjobs j (hperm.subset hj), ← Job.foldl_note_withPairs]
      rfl
    obtain ⟨⟨pairs', hlast⟩, hothers⟩ :=
      ih hrest (pairs + (evs.filter (isNear horizon)).length)
    dsimp only at hlast
    rw [← hnote] at hlast
    refine ⟨⟨pairs', ?_⟩, List.forall_mem_append.2 ⟨hjobs, hothers⟩⟩
    rw [List.filter_append]
    exact .evaluated hload' hplan' hnarrow hended' (hperm.filter _) hlast

/-- A tick on what is near expiry, with the other items put back. -/
theorem widen (h : s.Courses now (src.nearExpiry horizon) orgs a jobs cs b)
    (hquiet : ∀ org ∈ orgs, ∀ ev ∈ s.evaluationsAt now src org, isNear horizon ev = false →
      ev.Quiet) (pairs : Nat) :
    ∃ all pairs', s.Courses now src orgs (a.1, a.2.withPairs pairs) all cs
        (b.1, b.2.withPairs pairs') ∧
      (all.filter fun j => isNear horizon j.evaluation) = jobs := by
  induction h generalizing pairs with
  | nil => exact ⟨[], pairs, .nil, rfl⟩
  | @missing org _ err w r _ _ _ hload _ ih =>
    obtain ⟨all, pairs', hrest, hall⟩ := ih (List.forall_mem_cons.1 hquiet).2 pairs
    exact ⟨all, pairs', .missing (error_of_load_nearExpiry hload) hrest, hall⟩
  | @evaluated org _ flows items w r evs planned jobs _ w₁ clock jobs' _ _ ended hload hplan
      hadvances hended hperm _ ih =>
    obtain ⟨hfirst, hrest⟩ := List.forall_mem_cons.1 hquiet
    obtain ⟨items₀, hload₀, rfl⟩ := exists_of_load_nearExpiry hload
    -- the report of the one tick differs from that of the other one by the pairs only
    rcases hplan₀ : s.plan org now items₀ flows (r.withPairs pairs) with ⟨evs₀, planned₀⟩
    have hboth := s.plan_filter org now items₀ horizon flows (r.withPairs pairs) r.pairsEvaluated
    rw [hplan₀] at hboth
    obtain ⟨rfl, rfl⟩ := Prod.mk.inj (hplan.symm.trans hboth)
    rw [evaluationsAt_of_plan hload₀ hplan₀] at hfirst
    obtain ⟨all, hall, rfl, hended₀⟩ := hadvances.among_quiet hended hfirst
    obtain ⟨-, hothers⟩ := hall.without_quiet hfirst
    -- the evaluations of the other items end last
    set rest := all.filter fun j => !isNear horizon j.evaluation
    have hperm₀ : (ended ++ rest).Perm all :=
      (hperm.append_right rest).trans (List.filter_append_perm _ all)
    have hnote (r : TickReport) :
        (ended ++ rest).foldl Job.note r = ended.foldl Job.note r := by
      have hrest : ∀ j ∈ rest, j.Quiet := by
        intro j hj
        obtain ⟨hj, hfar⟩ := List.mem_filter.1 hj
        exact hothers j hj (by simpa using hfar)
      rw [List.foldl_append, Job.foldl_note_of_quiet hrest]
    obtain ⟨more, pairs', hmore, hfilter⟩ := ih hrest (planned₀.pairsEvaluated + evs₀.length)
    dsimp only at hmore
    rw [← Job.foldl_note_withPairs, ← hnote] at hmore
    refine ⟨all ++ more, pairs', .evaluated hload₀ hplan₀ hall hended₀ hperm₀ hmore, ?_⟩
    rw [List.filter_append, hfilter]

end Courses

/-- If no item that is kept back matches a trigger, its evaluations have nothing to do. -/
theorem quiet_of_seen
    (hseen : ∀ org ∈ s.organizations, ∀ flows items, load src org = .ok (flows, items) →
      ∀ f ∈ flows, ∀ g, f.validate s.engine.registry = .ok g → ∀ n ∈ g.nodes, ∀ item ∈ items,
        n.isMatch item = true → item.isNearExpiry horizon = true) :
    ∀ org ∈ s.organizations, ∀ ev ∈ s.evaluationsAt now src org, isNear horizon ev = false →
      ev.Quiet := by
  intro org horg ev hev hfar n hn
  have hev : ev ∈ s.evaluations now src := List.mem_flatMap.2 ⟨org, horg, hev⟩
  obtain ⟨org, horg, flows, items, hload, f, hf, g, hg, item, hitem, event, -, rfl⟩ :=
    mem_evaluations_iff.1 hev
  have hmem := (FlowGraph.mem_roots (FlowGraph.mem_listeners_iff.1 hn).1).1
  rw [← Bool.not_eq_true]
  intro hmatch
  have hnear := hseen org horg flows items hload f hf g hg n hmem item hitem hmatch
  cases hnear.symm.trans hfar

/-- Stores report the items near expiry. An expiration trigger can match an item that is kept back
if, and only if, it looks further ahead than the store, which is not possible for a store that looks
ahead as far as days are counted; and a status trigger if, and only if, it asks for what is in
stock. As long as no trigger matches an item that is kept back, a tick on what the store reports and
a tick on all that there is can go the same ways, with the same evaluations of the items reported,
the same calls, the same report apart from the number of evaluations, and the same world left
behind. -/
theorem keeps_back (horizon : Int)
    (hseen : ∀ org ∈ s.organizations, ∀ flows items, load src org = .ok (flows, items) →
      ∀ f ∈ flows, ∀ g, f.validate s.engine.registry = .ok g → ∀ n ∈ g.nodes, ∀ item ∈ items,
        n.isMatch item = true → item.isNearExpiry horizon = true) :
    ((∀ m : MemoryStore, m.source = m.everything.nearExpiry defaultHorizon) ∧
      ∀ (m : FileStore) (t : FileTree), m.source t = (m.everything t).nearExpiry m.horizon) ∧
    ((-2 ^ 63 ≤ horizon → ∀ c : ExpirationTriggerConfig,
        (∃ item : InventoryItem, item.Held ∧ c.isMatch item = true ∧
          item.isNearExpiry horizon = false) ↔
            horizon < 2 ^ 63 - 1 ∧ (Binary64.ofInt (horizon + 1)).ble c.timeOffset = true) ∧
      ∀ c : InventoryStatusTriggerConfig,
        (∃ item : InventoryItem, item.Held ∧ c.isMatch item = true ∧
          item.isNearExpiry horizon = false) ↔
            Text.sameLetters (Text.trim c.status) inStock = true ∧ c.threshold ≠ some .nan) ∧
    (∀ now w jobs cs w' report, s.Course now src w jobs cs w' report →
      (∃ pairs, s.Course now (src.nearExpiry horizon) w
        (jobs.filter fun j => isNear horizon j.evaluation) cs w' (report.withPairs pairs)) ∧
      ∀ j ∈ jobs, isNear horizon j.evaluation = false →
        ∃ r, j.result = .ok r ∧ r.stats = .none) ∧
    ∀ now w jobs cs w' report, s.Course now (src.nearExpiry horizon) w jobs cs w' report →
      ∃ all pairs, s.Course now src w all cs w' (report.withPairs pairs) ∧
        (all.filter fun j => isNear horizon j.evaluation) = jobs := by
  refine ⟨⟨MemoryStore.source_eq, FileStore.source_eq⟩,
    ⟨fun hlow _ => ExpirationTriggerConfig.exists_hidden_iff hlow,
      fun _ => InventoryStatusTriggerConfig.exists_hidden_iff⟩, ?_, ?_⟩
  · intro now w jobs cs w' report h
    obtain ⟨hcourse, hothers⟩ := Courses.narrow h (quiet_of_seen hseen) 0
    exact ⟨hcourse, fun j hj hfar => (hothers j hj hfar).exists_result⟩
  · intro now w jobs cs w' report h
    exact Courses.widen h (quiet_of_seen hseen) 0

end Scheduler

/-! ## A shelf of rice -/

namespace Example

/-- Rice in stock that does not expire soon. -/
def rice : InventoryItem :=
  ⟨"item-201", "Rice", some "Grains", none, some "in_stock", some 10, none⟩

/-- A store with a flow and the items of an organization. -/
def larder (f : Flow) (items : List InventoryItem) : MemoryStore :=
  (MemoryStore.empty.putFlow "kitchen" f).putInventory "kitchen" items

/-- A flow that tells of what a trigger matches. -/
def tell (kind : NodeKind) (config : List (String × Json)) : Flow :=
  (({ Flow.empty "flow-tell" "Tell" with
      nodes :=
        [node "trigger" kind 0 0 config,
          node "tell" .sendNotification 0 0
            [("channel", .string "sms"), ("recipient", .string "555"),
              ("message", .string "have a look")]] }.connect "trigger" "tell").publish .epoch)

end Example

namespace Scheduler

/-- Nobody asked for the rice, so the tick that does not see it warns of the milk all the same. -/
theorem keeps_back_rice :
    let s := Example.minuteScheduler fun _ _ => .atOnce (.answer (.ok ""))
    let m := Example.larder Example.lookout [Example.milk, Example.rice]
    ∃ jobs cs w' report pairs, s.Course ⟨0, 0⟩ m.everything .initial jobs cs w' report ∧
      report.triggersMatched = 1 ∧ (∃ j ∈ jobs, isNear defaultHorizon j.evaluation = false) ∧
      s.Course ⟨0, 0⟩ m.source .initial
        (jobs.filter fun j => isNear defaultHorizon j.evaluation) cs w'
        (report.withPairs pairs) := by
  intro s m
  have hseen : ∀ org ∈ s.organizations, ∀ flows items,
      load m.everything org = .ok (flows, items) → ∀ f ∈ flows, ∀ g,
        f.validate s.engine.registry = .ok g → ∀ n ∈ g.nodes, ∀ item ∈ items,
          n.isMatch item = true → item.isNearExpiry defaultHorizon = true := by
    have hload : load m.everything "kitchen" =
        .ok ([Example.lookout], [Example.milk, Example.rice]) := rfl
    have hall : (Example.lookout.validate .builtin).toOption.map (fun g => g.nodes.all fun n =>
        [Example.milk, Example.rice].all fun item =>
          !n.isMatch item || item.isNearExpiry defaultHorizon) = some true := by decide +kernel
    intro org horg flows items hitems f hf g hg n hn item hitem hmatch
    obtain rfl := List.mem_singleton.1 horg
    obtain ⟨rfl, rfl⟩ := Prod.mk.inj (Except.ok.inj (hload.symm.trans hitems))
    obtain rfl := List.mem_singleton.1 hf
    obtain ⟨g', hg', hall⟩ := Option.map_eq_some_iff.1 hall
    obtain rfl := Except.ok.inj (hg.symm.trans (Fallible.toOption_eq_some_iff.1 hg'))
    simpa [hmatch] using List.all_eq_true.1 (List.all_eq_true.1 hall n hn) item hitem
  obtain ⟨jobs, cs, hcourse, -⟩ := s.course_tick ⟨0, 0⟩ m.everything .initial
  obtain ⟨⟨hsource, -⟩, -, hnarrow, -⟩ := keeps_back defaultHorizon hseen
  obtain ⟨⟨pairs, hreported⟩, -⟩ := hnarrow _ _ _ _ _ _ hcourse
  rw [← hsource] at hreported
  have hmatched : (s.tick m.everything ⟨0, 0⟩ .initial).report.triggersMatched = 1 := by
    decide +kernel
  have hfar : ((s.evaluations ⟨0, 0⟩ m.everything).any fun ev => !isNear defaultHorizon ev) =
      true := by decide +kernel
  rw [← hcourse.map_evaluation, List.any_map] at hfar
  obtain ⟨j, hj, hfar⟩ := List.any_eq_true.1 hfar
  exact ⟨jobs, cs, _, _, pairs, hcourse, hmatched, ⟨j, hj, by simpa using hfar⟩, hreported⟩

/-- A trigger that looks a month ahead matches the rice, and so does one that asks for what is in
stock. In what the store reports, neither of them finds anything. -/
theorem hidden_from_triggers :
    let s := Example.minuteScheduler fun _ _ => .atOnce (.answer (.ok ""))
    let month := Example.larder (Example.tell .expirationTrigger [("timeOffset", .ofNat 30)])
      [Example.rice]
    let stock := Example.larder
      (Example.tell .inventoryStatusTrigger [("status", .string "in_stock")]) [Example.rice]
    (s.tick month.everything ⟨0, 0⟩ .initial).report.triggersMatched = 1 ∧
    (s.tick month.source ⟨0, 0⟩ .initial).report.triggersMatched = 0 ∧
    (s.tick stock.everything ⟨0, 0⟩ .initial).report.triggersMatched = 1 ∧
    (s.tick stock.source ⟨0, 0⟩ .initial).report.triggersMatched = 0 := by
  decide +kernel

end Scheduler
end KitchenFlow
