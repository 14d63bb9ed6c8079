import KitchenFlow.Proofs.Schedule.Evaluations
import Mathlib.Data.List.Flatten

/-!
# Workers that share a ledger

From the outside an evaluation is a worker that asks for slots, one at a time. If a slot is granted,
the worker calls a collaborator, and unless the call succeeds it gives the slot back. Which slots it
asks for and how its calls come out is left open. Any number of workers do this at the same time,
and each step of one can come between any two of another.

A worker holds the slot of its present call, and for good those of its calls that succeeded. The
slots that workers hold are all different and all in the ledger, whatever the ledger was before:

    Workers.exclusive             no slot has two holders, no key two successful calls
    Scheduler.workers_of_reaches  evaluations that take turns are such workers

Together they say that evaluations under way at the same time do not get into each other's way
(`Scheduler.owned_of_reaches`).
-/

namespace KitchenFlow

/-- What a worker is about to do. -/
inductive Activity where
  /-- To ask for a slot. -/
  | ready
  /-- To call a collaborator, for the slot that was granted. -/
  | calling (key : ActionKey)
  /-- To give the slot back after a call that did not succeed. -/
  | returning (key : ActionKey)
deriving DecidableEq, Repr

/-- The slot that an activity is about. -/
def Activity.slot : Activity → List ActionKey
  | .ready => []
  | .calling key | .returning key => [key]

structure Worker where
  activity : Activity
  /-- The keys of the calls that succeeded, in order. -/
  successes : List ActionKey
deriving DecidableEq, Repr

namespace Worker

/-- A worker that has done nothing yet. -/
def fresh : Worker := ⟨.ready, []⟩

/-- The slots granted to a worker that it has not given back. -/
def slots (v : Worker) : List ActionKey := v.activity.slot ++ v.successes

/-- What a worker does in a step, all of it at once. -/
inductive Act (now : Instant) (window : Span) : Worker × Ledger → Worker × Ledger → Prop where
  | admitted {key ks l l'} : l.reserve key now window = (true, l') →
      Act now window (⟨.ready, ks⟩, l) (⟨.calling key, ks⟩, l')
  | refused {key ks l l'} : l.reserve key now window = (false, l') →
      Act now window (⟨.ready, ks⟩, l) (⟨.ready, ks⟩, l')
  | succeeded {key ks l} : Act now window (⟨.calling key, ks⟩, l) (⟨.ready, ks ++ [key]⟩, l)
  | failed {key ks l} : Act now window (⟨.calling key, ks⟩, l) (⟨.returning key, ks⟩, l)
  | released {key ks l} :
      Act now window (⟨.returning key, ks⟩, l) (⟨.ready, ks⟩, l.release key)

end Worker

/-- One of several workers does its next step. A worker that is never the one has stopped. -/
inductive Workers.Step (now : Instant) (window : Span) :
    List Worker × Ledger → List Worker × Ledger → Prop where
  | mk {before after v l} (b : Worker × Ledger) : Worker.Act now window (v, l) b →
      Step now window (before ++ v :: after, l) (before ++ b.1 :: after, b.2)

/-- Workers in the course of their steps, with the ledger they have made of another one. -/
abbrev Workers.Reaches (now : Instant) (window : Span) :
    List Worker × Ledger → List Worker × Ledger → Prop :=
  Relation.ReflTransGen (Workers.Step now window)

variable {now : Instant} {window : Span}

/-! ## Who holds a slot -/

open Ledger (Owned)

/-- In each step a worker keeps what it owns, and leaves to the others what is theirs. -/
theorem Worker.Act.owned {v : Worker} {l : Ledger} {b : Worker × Ledger} {rest : List ActionKey}
    (h : Act now window (v, l) b) (hw : 0 < window) (ho : Owned now (v.slots ++ rest) l) :
    Owned now (b.1.slots ++ rest) b.2 := by
  cases h with
  | @admitted key ks l l' hreserve =>
    unfold Ledger.reserve at hreserve
    split at hreserve
    · cases hreserve
    · next hfree =>
      obtain ⟨-, rfl⟩ := Prod.mk.inj hreserve
      exact ho.put hw (Bool.eq_false_iff.2 hfree)
  | refused hreserve =>
    unfold Ledger.reserve at hreserve
    split at hreserve
    · obtain ⟨-, rfl⟩ := Prod.mk.inj hreserve
      exact ho
    · cases hreserve
  -- a slot that is kept goes from the call to the successes
  | @succeeded key ks l => exact ho.perm (List.perm_append_singleton key ks |>.append_right rest)
  | failed => exact ho
  | released => exact ho.release

namespace Workers

variable {a b : List Worker × Ledger}

theorem Step.owned (h : Step now window a b) (hw : 0 < window)
    (ho : Owned now (a.1.flatMap Worker.slots) a.2) :
    Owned now (b.1.flatMap Worker.slots) b.2 := by
  cases h with
  | @mk before after v l b hact =>
    have hfirst (u : Worker) : ((before ++ u :: after).flatMap Worker.slots).Perm
        (u.slots ++ (before ++ after).flatMap Worker.slots) := by
      rw [← List.flatMap_cons]
      exact List.perm_middle.flatMap_right _
    exact (hact.owned hw (ho.perm (hfirst v).symm)).perm (hfirst b.1)

theorem Reaches.owned (h : Reaches now window a b) (hw : 0 < window)
    (ho : Owned now (a.1.flatMap Worker.slots) a.2) :
    Owned now (b.1.flatMap Worker.slots) b.2 := by
  induction h with
  | refl => exact ho
  | tail _ hstep ih => exact hstep.owned hw ih

/-- Workers that have not begun hold nothing. -/
theorem owned_fresh (n : Nat) (l : Ledger) :
    Owned now ((List.replicate n Worker.fresh).flatMap Worker.slots) l := by
  have hnil : (List.replicate n Worker.fresh).flatMap Worker.slots = [] := by
    rw [List.flatMap_eq_nil_iff]
    intro v hv
    rw [List.eq_of_mem_replicate hv]
    rfl
  rw [hnil]
  exact ⟨.nil, by simp⟩

/-- However many workers take turns at a ledger, at no moment has a slot two holders. Who gives a
slot back gives back what is its own, and all that workers hold then is in the ledger before and
after. No two calls for one key succeed. -/
theorem exclusive {n : Nat} {l₀ l : Ledger} {pool : List Worker} (hw : 0 < window)
    (h : Reaches now window (List.replicate n .fresh, l₀) (pool, l)) :
    (pool.Pairwise fun u v => u.slots.Disjoint v.slots) ∧
    (∀ before key ks after, pool = before ++ ⟨.returning key, ks⟩ :: after →
      l.get? key = some now ∧ ∀ v ∈ before ++ ⟨.ready, ks⟩ :: after, ∀ k ∈ v.slots,
        l.get? k = some now ∧ (l.release key).get? k = some now) ∧
    (pool.flatMap Worker.successes).Nodup := by
  have ho : Owned now (pool.flatMap Worker.slots) l := h.owned hw (owned_fresh n l₀)
  refine ⟨(List.nodup_flatMap.1 ho.nodup).2, ?_, ?_⟩
  · rintro before key ks after rfl
    -- what is held after the slot is given back was held before as well
    have hreleased : Owned now ((before ++ ⟨.ready, ks⟩ :: after).flatMap Worker.slots)
        (l.release key) := Reaches.owned (h.tail (.mk _ .released)) hw (owned_fresh n l₀)
    have hheld : ((before ++ ⟨.ready, ks⟩ :: after).flatMap Worker.slots).Sublist
        ((before ++ ⟨.returning key, ks⟩ :: after).flatMap Worker.slots) := by
      simp only [List.flatMap_append, List.flatMap_cons]
      exact .append (.refl _) (.append (List.sublist_cons_self key ks) (.refl _))
    refine ⟨ho.get? key (by simp [Worker.slots, Activity.slot]), fun v hv k hk => ?_⟩
    have hmem := List.mem_flatMap.2 ⟨v, hv, hk⟩
    exact ⟨ho.get? k (hheld.mem hmem), hreleased.get? k hmem⟩
  · have hsuccesses : (pool.flatMap Worker.successes).Sublist (pool.flatMap Worker.slots) :=
      List.Sublist.flatMap_right pool fun v _ => List.sublist_append_right _ _
    exact hsuccesses.nodup ho.nodup

namespace Example

def milkSlot : ActionKey := ⟨"flow-dairy-alert", "item-101", "notify-1"⟩

def eggsSlot : ActionKey := ⟨"flow-dairy-alert", "item-102", "notify-1"⟩

end Example

/-- While the first of two workers is about to give the slot of the milk back, the second one is
refused it and holds that of the eggs, which it keeps. -/
theorem exclusive_milk :
    ∃ l, Reaches ⟨0, 0⟩ (.ofSeconds 60) (List.replicate 2 .fresh, .empty)
        ([⟨.returning Example.milkSlot, []⟩, ⟨.calling Example.eggsSlot, []⟩], l) ∧
      l.get? Example.milkSlot = some ⟨0, 0⟩ ∧
      (l.release Example.milkSlot).get? Example.eggsSlot = some ⟨0, 0⟩ := by
  have hreach : Reaches ⟨0, 0⟩ (.ofSeconds 60) (List.replicate 2 .fresh, .empty)
      ([⟨.returning Example.milkSlot, []⟩, ⟨.calling Example.eggsSlot, []⟩],
        (Ledger.empty.put Example.milkSlot ⟨0, 0⟩).put Example.eggsSlot ⟨0, 0⟩) :=
    Relation.ReflTransGen.refl
      |>.tail (@Step.mk _ _ [] [.fresh] _ _ _ (@Worker.Act.admitted _ _ Example.milkSlot _ _ _ rfl))
      |>.tail (@Step.mk _ _ [_] [] _ _ _ (@Worker.Act.refused _ _ Example.milkSlot _ _ _ rfl))
      |>.tail (@Step.mk _ _ [] [_] _ _ _ .failed)
      |>.tail (@Step.mk _ _ [_] [] _ _ _ (@Worker.Act.admitted _ _ Example.eggsSlot _ _ _ rfl))
  obtain ⟨-, hreturn, -⟩ := exclusive (by decide) hreach
  obtain ⟨hown, hothers⟩ := hreturn [] _ _ _ rfl
  exact ⟨_, hreach, hown, (hothers ⟨.calling Example.eggsSlot, []⟩ (by decide) _ (by decide)).2⟩

/-! ## Some of several workers -/

/-- What the first worker does alone, the others being idle. -/
theorem reaches_of_acts {v : Worker} {l : Ledger} {c : Worker × Ledger} (rest : List Worker)
    (h : Relation.ReflTransGen (Worker.Act now window) (v, l) c) :
    Reaches now window (v :: rest, l) (c.1 :: rest, c.2) :=
  h.lift (fun c => (c.1 :: rest, c.2)) fun _ c hact => @Step.mk now window [] rest _ _ c hact

/-- What the others do, the first worker being idle. -/
theorem Reaches.cons (h : Reaches now window a b) (v : Worker) :
    Reaches now window (v :: a.1, a.2) (v :: b.1, b.2) := by
  refine h.lift (fun a => (v :: a.1, a.2)) fun a b hstep => ?_
  cases hstep with
  | @mk before after _ _ c hact => exact @Step.mk now window (v :: before) after _ _ c hact

end Workers

/-! ## Evaluations are workers -/

namespace Runner

/-- What a run under way is about to do at the ledger, unless it is over. -/
def activity? (x : RunContext) (r : Runner) : Option Activity :=
  match r.stage with
  | .walking => some .ready
  | .calling n _ => some (.calling (NodeTask.actionKey x r.payload n.id))
  | .returning n _ _ => some (.returning (NodeTask.actionKey x r.payload n.id))
  | .ended => none

/-- A worker in the place of a run under way. A run can end in the middle of a call that breaks
down; its worker then stays there. -/
structure Plays (x : RunContext) (r : Runner) (v : Worker) : Prop where
  activity : ∀ a ∈ r.activity? x, v.activity = a
  successes : v.successes = r.dispatched x

variable {g : FlowGraph} {e : Engine} {x : RunContext} {gd : Guard} {r : Runner} {n : GraphNode}
  {w : World} {v : Worker} {ks : List ActionKey}

theorem activity?_tell (effect : NodeEffect) :
    (r.tell g n effect).activity? x = if effect.isAbort then none else some .ready := by
  cases effect <;> rfl

theorem eq_ready_of_mem_tell {effect : NodeEffect} {a : Activity}
    (h : a ∈ (r.tell g n effect).activity? x) : Activity.ready = a := by
  rw [activity?_tell] at h
  split at h
  · cases h
  · exact Option.some.inj h

/-- What a worker does while the run in its place goes from `r` to another step. -/
def Follows (gd : Guard) (x : RunContext) (v : Worker) (l : Ledger) (sent : List ActionKey)
    (b : Runner × World) : Prop :=
  ∃ v', Relation.ReflTransGen (Worker.Act gd.now gd.window) (v, l) (v', b.2.ledger) ∧
    v'.successes = v.successes ++ sent ∧ ∀ a ∈ b.1.activity? x, v'.activity = a

theorem follows_enter (hm : x.mode = .live) (hg : x.guard = some gd) :
    Follows gd x ⟨.ready, ks⟩ w.ledger [] (r.enter g e x n w) := by
  unfold enter
  split
  · next a _ _ =>
    rcases hres : NodeTask.reserve x (NodeTask.actionKey x r.payload n.id) w with ⟨granted, w'⟩
    have hreserve : w.ledger.reserve (NodeTask.actionKey x r.payload n.id) gd.now gd.window =
        (granted, w'.ledger) := by
      rw [NodeTask.reserve, hg] at hres
      cases hres
      rfl
    cases granted with
    | false =>
      exact ⟨_, .single (.refused hreserve), (List.append_nil ks).symm,
        fun _ => eq_ready_of_mem_tell⟩
    | true =>
      exact ⟨_, .single (.admitted hreserve), (List.append_nil ks).symm, fun _ => Option.some.inj⟩
  · next hact =>
    rcases hstep : n.config.task.step e x n.id r.payload w with ⟨effect, w'⟩
    have hl := (NodeTask.step_idle hstep fun a ha => hact a ha hm).2
    refine ⟨⟨.ready, ks⟩, ?_, (List.append_nil ks).symm, fun _ => eq_ready_of_mem_tell⟩
    rw [hl]

theorem follows_walk (hm : x.mode = .live) (hg : x.guard = some gd) (hr : r.stage = .walking) :
    Follows gd x ⟨.ready, ks⟩ w.ledger [] (r.walk g e x w) := by
  have hready : ∀ a ∈ r.activity? x, Activity.ready = a := by
    rw [activity?, hr]
    exact fun _ => Option.some.inj
  unfold walk
  split
  · exact ⟨_, .refl, (List.append_nil ks).symm, nofun⟩
  · exact ⟨_, .refl, (List.append_nil ks).symm, by simpa only [activity?, hr] using hready⟩
  · split
    · exact ⟨_, .refl, (List.append_nil ks).symm, by simpa only [activity?, hr] using hready⟩
    · exact follows_enter hm hg

theorem follows_call {a : Action} {key : ActionKey}
    (hkey : NodeTask.actionKey x r.payload n.id = key) :
    Follows gd x ⟨.calling key, ks⟩ w.ledger
      (if (a.attempt e r.payload w).1 = .sent then [key] else []) (r.call g e n a w) := by
  have hl := a.attempt_ledger e r.payload w
  unfold call
  rcases hatt : a.attempt e r.payload w with ⟨result, w'⟩
  rw [hatt] at hl
  rw [← hl]
  cases result with
  | sent => exact ⟨_, .single .succeeded, rfl, fun _ => eq_ready_of_mem_tell⟩
  | unavailable | failed =>
    refine ⟨_, .single .failed, (List.append_nil ks).symm, ?_⟩
    rw [← hkey]
    exact fun _ => Option.some.inj
  -- the worker is left where it is
  | broke => exact ⟨_, .refl, (List.append_nil ks).symm, nofun⟩

/-- The worker in the place of a live, guarded run does what the run does. -/
theorem Plays.follows (h : r.Plays x v) (hm : x.mode = .live) (hg : x.guard = some gd) :
    Follows gd x v w.ledger (r.sent? e x w).toList (r.advance g e x w) := by
  obtain ⟨activity, ks⟩ := v
  have hactivity := h.activity
  unfold activity? at hactivity
  unfold advance sent?
  cases hr : r.stage with
  | walking =>
    obtain rfl : activity = .ready := hactivity _ (by rw [hr]; rfl)
    exact follows_walk hm hg hr
  | calling n a =>
    obtain rfl := hactivity _ (by rw [hr]; rfl)
    dsimp only
    rw [apply_ite Option.toList]
    exact follows_call rfl
  | returning n effect ho =>
    obtain rfl := hactivity _ (by rw [hr]; rfl)
    refine ⟨⟨.ready, ks⟩, .single ?_, (List.append_nil ks).symm, fun _ => eq_ready_of_mem_tell⟩
    dsimp only
    rw [NodeTask.release_of_guard hg]
    exact .released
  | ended => exact ⟨_, .refl, (List.append_nil ks).symm, by simp [activity?, hr]⟩

end Runner
namespace Scheduler

variable {s : Scheduler} {evs : List Evaluation} {jobs : List Job} {w w' : World}

/-- Workers in the places of evaluations under way. -/
def Played (s : Scheduler) (now : Instant) : List Job → List Worker → Prop :=
  List.Forall₂ fun j v => j.runner.Plays (s.context now j.evaluation) v

theorem played_job (evs : List Evaluation) :
    s.Played now (evs.map job) (List.replicate evs.length .fresh) := by
  induction evs with
  | nil => exact .nil
  | cons ev evs ih => exact .cons ⟨fun _ => Option.some.inj, rfl⟩ ih

/-- Each step of an evaluation is made of steps of its worker. -/
theorem Step.workers {a b : List Job × World} (h : s.Step now a b) {pool : List Worker}
    (hp : s.Played now a.1 pool) : ∃ pool',
      Workers.Reaches now s.window (pool, a.2.ledger) (pool', b.2.ledger) ∧
        s.Played now b.1 pool' := by
  cases h with
  | @mk before after ev r w b hb =>
    induction before generalizing pool with
    | nil =>
      cases hp with
      | @cons _ v _ rest hplays hrest =>
        obtain ⟨v', hacts, hsuccesses, hactivity⟩ := hplays.follows rfl rfl
        have hdone := (moves_of_advance hb).dispatched
        rw [hb] at hacts hactivity
        refine ⟨v' :: rest, Workers.reaches_of_acts rest hacts, .cons ⟨hactivity, ?_⟩ hrest⟩
        rw [hsuccesses, hplays.successes, hdone]
    | cons j before ih =>
      cases hp with
      | @cons _ v _ rest hplays hrest =>
        obtain ⟨pool', hreach, hp'⟩ := ih hrest
        exact ⟨v :: pool', hreach.cons v, .cons hplays hp'⟩

/-- Evaluations that take turns are workers that take turns: what they have carried out is what the
calls of the workers had success with, and they have made the same of the ledger. -/
theorem workers_of_reaches (h : Relation.ReflTransGen (s.Step now) (evs.map job, w) (jobs, w')) :
    ∃ pool, Workers.Reaches now s.window (List.replicate evs.length .fresh, w.ledger)
      (pool, w'.ledger) ∧ s.Played now jobs pool := by
  generalize hb : (jobs, w') = b at h
  induction h generalizing jobs w' with
  | refl =>
    obtain ⟨rfl, rfl⟩ := Prod.mk.inj hb
    exact ⟨_, .refl, played_job evs⟩
  | @tail b c _ hstep ih =>
    subst hb
    obtain ⟨pool, hreach, hp⟩ := ih rfl
    obtain ⟨pool', hreach', hp'⟩ := hstep.workers hp
    exact ⟨pool', hreach.trans hreach', hp'⟩

theorem sublist_slots_of_plays {j : Job} {v : Worker}
    (h : j.runner.Plays (s.context now j.evaluation) v) :
    (s.heldIn now j ++ s.doneIn now j).Sublist v.slots := by
  have hactivity := h.activity
  rw [Worker.slots, h.successes]
  refine List.Sublist.append ?_ (.refl _)
  unfold Runner.activity? at hactivity
  unfold heldIn Runner.holding
  cases hr : j.runner.stage with
  | walking | ended => exact List.nil_sublist _
  | calling n a | returning n effect ho =>
    rw [hactivity _ (by rw [hr]; rfl)]
    exact .refl _

/-- At every moment, the slots that evaluations hold and those of what they have carried out are all
different, and they are in the ledger. -/
theorem owned_of_reaches (hw : 0 < s.window)
    (h : Relation.ReflTransGen (s.Step now) (evs.map job, w) (jobs, w')) :
    Owned now (jobs.flatMap fun j => s.heldIn now j ++ s.doneIn now j) w'.ledger := by
  obtain ⟨pool, hreach, hp⟩ := workers_of_reaches h
  have ho : Owned now (pool.flatMap Worker.slots) w'.ledger :=
    hreach.owned hw (Workers.owned_fresh _ _)
  refine ho.sublist ?_
  clear ho hreach h
  induction hp with
  | nil => exact .refl _
  | cons hplays _ ih => exact .append (sublist_slots_of_plays hplays) ih

end Scheduler
end KitchenFlow
