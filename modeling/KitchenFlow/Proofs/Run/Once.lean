import KitchenFlow.Command.Example
import KitchenFlow.Proofs.Run.Bookkeeping
import KitchenFlow.Proofs.Run.Narration

/-!
# No node twice

A walk keeps note of the nodes it has visited, but each trigger begins with a clean slate. That no
node is entered twice in a run is therefore not the doing of the walk alone: it needs that the
triggers of an accepted flow share no node.
-/

namespace KitchenFlow

variable {f : Flow} {r : Registry} {g : FlowGraph}

/-- The trace of a run has no node twice, across all triggers, and only nodes that can be reached
from a trigger that listens for the event. If the ledger knows nothing of the flow and the item, no
action is skipped. -/
theorem Flow.run_enters_once (hg : f.validate r = .ok g) (e : Engine) (mode : RunMode)
    (guard : Option Guard) (p : Payload) (w : World) {res : RunResult}
    (h : (g.run e mode guard p w).result = .ok res) :
    res.trace.Nodup ∧
    (∀ id ∈ res.trace, ∃ n ∈ f.nodes, ∃ k, n.IsKind r k ∧ k.triggerEvent? = some p.triggerEvent ∧
      f.arcs.Reaches n.id id) ∧
    ((∀ id, w.ledger.get? ⟨f.id, p.item.id, id⟩ = none) →
      res.stats.duplicatesSkipped = 0 ∧
      ∀ id, RunEvent.actionSkipped id ∉ (g.run e mode guard p w).events) := by
  have hd := f.depicts_of_validate hg
  have hf := f.wellFormed_of_validate hg
  obtain ⟨s, hwalk, -, htrace, hstats, hevents⟩ := FlowGraph.run_returned h
  -- the triggers that listen are some of the roots, and no two roots reach a node in common
  have hroots : (g.listeners p.triggerEvent).Pairwise _ :=
    (hd.pairwise_roots hf).sublist List.filter_sublist
  have hnd : s.trace.Nodup := hwalk.nodup_trace hroots
  refine ⟨htrace ▸ hnd, ?_, ?_⟩
  · intro id hid
    obtain ⟨n, hn, hreach⟩ := hwalk.reaches id (htrace ▸ hid)
    obtain ⟨hn, hk⟩ := FlowGraph.mem_listeners_iff.1 hn
    obtain ⟨spec, hspec, hid, hkind⟩ := hd.kinds n (FlowGraph.mem_roots hn).1
    exact ⟨spec, hspec, _, hkind, hk, hid ▸ hd.arcs ▸ hreach⟩
  · intro hnone
    -- a skipped action found a reservation that was there before the run
    have hskip : ∀ id, (id, ActionOutcome.duplicate) ∉ s.outcomes := by
      intro id hid
      obtain ⟨gd, -, hh⟩ := hwalk.unfolds.holds_of_duplicate hnd hid
      obtain ⟨t, ht, -⟩ := Ledger.holds_iff.1 hh
      have hkey := hnone id
      rw [← hd.flowId] at hkey
      exact Option.some_ne_none t (ht.symm.trans hkey)
    refine ⟨?_, fun id hid => ?_⟩
    · rw [hstats, Story.duplicatesSkipped_eq, Story.outcomeCount, List.countP_eq_zero]
      rintro ⟨id, o⟩ hid ho
      obtain rfl : o = .duplicate := by simpa using ho
      exact hskip id hid
    · have hid := (hevents id .duplicate).1 hid
      exact hskip id ((Story.actionEvent_mem_events (.inr rfl)).1 hid)

/-! ## The example flow, run on milk -/

namespace Example

/-- Milk that expires soon. -/
def milk : InventoryItem := ⟨"item-101", "Milk", some "Dairy", none, none, some 2, none⟩

/-- An engine with a notifier that never fails. -/
def engine : Engine :=
  { Engine.bare with
    services := { Services.none with notifications := some fun _ _ => .atOnce (.answer (.ok "")) } }

/-- A guard that holds for a minute. -/
def minuteGuard : Guard := ⟨.epoch, .ofSeconds 60⟩

def milkPayload : Payload := .ofItem .expiration milk .epoch

/-- The example warns of the milk once. -/
theorem exists_milk_run : ∃ g res, (flow .epoch).validate .builtin = .ok g ∧
    (g.run engine .live (some minuteGuard) milkPayload .initial).result = .ok res ∧
    res.trace = ["trigger-1", "cond-1", "recipe-1", "notify-1"] ∧
    res.stats.actionsDispatched = 1 := by
  have h : (((flow .epoch).validate .builtin).toOption.bind fun g =>
      (g.run engine .live (some minuteGuard) milkPayload .initial).result.toOption.map fun res =>
        (res.trace, res.stats.actionsDispatched)) =
      some (["trigger-1", "cond-1", "recipe-1", "notify-1"], 1) := by decide +kernel
  obtain ⟨g, hg, h⟩ := Option.bind_eq_some_iff.1 h
  obtain ⟨res, hres, h⟩ := Option.map_eq_some_iff.1 h
  obtain ⟨htrace, hcount⟩ := Prod.mk.inj h
  exact ⟨g, res, Fallible.toOption_eq_some_iff.1 hg, Fallible.toOption_eq_some_iff.1 hres, htrace,
    hcount⟩

end Example

/-- The example is accepted and its run returns. -/
theorem Flow.run_enters_once_milk : ∃ g res,
    (Example.flow .epoch).validate .builtin = .ok g ∧
    (g.run Example.engine .live (some Example.minuteGuard) Example.milkPayload .initial).result
      = .ok res ∧
    res.trace = ["trigger-1", "cond-1", "recipe-1", "notify-1"] ∧ res.trace.Nodup ∧
    res.stats.duplicatesSkipped = 0 := by
  obtain ⟨g, res, hg, hres, htrace, -⟩ := Example.exists_milk_run
  obtain ⟨hnd, -, hskip⟩ := Flow.run_enters_once hg Example.engine .live
    (some Example.minuteGuard) Example.milkPayload .initial hres
  exact ⟨g, res, hg, hres, htrace, hnd, (hskip fun _ => rfl).1⟩

end KitchenFlow
