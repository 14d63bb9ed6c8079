import KitchenFlow.Proofs.Run.Once

/-!
# The accounts of a run

A live, guarded run that returns leaves the ledger with one more reservation in force for each
action it carried out, and with no other change in what is in force. What was not carried out, for
whatever reason, leaves nothing behind; at most an entry that was too old to matter goes.
-/

namespace KitchenFlow

variable {f : Flow} {r : Registry} {g : FlowGraph}

/-- What a live, guarded run that returns does to the ledger. -/
theorem Flow.run_accounts (hg : f.validate r = .ok g) (e : Engine) (gd : Guard)
    (hw : 0 < gd.window) (p : Payload) (w : World) {res : RunResult}
    (h : (g.run e .live (some gd) p w).result = .ok res) :
    let after := g.run e .live (some gd) p w
    let keyOf (id : String) : ActionKey := ⟨f.id, p.item.id, id⟩
    -- in force are the reservations of before and those of the actions carried out
    (∀ key, after.world.ledger.holds gd.now gd.window key = true ↔
      w.ledger.holds gd.now gd.window key = true ∨
        ∃ id, key = keyOf id ∧ RunEvent.actionDispatched id ∈ after.events) ∧
    -- only the entries of the actions of this flow for this item may change
    (∀ key, (∀ n ∈ g.nodes, n.capability = .action → key ≠ keyOf n.id) →
      after.world.ledger.get? key = w.ledger.get? key) ∧
    -- an action is skipped for an entry that was in force before the run
    (∀ id, RunEvent.actionSkipped id ∈ after.events →
      w.ledger.holds gd.now gd.window (keyOf id) = true) ∧
    -- each action carried out adds one entry in force
    after.world.ledger.inForceCount gd.now gd.window =
      w.ledger.inForceCount gd.now gd.window + res.stats.actionsDispatched := by
  intro after keyOf
  have hd := f.depicts_of_validate hg
  obtain ⟨s, hwalk, hgo, -, hstats, hevents⟩ := FlowGraph.run_returned h
  have hroots : (g.listeners p.triggerEvent).Pairwise _ :=
    (hd.pairwise_roots (f.wellFormed_of_validate hg)).sublist List.filter_sublist
  have hkey : ∀ id, NodeTask.actionKey ⟨g.flowId, .live, some gd⟩ p id = keyOf id := fun id => by
    rw [NodeTask.actionKey, hd.flowId]
  obtain ⟨hholds, hcount⟩ := hwalk.unfolds.inForce rfl rfl hw (hwalk.not_isAbort hgo)
  refine ⟨fun key => ?_, fun key hne => ?_, fun id hid => ?_, ?_⟩
  · rw [hholds key]
    refine or_congr_right (exists_congr fun id => ?_)
    rw [hkey, ← Story.actionEvent_mem_events (.inl rfl), ← hevents]
    rfl
  · refine hwalk.unfolds.get?_eq fun n effect hn hc => ?_
    rw [hkey]
    have hlisten : ∀ n ∈ g.listeners p.triggerEvent, n ∈ g.nodes := fun n hn =>
      (FlowGraph.mem_roots (FlowGraph.mem_listeners_iff.1 hn).1).1
    exact hne n (hwalk.visit_mem hlisten n effect hn) hc
  · have hid := (Story.actionEvent_mem_events (.inr rfl)).1 ((hevents id .duplicate).1 hid)
    obtain ⟨gd', hg', hh⟩ := hwalk.unfolds.holds_of_duplicate (hwalk.nodup_trace hroots) hid
    cases hg'
    rwa [hkey] at hh
  · rw [hcount, hstats, Story.actionsDispatched_eq]

/-- The run of the example on milk leaves one reservation behind. -/
theorem Flow.run_accounts_milk : ∃ g res,
    (Example.flow .epoch).validate .builtin = .ok g ∧
    (g.run Example.engine .live (some Example.minuteGuard) Example.milkPayload .initial).result
      = .ok res ∧
    (g.run Example.engine .live (some Example.minuteGuard) Example.milkPayload
      .initial).world.ledger.inForceCount .epoch (.ofSeconds 60) = 1 := by
  obtain ⟨g, res, hg, hres, -, hcount⟩ := Example.exists_milk_run
  obtain ⟨-, -, -, h⟩ := Flow.run_accounts hg Example.engine Example.minuteGuard
    (by decide) Example.milkPayload .initial hres
  exact ⟨g, res, hg, hres, by rw [hcount] at h; exact h⟩

end KitchenFlow
