import KitchenFlow.Proofs.Run.Triggers

/-!
# Two runs on one item

Two runs of a graph on the same item, begun at the same triggers, get the same answers from them.
Without conditions in the graph, the only nodes at which one of them can go on and the other one
stop are actions: an action may be carried out in the first run and be skipped, or fail, in the
second. So wherever the first run has come, the second one comes as well, unless it was stopped at
an action on the way:

    Routes.resumes   what the first run enters, the second one enters or is cut off from
-/

namespace KitchenFlow

/-- Whether a run goes on after an action that came out like this. -/
def ActionOutcome.goesOn : ActionOutcome → Bool
  | .dispatched | .demo _ => true
  | .failed _ | .duplicate => false

theorem NodeEffect.next_acted (d i : String) (o : ActionOutcome) :
    (NodeEffect.acted d i o).next = if o.goesOn then .go none else .stop := by
  cases o <;> rfl

/-- An action came out in some way in each of two runs. The first one went on after it, and the
second one did not. -/
def Story.CutsAt (s t : Story) (id : String) : Prop :=
  ∃ o₁ o₂, (id, o₁) ∈ s.outcomes ∧ (id, o₂) ∈ t.outcomes ∧ o₁.goesOn = true ∧ o₂.goesOn = false

namespace NodeTask.ComesTo

variable {e : Engine} {item : InventoryItem} {task : NodeTask} {effect effect' : NodeEffect}

/-- An action comes out in some way, or it breaks the run off. -/
theorem acted_or_isAbort {a : Action} (h : ComesTo e item (.act a) effect) :
    (∃ d i o, effect = .acted d i o) ∨ effect.isAbort = true := by
  cases h with
  | skip | rehearse | send | lack | fail => exact .inl ⟨_, _, _, rfl⟩
  | breakdown => exact .inr rfl

/-- If two runs do not go the same way after a node that is no condition, then it is an action after
which only one of them goes on. -/
theorem next_eq_or (h : task.ComesTo e item effect) (h' : task.ComesTo e item effect')
    (htask : ∀ c, task ≠ .choose c) (hgo : effect.next ≠ .stop) (hgo' : effect'.isAbort = false) :
    effect'.next = effect.next ∨ ∃ o o', effect.outcome? = some o ∧
      effect'.outcome? = some o' ∧ o.goesOn = true ∧ o'.goesOn = false := by
  cases task with
  | expiry c | status c | write c =>
    cases h
    cases h'
    exact .inl rfl
  | choose c => exact (htask c rfl).elim
  | suggest c =>
    cases h with
    | crash => exact (hgo rfl).elim
    | suggest =>
      cases h' with
      | crash => cases hgo'
      | suggest => exact .inl rfl
  | act a =>
    rcases h.acted_or_isAbort with ⟨d, i, o, rfl⟩ | habort
    · rcases h'.acted_or_isAbort with ⟨d', i', o', rfl⟩ | habort'
      · have ho : o.goesOn = true := by
          rw [NodeEffect.next_acted] at hgo
          by_contra hno
          exact hgo (if_neg hno)
        rw [NodeEffect.next_acted, NodeEffect.next_acted, ho, if_pos rfl]
        cases ho' : o'.goesOn with
        | true => exact .inl rfl
        | false => exact .inr ⟨o, o', rfl, rfl, ho, ho'⟩
      · cases hgo'.symm.trans habort'
    · cases effect <;> cases habort
      exact (hgo rfl).elim

end NodeTask.ComesTo

namespace Routes

variable {g : FlowGraph} {r : Registry} {f : Flow} {e : Engine} {item : InventoryItem}
  {event : TriggerEvent} {s t : Story}

/-- What one run enters, another one that is not broken off enters as well, unless it is cut off
from it at an action. -/
theorem resumes (h : Routes g e item (g.listeners event) [] [] s)
    (h' : Routes g e item (g.listeners event) [] [] t) (ht : t.abort? = none)
    (hd : g.Depicts r f) (hf : f.WellFormed r)
    (hplain : ∀ n ∈ g.nodes, n.capability ≠ .condition) :
    ∀ n effect, Moment.visit n effect ∈ s →
      n.id ∈ t.trace ∨ ∃ id, s.CutsAt t id ∧ g.arcs.Reaches id n.id := by
  obtain ⟨hbegin, -, hclosed⟩ := h'.closed ht
  -- handed on along the first run, from each node to those that it goes on to
  refine h.forall_visit (fun n hn => .inl (hbegin n hn)) (by simp) ?_
  intro n effect hn hreached m hm
  have hnode := h.mem_nodes hn
  rcases hreached with hmem | ⟨id, hcut, hreach⟩
  · obtain ⟨effect', hn'⟩ := h'.exists_visit hd hf hnode hmem
    have hgo : effect.next ≠ .stop := by
      intro hstop
      rw [hstop] at hm
      cases hm
    have htask : ∀ c, n.config.task ≠ .choose c := by
      intro c hc
      refine hplain n hnode ?_
      obtain ⟨id, config⟩ := n
      cases config <;> cases hc
      rfl
    rcases (h.comesTo n effect hn).next_eq_or (h'.comesTo n effect' hn') htask hgo
      (h'.not_isAbort ht hn') with hsame | ⟨o, o', ho, ho', hpass, hstop⟩
    · rw [← hsame] at hm
      exact .inl ((hclosed n effect' hn' m hm).resolve_left List.not_mem_nil)
    · refine .inr ⟨n.id, ⟨o, o', ?_, ?_, hpass, hstop⟩, .single (FlowGraph.mem_follow hm).2⟩
      · exact Story.mem_outcomes_iff.2 ⟨n, effect, hn, ho, rfl⟩
      · exact Story.mem_outcomes_iff.2 ⟨n, effect', hn', ho', rfl⟩
  · exact .inr ⟨id, hcut, hreach.tail (FlowGraph.mem_follow hm).2⟩

end Routes
end KitchenFlow
