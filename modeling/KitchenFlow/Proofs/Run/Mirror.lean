import KitchenFlow.Proofs.Run.Rehearsal

/-!
# Walks and rehearsals side by side

A rehearsal need not begin on the payload of the walk that it is compared with, nor does the same
have to come of a node in both. It is enough that, wherever the walk has come to an effect, the
rehearsal comes to one that leads the same way and leaves payloads that are again alike. Then the
two meet the same nodes, moment by moment. What it means for payloads and effects to be alike is
left open here.

    WalksAll.mirrored   a rehearsal of the same graph has a story that mirrors that of the walk
-/

namespace KitchenFlow

variable {g : FlowGraph} {e : Engine} {x : RunContext} {E : NodeEffect → NodeEffect → Prop}
  {R : Payload → Payload → Prop}

/-- Two stories at the same node: it is entered in both, with effects that are alike, or in
neither. -/
inductive Moment.Mirrors (E : NodeEffect → NodeEffect → Prop) : Moment → Moment → Prop where
  | visit {n a b} : E a b → Mirrors E (.visit n a) (.visit n b)
  | refusal {id} : Mirrors E (.refusal id) (.refusal id)

/-- What is rehearsed at a node, where an effect has come of it, is like that effect and leads the
same way, on any payloads that are alike; and it leaves payloads that are alike. -/
def GraphNode.Mirrored (e : Engine) (x : RunContext) (E : NodeEffect → NodeEffect → Prop)
    (R : Payload → Payload → Prop) (n : GraphNode) (effect : NodeEffect) : Prop :=
  ∀ p q w w', R p q → n.config.task.step e x n.id p w = (effect, w') →
    E effect (n.config.task.rehearse q) ∧ (n.config.task.rehearse q).next = effect.next ∧
      R (effect.apply p) ((n.config.task.rehearse q).apply q)

/-- A walk that is mirrored at each of its nodes is mirrored as a whole. -/
theorem Walks.mirrored {stack : List GraphNode} {visited : List String} {p q : Payload}
    {w w' : World} {s : Story} (h : Walks g e x stack visited p w s w')
    (hgo : ∀ n effect, Moment.visit n effect ∈ s → effect.isAbort = false)
    (hnodes : ∀ n effect, Moment.visit n effect ∈ s → n.Mirrored e x E R effect)
    (hpq : R p q) :
    ∃ t, g.walk .bare ⟨g.flowId, .test, none⟩ stack visited q .initial = (t, .initial) ∧
      List.Forall₂ (Moment.Mirrors E) s t ∧ R (s.payload p) (t.payload q) := by
  induction h generalizing q with
  | done =>
    rw [FlowGraph.walk]
    exact ⟨[], rfl, .nil, hpq⟩
  | @again n rest visited p w s w' hv _ ih =>
    obtain ⟨t, ht, hst, hR⟩ := ih (fun n effect hn => hgo n effect (List.mem_cons_of_mem _ hn))
      (fun n effect hn => hnodes n effect (List.mem_cons_of_mem _ hn)) hpq
    rw [FlowGraph.walk, dif_pos (List.contains_iff_mem.2 hv), ht]
    exact ⟨.refusal n.id :: t, rfl, .cons .refusal hst, hR⟩
  | @broken n rest visited p w effect w' _ _ habort =>
    have hfalse := hgo n effect (List.mem_singleton_self _)
    exact (Bool.eq_false_iff.1 hfalse habort).elim
  | @enter n rest visited p w effect w₁ s w' hv hstep _ _ ih =>
    obtain ⟨hE, hnext, hR⟩ := hnodes n effect List.mem_cons_self p q w w₁ hpq hstep
    obtain ⟨t, ht, hst, hR⟩ := ih (fun n effect hn => hgo n effect (List.mem_cons_of_mem _ hn))
      (fun n effect hn => hnodes n effect (List.mem_cons_of_mem _ hn)) hR
    rw [← hnext] at ht
    rw [FlowGraph.walk, dif_neg (mt List.contains_iff_mem.1 hv), NodeTask.step_test rfl]
    dsimp only
    rw [NodeTask.isAbort_rehearse, if_neg Bool.false_ne_true, ht]
    exact ⟨.visit n _ :: t, rfl, .cons (.visit hE) hst, hR⟩

/-- So are walks from several nodes. -/
theorem WalksAll.mirrored {roots : List GraphNode} {p q : Payload} {w w' : World} {s : Story}
    (h : WalksAll g e x roots p w s w')
    (hgo : ∀ n effect, Moment.visit n effect ∈ s → effect.isAbort = false)
    (hnodes : ∀ n effect, Moment.visit n effect ∈ s → n.Mirrored e x E R effect) (hpq : R p q) :
    List.Forall₂ (Moment.Mirrors E) s (g.rehearseAll q roots) ∧
      R (s.payload p) ((g.rehearseAll q roots).payload q) := by
  induction h generalizing q with
  | done => exact ⟨.nil, hpq⟩
  | @broken root rest p w s w' hwalk habort =>
    rw [Story.abort?_eq_none hgo] at habort
    cases habort
  | @next root rest p w s w₁ t w' hwalk _ _ ih =>
    obtain ⟨s', hs', hss', hR⟩ := hwalk.mirrored
      (fun n effect hn => hgo n effect (List.mem_append_left _ hn))
      (fun n effect hn => hnodes n effect (List.mem_append_left _ hn)) hpq
    obtain ⟨htt', hR⟩ := ih (fun n effect hn => hgo n effect (List.mem_append_right _ hn))
      (fun n effect hn => hnodes n effect (List.mem_append_right _ hn)) hR
    rw [g.rehearseAll_cons q root rest hs', Story.payload_append, Story.payload_append]
    exact ⟨List.rel_append hss' htt', hR⟩

/-- Stories that mirror each other lead through the same nodes. -/
theorem Story.trace_eq_of_mirrors {s t : Story} (h : List.Forall₂ (Moment.Mirrors E) s t) :
    s.trace = t.trace := by
  induction h with
  | nil => rfl
  | cons hm _ ih =>
    cases hm with
    | visit _ => rw [trace_visit, trace_visit, ih]
    | refusal => rw [trace_refusal, trace_refusal, ih]

/-- As many lines are noted in them. -/
theorem Story.length_log_eq_of_mirrors {s t : Story} (h : List.Forall₂ (Moment.Mirrors E) s t) :
    s.log.length = t.log.length := by
  induction h with
  | nil => rfl
  | @cons m m' s t hm _ ih =>
    have hlines : m.lines.length = m'.lines.length := by cases hm <;> rfl
    rw [log, log, List.flatMap_cons, List.flatMap_cons, List.length_append, List.length_append,
      hlines, ← log, ← log, ih]

end KitchenFlow
