import KitchenFlow.Proofs.Graph.Search

/-!
# Cycles

`cyclePoint?` finds a vertex on a cycle, and finds one whenever there is a cycle:

    onCycle_of_cyclePoint?_eq_some   what is found lies on a cycle
    cyclePoint?_eq_none_iff          nothing is found in exactly the graphs without cycles

The order of finishing carries both. An arc that goes backward in it closes a cycle, since the
vertex it leads to was still open when its source was finished; and without backward arcs and loops
every arc goes forward, so that no path comes back to where it began.
-/

namespace KitchenFlow
namespace Digraph

variable {g : Digraph}

/-- The arcs join vertices among some. -/
def Within (g : Digraph) (vs : List String) : Prop := ∀ u v, g.Arrow u v → u ∈ vs ∧ v ∈ vs

theorem mem_finishing_of_mem {vs : List String} {v : String} (h : v ∈ vs) :
    v ∈ g.finishing vs :=
  mem_finishing_iff.2 ⟨v, h, Relation.ReflTransGen.refl⟩

theorem hasLoop_iff {v : String} : g.hasLoop v = true ↔ g.Arrow v v := by
  rw [hasLoop, List.contains_iff_mem, arrow_iff_mem_successors]

/-! ## What is found lies on a cycle -/

theorem Ordered.mem_or_reaches {order : List String} (ho : Ordered g order) {u v : String}
    (hu : u ∈ order) (ha : g.Arrow u v) : v ∈ order ∨ g.Reaches v u := by
  induction order with
  | nil => cases hu
  | cons w rest ih =>
    rcases List.mem_cons.1 hu with rfl | hu
    · exact (ho.1 v ha).imp_left (List.mem_cons_of_mem _)
    · exact (ih ho.2 hu).imp_left (List.mem_cons_of_mem _)

/-- In an order of finishing, the source of a backward arc lies on a cycle. -/
theorem onCycle_of_backward?_eq_some {before order : List String} {u : String}
    (ho : Ordered g order) (hnd : order.Nodup)
    (hall : ∀ v ∈ order, ∀ u, g.Arrow u v → u ∈ before ∨ u ∈ order)
    (h : g.backward? before order = some u) : g.OnCycle u := by
  induction order generalizing before with
  | nil => cases h
  | cons v rest ih =>
    obtain ⟨hv, hnd⟩ := List.nodup_cons.1 hnd
    rw [backward?] at h
    split at h
    · next w hw =>
      cases h
      have ha : g.Arrow u v := arrow_iff_mem_predecessors.2 (List.mem_of_find?_eq_some hw)
      have hu : u ∉ v :: before := by simpa using List.find?_some hw
      rw [List.mem_cons, not_or] at hu
      have hrest : u ∈ rest := by
        rcases hall v List.mem_cons_self u ha with hb | hm
        · exact absurd hb hu.2
        · exact (List.mem_cons.1 hm).resolve_left hu.1
      -- `v` comes before `u`, so it cannot be behind `u` as well
      have hvu : g.Reaches v u := (ho.2.mem_or_reaches hrest ha).resolve_left hv
      exact Relation.TransGen.head' ha hvu
    -- `v` joins what comes before, so the arcs into the rest still come from somewhere
    · refine ih ho.2 hnd (fun w hw u ha => ?_) h
      rcases hall w (List.mem_cons_of_mem _ hw) u ha with hb | hm
      · exact .inl (List.mem_cons_of_mem _ hb)
      · rcases List.mem_cons.1 hm with rfl | hm
        · exact .inl List.mem_cons_self
        · exact .inr hm

theorem onCycle_of_cyclePoint?_eq_some {vs : List String} {v : String} (hvs : g.Within vs)
    (h : g.cyclePoint? vs = some v) : g.OnCycle v := by
  rcases Option.or_eq_some_iff.1 h with hl | ⟨-, hb⟩
  · exact Relation.TransGen.single (hasLoop_iff.1 (List.find?_some hl))
  · exact onCycle_of_backward?_eq_some (ordered_finishing g vs) (nodup_finishing g vs)
      (fun w _ u ha => .inr (mem_finishing_of_mem (hvs u w ha).1)) hb

/-! ## Cycles are found -/

/-- Without backward arcs, an arc that is no loop leads forward. -/
theorem idxOf_lt_of_backward?_eq_none {before order : List String} {u v : String}
    (h : g.backward? before order = none) (hv : v ∈ order) (ha : g.Arrow u v) (hne : u ≠ v)
    (hu : u ∉ before) : order.idxOf u < order.idxOf v := by
  induction order generalizing before with
  | nil => cases hv
  | cons w rest ih =>
    rw [backward?] at h
    split at h
    · cases h
    · next hnone =>
      -- all arcs into the first vertex come from before, and `u` is not there
      have hpred : ∀ x, g.Arrow x w → x ∈ w :: before := by
        intro x hx
        have := List.find?_eq_none.1 hnone x (arrow_iff_mem_predecessors.1 hx)
        simpa [or_iff_not_imp_left] using this
      rcases List.mem_cons.1 hv with rfl | hv
      · exact absurd (hpred u ha) (by simp [hne, hu])
      · by_cases hvw : v = w
        · subst hvw
          exact absurd (hpred u ha) (by simp [hne, hu])
        · rw [List.idxOf_cons_ne rest (Ne.symm hvw)]
          by_cases huw : u = w
          · subst huw
            rw [List.idxOf_cons_self]
            exact Nat.succ_pos _
          · rw [List.idxOf_cons_ne rest (Ne.symm huw)]
            exact Nat.succ_lt_succ (ih h hv (by simp [huw, hu]))

theorem acyclic_of_cyclePoint?_eq_none {vs : List String} (hvs : g.Within vs)
    (h : g.cyclePoint? vs = none) : g.Acyclic := by
  obtain ⟨hloop, hback⟩ := Option.or_eq_none_iff.1 h
  have hlt : ∀ u v, g.Arrow u v → (g.finishing vs).idxOf u < (g.finishing vs).idxOf v := by
    intro u v ha
    refine idxOf_lt_of_backward?_eq_none hback (mem_finishing_of_mem (hvs u v ha).2) ha ?_ (by simp)
    -- a loop would have been found among the vertices discovered
    rintro rfl
    have hu : u ∈ (g.searchAll vs).discovered :=
      mem_searchAll_iff.2 ⟨u, (hvs u u ha).1, Relation.ReflTransGen.refl⟩
    exact List.find?_eq_none.1 hloop u (List.mem_reverse.2 hu) (hasLoop_iff.2 ha)
  intro v hv
  -- the place in the order goes up along a path, so the path does not come back
  have key : ∀ w, Relation.TransGen g.Arrow v w →
      (g.finishing vs).idxOf v < (g.finishing vs).idxOf w := by
    intro w hw
    induction hw with
    | single ha => exact hlt _ _ ha
    | tail _ ha ih => exact Nat.lt_trans ih (hlt _ _ ha)
  exact Nat.lt_irrefl _ (key v hv)

/-- A graph within some vertices has no cycle exactly if none is found from them. -/
theorem cyclePoint?_eq_none_iff {vs : List String} (hvs : g.Within vs) :
    g.cyclePoint? vs = none ↔ g.Acyclic := by
  constructor
  · exact acyclic_of_cyclePoint?_eq_none hvs
  · intro hg
    rw [Option.eq_none_iff_forall_ne_some]
    intro v hv
    exact hg v (onCycle_of_cyclePoint?_eq_some hvs hv)

end Digraph
end KitchenFlow
