import KitchenFlow.Graph.Search
import Mathlib.Data.List.Nodup
import Mathlib.Logic.Relation

/-!
# What a search finds

A search from some vertices discovers exactly what can be reached from them, and finishes exactly
what it discovers, each vertex once:

    mem_discovery_iff   v ∈ g.discovery u ↔ g.Reaches u v
    mem_finishing_iff   v ∈ g.finishing vs ↔ ∃ u ∈ vs, g.Reaches u v
    ordered_finishing   an arc against the order of finishing lies on a cycle

Each fact is an invariant of `search`: `search_invariant` packs the induction once, and what is left
for an invariant is to survive the three things that a search does with its first task.
-/

namespace KitchenFlow
namespace Digraph

/-! ## Paths -/

/-- There is an arc from one vertex to another. -/
def Arrow (g : Digraph) (u v : String) : Prop := ⟨u, v⟩ ∈ g

/-- There is a path, which may be empty. -/
def Reaches (g : Digraph) : String → String → Prop := Relation.ReflTransGen g.Arrow

/-- A vertex lies on a cycle; a loop is one. -/
def OnCycle (g : Digraph) (v : String) : Prop := Relation.TransGen g.Arrow v v

/-- No vertex lies on a cycle. -/
def Acyclic (g : Digraph) : Prop := ∀ v, ¬ g.OnCycle v

variable {g : Digraph}

theorem Arrow.reaches {u v : String} (h : g.Arrow u v) : g.Reaches u v :=
  Relation.ReflTransGen.single h

theorem arrow_iff_mem_successors {u v : String} : g.Arrow u v ↔ v ∈ g.successors u :=
  mem_successors.symm

theorem arrow_iff_mem_predecessors {u v : String} : g.Arrow u v ↔ u ∈ g.predecessors v :=
  mem_predecessors.symm

/-- What is closed under arcs holds of all that can be reached. -/
theorem Reaches.of_closed {S : String → Prop} (hS : ∀ u v, g.Arrow u v → S u → S v) {u v : String}
    (h : g.Reaches u v) (hu : S u) : S v := by
  induction h with
  | refl => exact hu
  | tail _ ha ih => exact hS _ _ ha ih

/-! ## Invariants of a search -/

/-- An invariant that survives leaving a vertex, passing over one that was discovered before, and
discovering one, holds at the end of a search. -/
theorem search_invariant (I : List Task → Progress → Prop)
    (leave : ∀ v rest p, I (.leave v :: rest) p → I rest { p with finished := v :: p.finished })
    (skip : ∀ v rest p, v ∈ p.discovered → I (.enter v :: rest) p → I rest p)
    (enter : ∀ v rest p, v ∉ p.discovered → I (.enter v :: rest) p →
      I ((g.successors v).map .enter ++ .leave v :: rest)
        { p with discovered := v :: p.discovered })
    {tasks : List Task} {p : Progress} (h : I tasks p) : I [] (g.search tasks p) := by
  fun_induction search g tasks p with
  | case1 p => exact h
  | case2 p v rest ih => exact ih (leave v rest p h)
  | case3 p v rest hv ih => exact ih (skip v rest p (List.contains_iff_mem.1 hv) h)
  | case4 p v rest hv ih =>
    exact ih (enter v rest p (fun hm => hv (List.contains_iff_mem.2 hm)) h)

/-- An invariant that holds at the start of a search holds at its end. -/
theorem searchAll_invariant (I : List Task → Progress → Prop) (vs : List String)
    (leave : ∀ v rest p, I (.leave v :: rest) p → I rest { p with finished := v :: p.finished })
    (skip : ∀ v rest p, v ∈ p.discovered → I (.enter v :: rest) p → I rest p)
    (enter : ∀ v rest p, v ∉ p.discovered → I (.enter v :: rest) p →
      I ((g.successors v).map .enter ++ .leave v :: rest)
        { p with discovered := v :: p.discovered })
    (start : I (vs.map .enter) .none) : I [] (g.searchAll vs) :=
  search_invariant I leave skip enter start

/-- A search discovers only what can be reached from the vertices it is told to enter. -/
theorem reaches_of_mem_searchAll {vs : List String} {v : String}
    (h : v ∈ (g.searchAll vs).discovered) : ∃ u ∈ vs, g.Reaches u v := by
  -- entering a vertex discovers it, so what waits to be entered has to be within reach as well
  have inv := searchAll_invariant (g := g)
    (fun tasks p => (∀ v, Task.enter v ∈ tasks → ∃ u ∈ vs, g.Reaches u v) ∧
      ∀ v ∈ p.discovered, ∃ u ∈ vs, g.Reaches u v) vs ?_ ?_ ?_ ?_
  · exact inv.2 v h
  · rintro v rest p ⟨ht, hd⟩
    exact ⟨fun w hw => ht w (List.mem_cons_of_mem _ hw), hd⟩
  · rintro v rest p - ⟨ht, hd⟩
    exact ⟨fun w hw => ht w (List.mem_cons_of_mem _ hw), hd⟩
  · rintro v rest p - ⟨ht, hd⟩
    obtain ⟨u, hu, huv⟩ := ht v List.mem_cons_self
    refine ⟨fun w hw => ?_, fun w hw => ?_⟩
    · rcases List.mem_append.1 hw with hw | hw
      · obtain ⟨x, hx, hxw⟩ := List.mem_map.1 hw
        cases hxw
        exact ⟨u, hu, huv.tail (arrow_iff_mem_successors.2 hx)⟩
      · have hw : Task.enter w ∈ rest := by simpa using hw
        exact ht w (List.mem_cons_of_mem _ hw)
    · rcases List.mem_cons.1 hw with rfl | hw
      · exact ⟨u, hu, huv⟩
      · exact hd w hw
  · refine ⟨fun w hw => ?_, fun w hw => by simp [Progress.none] at hw⟩
    have hw : w ∈ vs := by simpa using hw
    exact ⟨w, hw, Relation.ReflTransGen.refl⟩

/-- A vertex is discovered, or will be. -/
def Awaited (v : String) (tasks : List Task) (p : Progress) : Prop :=
  v ∈ p.discovered ∨ Task.enter v ∈ tasks

theorem Awaited.skip {v x : String} {rest : List Task} {p : Progress} (hx : x ∈ p.discovered)
    (h : Awaited v (.enter x :: rest) p) : Awaited v rest p := by
  rcases h with hv | hv
  · exact .inl hv
  · rcases List.mem_cons.1 hv with hv | hv
    · cases hv
      exact .inl hx
    · exact .inr hv

theorem Awaited.enter {v x : String} {rest : List Task} {p : Progress}
    (h : Awaited v (.enter x :: rest) p) :
    Awaited v ((g.successors x).map .enter ++ .leave x :: rest)
      { p with discovered := x :: p.discovered } := by
  rcases h with hv | hv
  · exact .inl (List.mem_cons_of_mem _ hv)
  · rcases List.mem_cons.1 hv with hv | hv
    · cases hv
      exact .inl List.mem_cons_self
    · exact .inr (by simp [hv])

/-- What is awaited is discovered in the end. -/
theorem Awaited.mem_search {v : String} {tasks : List Task} {p : Progress}
    (h : Awaited v tasks p) : v ∈ (g.search tasks p).discovered := by
  have inv := search_invariant (g := g) (Awaited v) ?_ ?_ ?_ h
  · simpa [Awaited] using inv
  · intro x rest p h
    simpa [Awaited] using h
  · exact fun x rest p hx h => h.skip hx
  · exact fun x rest p _ h => h.enter

/-- What is discovered is closed under arcs once nothing is left to enter. -/
theorem mem_searchAll_of_arrow {vs : List String} {u v : String}
    (hu : u ∈ (g.searchAll vs).discovered) (h : g.Arrow u v) :
    v ∈ (g.searchAll vs).discovered := by
  -- on the way a successor may only be awaited; at the end nothing is left to be awaited
  have inv := searchAll_invariant (g := g)
    (fun tasks p => ∀ u ∈ p.discovered, ∀ v, g.Arrow u v → Awaited v tasks p) vs ?_ ?_ ?_ ?_
  · simpa [Awaited] using inv u hu v h
  · intro x rest p ih u hu v h
    simpa [Awaited] using ih u hu v h
  · exact fun x rest p hx ih u hu v h => (ih u hu v h).skip hx
  · intro x rest p _ ih u hu v h
    rcases List.mem_cons.1 hu with rfl | hu
    · exact .inr (by simp [← arrow_iff_mem_successors, h])
    · exact (ih u hu v h).enter
  · intro u hu
    simp [Progress.none] at hu

/-- A search discovers exactly what can be reached. -/
theorem mem_searchAll_iff {vs : List String} {v : String} :
    v ∈ (g.searchAll vs).discovered ↔ ∃ u ∈ vs, g.Reaches u v := by
  constructor
  · exact reaches_of_mem_searchAll
  · rintro ⟨u, hu, huv⟩
    exact huv.of_closed (fun _ _ ha hm => mem_searchAll_of_arrow hm ha)
      (Awaited.mem_search (.inr (by simpa using hu)))

theorem mem_discovery_iff {u v : String} : v ∈ g.discovery u ↔ g.Reaches u v := by
  have h : g.discovery u = (g.searchAll [u]).discovered.reverse := rfl
  rw [h, List.mem_reverse, mem_searchAll_iff]
  simp

/-! ## The order of finishing -/

/-- The vertices with a `leave` task. -/
def leaving : List Task → List String
  | [] => []
  | .enter _ :: rest => leaving rest
  | .leave v :: rest => v :: leaving rest

theorem mem_leaving_iff {v : String} {tasks : List Task} :
    v ∈ leaving tasks ↔ Task.leave v ∈ tasks := by
  induction tasks with
  | nil => simp [leaving]
  | cons t rest ih => cases t <;> simp [leaving, ih]

theorem leaving_append_enter (vs : List String) (rest : List Task) :
    leaving (vs.map .enter ++ rest) = leaving rest := by
  induction vs with
  | nil => rfl
  | cons v vs ih => exact ih

/-- The vertices discovered are those being left and those finished, each of them once. -/
structure Accounted (tasks : List Task) (p : Progress) : Prop where
  nodup : (leaving tasks ++ p.finished).Nodup
  mem_discovered : ∀ v, v ∈ p.discovered ↔ v ∈ leaving tasks ∨ v ∈ p.finished

theorem Accounted.leave {v : String} {rest : List Task} {p : Progress}
    (h : Accounted (.leave v :: rest) p) :
    Accounted rest { p with finished := v :: p.finished } := by
  refine ⟨?_, fun w => ?_⟩
  · exact (List.perm_middle.nodup_iff).2 h.nodup
  · rw [h.mem_discovered]
    simp only [leaving, List.mem_cons]
    tauto

theorem Accounted.enter {v : String} {rest : List Task} {p : Progress} (hv : v ∉ p.discovered)
    (h : Accounted (.enter v :: rest) p) :
    Accounted ((g.successors v).map .enter ++ .leave v :: rest)
      { p with discovered := v :: p.discovered } := by
  -- all that is being left or finished was discovered
  have hnew : v ∉ leaving rest ++ p.finished := by
    rw [List.mem_append]
    exact fun hm => hv ((h.mem_discovered v).2 hm)
  refine ⟨?_, fun w => ?_⟩
  · rw [leaving_append_enter]
    exact List.nodup_cons.2 ⟨hnew, h.nodup⟩
  · rw [leaving_append_enter, List.mem_cons, h.mem_discovered]
    simp only [leaving, List.mem_cons]
    tauto

theorem accounted_start (vs : List String) : Accounted (vs.map .enter) .none := by
  have h : leaving (vs.map .enter) = [] := by
    rw [← List.append_nil (vs.map _), leaving_append_enter]
    rfl
  exact ⟨h ▸ List.nodup_nil, fun v => by simp [h, Progress.none]⟩

theorem accounted_searchAll (g : Digraph) (vs : List String) :
    Accounted [] (g.searchAll vs) := by
  refine search_invariant Accounted ?_ ?_ ?_ (accounted_start vs)
  · exact fun _ _ _ h => h.leave
  · exact fun _ _ _ _ h => ⟨h.nodup, h.mem_discovered⟩
  · exact fun _ _ _ hv h => h.enter hv

theorem nodup_finishing (g : Digraph) (vs : List String) : (g.finishing vs).Nodup :=
  (accounted_searchAll g vs).nodup

theorem mem_finishing_iff {vs : List String} {v : String} :
    v ∈ g.finishing vs ↔ ∃ u ∈ vs, g.Reaches u v := by
  rw [← mem_searchAll_iff, (accounted_searchAll g vs).mem_discovered]
  simp [leaving, finishing]

/-- Every arc leads from a vertex to one behind it, unless it closes a cycle. -/
def Ordered (g : Digraph) : List String → Prop
  | [] => True
  | u :: rest => (∀ v, g.Arrow u v → v ∈ rest ∨ g.Reaches v u) ∧ Ordered g rest

/-- What is still to be left has had all its successors discovered, or they are entered before;
`entering` holds what is entered before the tasks. -/
def Covered (g : Digraph) (discovered entering : List String) : List Task → Prop
  | [] => True
  | .enter v :: rest => Covered g discovered (v :: entering) rest
  | .leave u :: rest =>
    (∀ v, g.Arrow u v → v ∈ discovered ∨ v ∈ entering) ∧ Covered g discovered entering rest

theorem Covered.mono {d d' e e' : List String} (h : ∀ v, v ∈ d ∨ v ∈ e → v ∈ d' ∨ v ∈ e') :
    ∀ {tasks : List Task}, Covered g d e tasks → Covered g d' e' tasks
  | [], _ => trivial
  | .enter v :: rest, hc => by
    have hw : ∀ w, w ∈ d ∨ w ∈ v :: e → w ∈ d' ∨ w ∈ v :: e' := fun w hw => by
      have := h w
      simp only [List.mem_cons] at hw ⊢
      tauto
    exact Covered.mono hw hc
  | .leave u :: rest, hc => ⟨fun v hv => h v (hc.1 v hv), Covered.mono h hc.2⟩

theorem covered_append_enter {d e : List String} (vs : List String) (rest : List Task) :
    Covered g d e (vs.map .enter ++ rest) ↔ Covered g d (vs.reverse ++ e) rest := by
  induction vs generalizing e with
  | nil => rfl
  | cons v vs ih =>
    rw [List.reverse_cons, List.append_assoc]
    exact ih

/-- The vertex that a task is about. -/
def Task.vertex : Task → String
  | .enter v | .leave v => v

/-- What is to be left reaches everything that is done before. -/
def Nested (g : Digraph) (tasks : List Task) : Prop :=
  tasks.Pairwise fun s t => ∀ v, t = .leave v → g.Reaches v s.vertex

theorem nested_enter (g : Digraph) (vs : List String) : Nested g (vs.map .enter) :=
  List.pairwise_map.2 (List.pairwise_of_forall fun _ _ _ h => nomatch h)

theorem Nested.enter {v : String} {rest : List Task} (h : Nested g (.enter v :: rest)) :
    Nested g ((g.successors v).map .enter ++ .leave v :: rest) := by
  obtain ⟨hv, hrest⟩ := List.pairwise_cons.1 h
  refine List.pairwise_append.2 ⟨nested_enter g _, List.pairwise_cons.2 ⟨hv, hrest⟩, ?_⟩
  rintro s hs t ht u rfl
  obtain ⟨w, hw, rfl⟩ := List.mem_map.1 hs
  -- what comes in front is a successor of `v`, which is reached from all that is left later
  have hvw : g.Reaches v w := (arrow_iff_mem_successors.2 hw).reaches
  rcases List.mem_cons.1 ht with hu | hu
  · cases hu
    exact hvw
  · exact (hv _ hu u rfl).trans hvw

/-- An arc from a finished vertex leads to one finished before, or it closes a cycle. -/
theorem ordered_finishing (g : Digraph) (vs : List String) : Ordered g (g.finishing vs) := by
  have inv := searchAll_invariant (g := g)
    (fun tasks p => Accounted tasks p ∧ Covered g p.discovered [] tasks ∧ Nested g tasks ∧
      Ordered g p.finished) vs ?_ ?_ ?_ ?_
  · exact inv.2.2.2
  · rintro u rest p ⟨ha, hc, hn, ho⟩
    refine ⟨ha.leave, hc.2, hn.tail, fun v hv => ?_, ho⟩
    -- a successor is finished already, or it is still to be left and reaches what is done before
    have hd : v ∈ p.discovered := by simpa using hc.1 v hv
    rcases (ha.mem_discovered v).1 hd with hl | hf
    · rcases List.mem_cons.1 hl with rfl | hl
      · exact .inr Relation.ReflTransGen.refl
      · exact .inr ((List.pairwise_cons.1 hn).1 _ (mem_leaving_iff.1 hl) v rfl)
    · exact .inl hf
  · rintro v rest p hv ⟨ha, hc, hn, ho⟩
    refine ⟨⟨ha.nodup, ha.mem_discovered⟩, ?_, hn.tail, ho⟩
    refine Covered.mono (fun w hw => ?_) hc
    rcases hw with hw | hw
    · exact .inl hw
    · exact .inl (List.mem_singleton.1 hw ▸ hv)
  · rintro v rest p hv ⟨ha, hc, hn, ho⟩
    refine ⟨ha.enter hv, ?_, hn.enter, ho⟩
    rw [covered_append_enter]
    refine ⟨fun w hw => .inr (by simpa using arrow_iff_mem_successors.1 hw), ?_⟩
    refine Covered.mono (fun w hw => ?_) hc
    rcases hw with hw | hw
    · exact .inl (List.mem_cons_of_mem _ hw)
    · exact .inl (List.mem_singleton.1 hw ▸ List.mem_cons_self)
  · refine ⟨accounted_start vs, ?_, nested_enter g vs, trivial⟩
    rw [← List.append_nil (vs.map _), covered_append_enter]
    trivial

end Digraph
end KitchenFlow
