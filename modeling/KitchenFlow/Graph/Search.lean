/-!
# Searching a directed graph

A directed graph is a list of arcs. It is searched depth first: a vertex is discovered, then all
that can be reached from it through vertices not discovered before, successors in the order of the
arcs, and then it is finished. The search is driven by a list of tasks, `enter v` to discover a
vertex and `leave v` to finish it, so that the vertices on the way from the start to the current
vertex are just those with a `leave` task.

    discovery g v     the vertices that can be reached from v, in the order of discovery
    finishing g vs    the vertices reached from vs, the last one finished first

The order of `finishing` puts every arc forward if there is no cycle. `cyclePoint?` looks for a
vertex on a cycle: a loop is reported as soon as its vertex is discovered; otherwise the first
vertex in the order that an arc enters from behind gives the source of that arc.
-/

namespace KitchenFlow

/-- A directed edge between vertices, which are named. -/
structure Arc where
  source : String
  target : String
deriving DecidableEq, Repr, Inhabited

/-- A directed graph. -/
abbrev Digraph := List Arc

namespace Digraph

/-- The targets of the arcs that leave a vertex. -/
def successors (g : Digraph) (v : String) : List String :=
  (g.filter fun a => a.source == v).map Arc.target

/-- The sources of the arcs that enter a vertex. -/
def predecessors (g : Digraph) (v : String) : List String :=
  (g.filter fun a => a.target == v).map Arc.source

theorem mem_successors {g : Digraph} {v w : String} : w ∈ g.successors v ↔ ⟨v, w⟩ ∈ g := by
  simp only [successors, List.mem_map, List.mem_filter, beq_iff_eq]
  constructor
  · rintro ⟨⟨s, t⟩, ⟨h, rfl⟩, rfl⟩
    exact h
  · intro h
    exact ⟨_, ⟨h, rfl⟩, rfl⟩

theorem mem_predecessors {g : Digraph} {v w : String} :
    v ∈ g.predecessors w ↔ ⟨v, w⟩ ∈ g := by
  simp only [predecessors, List.mem_map, List.mem_filter, beq_iff_eq]
  constructor
  · rintro ⟨⟨s, t⟩, ⟨h, rfl⟩, rfl⟩
    exact h
  · intro h
    exact ⟨_, ⟨h, rfl⟩, rfl⟩

/-! ### The search -/

/-- Something left to do in a search. -/
inductive Task where
  | enter (v : String)
  | leave (v : String)
deriving DecidableEq, Repr

/-- How far a search has come: the vertices discovered and the vertices finished, each with the
latest first. -/
structure Progress where
  discovered : List String
  finished : List String
deriving DecidableEq, Repr, Inhabited

/-- A search that has not begun. -/
def Progress.none : Progress := ⟨[], []⟩

/-- The arcs that leave vertices not yet discovered. -/
def pending (g : Digraph) (discovered : List String) : Nat :=
  (g.filter fun a => !discovered.contains a.source).length

/-- What a task weighs in the measure of the search. -/
def Task.weight : Task → Nat
  | .enter _ => 2
  | .leave _ => 1

/-- What a list of tasks weighs. -/
def weight : List Task → Nat
  | [] => 0
  | t :: ts => t.weight + weight ts

/-- Discovering a vertex settles exactly the arcs that leave it. -/
theorem pending_cons {g : Digraph} {discovered : List String} {v : String}
    (h : discovered.contains v = false) :
    pending g (v :: discovered) + (g.successors v).length = pending g discovered := by
  unfold pending successors
  induction g with
  | nil => rfl
  | cons a rest ih =>
    have hs : (v :: discovered).contains a.source =
        (a.source == v || discovered.contains a.source) := List.contains_cons
    cases hb : a.source == v with
    | true =>
      have hd : discovered.contains a.source = false := eq_of_beq hb ▸ h
      rw [hb, Bool.true_or] at hs
      simp only [List.filter_cons, hs, hd, hb, Bool.not_true, Bool.not_false, Bool.false_eq_true,
        if_true, if_false, List.map_cons, List.length_cons]
      omega
    | false =>
      rw [hb, Bool.false_or] at hs
      cases hd : discovered.contains a.source <;> rw [hd] at hs <;>
        simp only [List.filter_cons, hs, hd, hb, Bool.not_true, Bool.not_false, Bool.false_eq_true,
          if_true, if_false, List.length_cons] <;> omega

theorem weight_enter (vs : List String) : weight (vs.map .enter) = 2 * vs.length := by
  induction vs with
  | nil => rfl
  | cons v rest ih =>
    simp only [weight, List.map_cons, Task.weight, List.length_cons, ih]
    omega

theorem weight_append (ts us : List Task) : weight (ts ++ us) = weight ts + weight us := by
  induction ts with
  | nil => exact (Nat.zero_add _).symm
  | cons t ts ih => simp only [weight, List.cons_append, ih, Nat.add_assoc]

/-- Does all tasks, those first in the list first. -/
def search (g : Digraph) (tasks : List Task) (p : Progress) : Progress :=
  match tasks with
  | [] => p
  | .leave v :: rest => search g rest { p with finished := v :: p.finished }
  | .enter v :: rest =>
    if h : p.discovered.contains v then search g rest p
    else
      search g ((g.successors v).map .enter ++ .leave v :: rest)
        { p with discovered := v :: p.discovered }
termination_by weight tasks + 2 * pending g p.discovered
decreasing_by
  · simp only [weight, Task.weight]
    omega
  · simp only [weight, Task.weight]
    omega
  · have := pending_cons (g := g) (Bool.eq_false_iff.2 h)
    simp only [weight_append, weight, weight_enter, Task.weight]
    omega

/-- The vertices that can be reached from a vertex, in the order of their discovery. -/
def discovery (g : Digraph) (v : String) : List String :=
  (g.search [.enter v] .none).discovered.reverse

/-- A search from each of several vertices in turn. -/
def searchAll (g : Digraph) (vs : List String) : Progress := g.search (vs.map .enter) .none

/-- The vertices that can be reached from some vertices, the last one finished first. -/
def finishing (g : Digraph) (vs : List String) : List String := (g.searchAll vs).finished

/-! ### Cycles -/

/-- Whether an arc leads from a vertex to itself. -/
def hasLoop (g : Digraph) (v : String) : Bool := (g.successors v).contains v

/-- The source of the first arc that enters a vertex of an order from none of the vertices before
it. `before` holds the vertices before the order. -/
def backward? (g : Digraph) : List String → List String → Option String
  | _, [] => none
  | before, v :: rest =>
    match (g.predecessors v).find? fun u => !(v :: before).contains u with
    | some u => some u
    | none => backward? g (v :: before) rest

/-- A vertex on a cycle, if there is a cycle that can be reached from `vs`. -/
def cyclePoint? (g : Digraph) (vs : List String) : Option String :=
  ((g.searchAll vs).discovered.reverse.find? g.hasLoop).or (g.backward? [] (g.finishing vs))

end Digraph
end KitchenFlow
