import KitchenFlow.Proofs.Run.Runner

/-!
# The moves of a run under way

A live, guarded run under way has ten moves, and this module says once for all what they are. What
holds of such a run whatever others do in between is shown by cases on `Moves`. First of all, it
takes a route through its graph:

    OnRoute.routes   a run that is over has taken a route
-/

namespace KitchenFlow.Runner

/-- The moves of a live, guarded run. -/
inductive Moves (g : FlowGraph) (e : Engine) (x : RunContext) (gd : Guard) :
    Runner × World → Runner × World → Prop where
  /-- All is done. -/
  | finish {visited p t w} : Moves g e x gd
      (⟨[], [], visited, p, t, .walking⟩, w) (⟨[], [], visited, p, t, .ended⟩, w)
  /-- The walk from the next root begins. -/
  | root {root roots visited p t w} : Moves g e x gd
      (⟨root :: roots, [], visited, p, t, .walking⟩, w)
      (⟨roots, [root], [], p, t, .walking⟩, w)
  /-- A node is not entered again. -/
  | again {roots n stack visited p t w} : n.id ∈ visited → Moves g e x gd
      (⟨roots, n :: stack, visited, p, t, .walking⟩, w)
      (⟨roots, stack, visited, p, t ++ [.refusal n.id], .walking⟩, w)
  /-- A node is entered that is no action. -/
  | plain {roots n stack visited p t effect w w'} : n.id ∉ visited →
      (∀ a, n.config.task ≠ .act a) → n.config.task.step e x n.id p w = (effect, w') →
      Moves g e x gd
        (⟨roots, n :: stack, visited, p, t, .walking⟩, w)
        (tell ⟨roots, stack, n.id :: visited, p, t, .walking⟩ g n effect, w')
  /-- The slot of an action is not free. -/
  | skip {roots n stack visited p t a w} : n.id ∉ visited → n.config.task = .act a →
      w.ledger.holds gd.now gd.window (NodeTask.actionKey x p n.id) = true →
      Moves g e x gd
        (⟨roots, n :: stack, visited, p, t, .walking⟩, w)
        (tell ⟨roots, stack, n.id :: visited, p, t, .walking⟩ g n
          (.acted (a.describe p) p.item.id .duplicate), w)
  /-- The slot of an action is free, and is taken. -/
  | take {roots n stack visited p t a w} : n.id ∉ visited → n.config.task = .act a →
      w.ledger.holds gd.now gd.window (NodeTask.actionKey x p n.id) = false →
      Moves g e x gd
        (⟨roots, n :: stack, visited, p, t, .walking⟩, w)
        (⟨roots, stack, n.id :: visited, p, t, .calling n a⟩,
          { w with ledger := w.ledger.put (NodeTask.actionKey x p n.id) gd.now })
  /-- The action is carried out. -/
  | send {roots stack visited p t n a w w'} : a.attempt e p w = (.sent, w') →
      Moves g e x gd
        (⟨roots, stack, visited, p, t, .calling n a⟩, w)
        (tell ⟨roots, stack, visited, p, t, .calling n a⟩ g n
          (.acted (a.describe p) p.item.id .dispatched), w')
  /-- The action is not carried out. -/
  | miss {roots stack visited p t n a o ho w w'} :
      (∃ reason, o = .demo reason ∧ a.attempt e p w = (.unavailable reason, w')) ∨
        (∃ err, o = .failed err ∧ a.attempt e p w = (.failed err, w')) →
      Moves g e x gd
        (⟨roots, stack, visited, p, t, .calling n a⟩, w)
        (⟨roots, stack, visited, p, t, .returning n (.acted (a.describe p) p.item.id o) ho⟩, w')
  /-- The collaborator breaks down. -/
  | breakdown {roots stack visited p t n a message w w'} : a.attempt e p w = (.broke message, w') →
      Moves g e x gd
        (⟨roots, stack, visited, p, t, .calling n a⟩, w)
        (tell ⟨roots, stack, visited, p, t, .calling n a⟩ g n (.aborted message), w')
  /-- The slot of the action is given back. -/
  | giveBack {roots stack visited p t n effect ho w} : Moves g e x gd
      (⟨roots, stack, visited, p, t, .returning n effect ho⟩, w)
      (tell ⟨roots, stack, visited, p, t, .returning n effect ho⟩ g n effect,
        { w with ledger := w.ledger.release (NodeTask.actionKey x p n.id) })
  /-- Nothing is left to be done. -/
  | rest {roots stack visited p t w} : Moves g e x gd
      (⟨roots, stack, visited, p, t, .ended⟩, w) (⟨roots, stack, visited, p, t, .ended⟩, w)

variable {g : FlowGraph} {e : Engine} {x : RunContext} {gd : Guard}

theorem moves_enter (hm : x.mode = .live) (hg : x.guard = some gd) {roots stack : List GraphNode}
    {visited : List String} {p : Payload} {t : Story} {n : GraphNode} {w : World}
    (hv : n.id ∉ visited) :
    Moves g e x gd (⟨roots, n :: stack, visited, p, t, .walking⟩, w)
      (enter g e x ⟨roots, stack, n.id :: visited, p, t, .walking⟩ n w) := by
  unfold enter
  split
  · next a ha _ =>
    cases hh : w.ledger.holds gd.now gd.window (NodeTask.actionKey x p n.id) with
    | true =>
      rw [NodeTask.reserve_of_holds hg hh]
      exact .skip hv ha hh
    | false =>
      rw [NodeTask.reserve_of_not_holds hg hh]
      exact .take hv ha hh
  · next hact => exact .plain hv (fun a ha => hact a ha hm) rfl

theorem moves_call {roots stack : List GraphNode} {visited : List String} {p : Payload} {t : Story}
    {n : GraphNode} {a : Action} {w : World} :
    Moves g e x gd (⟨roots, stack, visited, p, t, .calling n a⟩, w)
      (call g e ⟨roots, stack, visited, p, t, .calling n a⟩ n a w) := by
  unfold call
  dsimp only
  rcases ha : a.attempt e p w with ⟨result, w'⟩
  cases result with
  | sent => exact .send ha
  | unavailable reason => exact .miss (.inl ⟨reason, rfl, ha⟩)
  | failed err => exact .miss (.inr ⟨err, rfl, ha⟩)
  | broke message => exact .breakdown ha

/-- The next step of a live, guarded run is one of its moves. -/
theorem moves_advance (hm : x.mode = .live) (hg : x.guard = some gd) (r : Runner) (w : World) :
    Moves g e x gd (r, w) (r.advance g e x w) := by
  obtain ⟨roots, stack, visited, p, t, stage⟩ := r
  cases stage with
  | walking =>
    unfold advance walk
    dsimp only
    cases stack with
    | nil =>
      cases roots with
      | nil => exact .finish
      | cons root roots => exact .root
    | cons n stack =>
      dsimp only
      split
      · next hv => exact .again (List.contains_iff_mem.1 hv)
      · next hv => exact moves_enter hm hg (mt List.contains_iff_mem.2 hv)
  | calling n a => exact moves_call
  | returning n effect ho =>
    have hrelease : NodeTask.release x (NodeTask.actionKey x p n.id) w =
        { w with ledger := w.ledger.release (NodeTask.actionKey x p n.id) } := by
      simp only [NodeTask.release, hg]
    unfold advance
    dsimp only
    rw [hrelease]
    exact .giveBack
  | ended => exact .rest

/-! ## Routes -/

/-- With an effect at a node, a run goes on along a route that begins at these roots. -/
def Leads (g : FlowGraph) (e : Engine) (item : InventoryItem) (roots : List GraphNode) (r : Runner)
    (n : GraphNode) (effect : NodeEffect) : Prop :=
  ∀ s, (if effect.isAbort then s = []
    else Routes g e item r.roots (g.follow n.id effect.next ++ r.stack) r.visited s) →
      Routes g e item roots [] [] (r.story ++ .visit n effect :: s)

/-- A run has come along a route that begins at these roots, whichever way it goes on. -/
def OnRoute (g : FlowGraph) (e : Engine) (item : InventoryItem) (roots : List GraphNode)
    (r : Runner) : Prop :=
  r.payload.item = item ∧
  match r.stage with
  | .walking => ∀ s, Routes g e item r.roots r.stack r.visited s →
      Routes g e item roots [] [] (r.story ++ s)
  | .calling n a => n.config.task = .act a ∧
      ∀ effect, n.config.task.ComesTo e item effect → r.Leads g e item roots n effect
  | .returning n effect _ => r.Leads g e item roots n effect
  | .ended => Routes g e item roots [] [] r.story

variable {item : InventoryItem} {roots : List GraphNode}

theorem onRoute_start (roots : List GraphNode) (p : Payload) :
    OnRoute g e p.item roots (start roots p) :=
  ⟨rfl, fun _ h => h⟩

theorem OnRoute.routes {r : Runner} (h : r.OnRoute g e item roots) (hr : r.stage = .ended) :
    Routes g e item roots [] [] r.story := by
  have hstage := h.2
  rwa [hr] at hstage

/-- Telling an effect is to go where it leads. -/
theorem Leads.tell {r : Runner} {n : GraphNode} {effect : NodeEffect}
    (h : r.Leads g e item roots n effect) (hitem : r.payload.item = item) :
    OnRoute g e item roots (r.tell g n effect) := by
  refine ⟨(effect.apply_item r.payload).trans hitem, ?_⟩
  cases habort : effect.isAbort with
  | true =>
    simp only [Runner.tell, habort, if_true]
    exact h [] (by rw [if_pos habort])
  | false =>
    simp only [Runner.tell, habort, Bool.false_eq_true, if_false, List.append_assoc,
      List.singleton_append]
    exact fun s hs => h s (by rwa [habort, if_neg Bool.false_ne_true])

/-- To enter a node is to go where one of its effects leads. -/
theorem leads_of_walking {roots' stack : List GraphNode} {visited : List String} {p : Payload}
    {t : Story} {n : GraphNode} {stage : Stage} {effect : NodeEffect} (hv : n.id ∉ visited)
    (h : ∀ s, Routes g e item roots' (n :: stack) visited s → Routes g e item roots [] [] (t ++ s))
    (hcomes : n.config.task.ComesTo e item effect) :
    Leads g e item roots ⟨roots', stack, n.id :: visited, p, t, stage⟩ n effect := by
  intro s hs
  cases habort : effect.isAbort with
  | true =>
    rw [if_pos habort] at hs
    rw [hs]
    exact h _ (.broken hv hcomes habort)
  | false =>
    rw [habort, if_neg Bool.false_ne_true] at hs
    exact h _ (.enter hv hcomes habort hs)

/-- Every move keeps to a route. -/
theorem OnRoute.moves {a b : Runner × World} (h : a.1.OnRoute g e item roots)
    (hmove : Moves g e x gd a b) : b.1.OnRoute g e item roots := by
  obtain ⟨hitem, hstage⟩ := h
  cases hmove with
  | finish => exact ⟨hitem, by simpa using hstage [] .done⟩
  | root => exact ⟨hitem, fun s hs => hstage s (.root hs)⟩
  | again hv =>
    refine ⟨hitem, fun s hs => ?_⟩
    rw [List.append_assoc]
    exact hstage _ (.again hv hs)
  | @plain roots' n stack visited p t effect w w' hv _ hstep =>
    have hcomes := NodeTask.comesTo_step e x n.id p w n.config.task
    obtain rfl : p.item = item := hitem
    rw [hstep] at hcomes
    exact (leads_of_walking hv hstage hcomes).tell rfl
  | @skip roots' n stack visited p t a w hv ha =>
    obtain rfl : p.item = item := hitem
    refine (leads_of_walking hv hstage ?_).tell rfl
    rw [ha]
    exact .skip
  | take hv ha _ => exact ⟨hitem, ha, fun effect hcomes => leads_of_walking hv hstage hcomes⟩
  | send hatt =>
    obtain rfl := hitem
    obtain ⟨ha, hleads⟩ := hstage
    exact (hleads _ (ha ▸ .send hatt)).tell rfl
  | miss hatt =>
    obtain rfl := hitem
    obtain ⟨ha, hleads⟩ := hstage
    refine ⟨rfl, hleads _ ?_⟩
    rw [ha]
    rcases hatt with ⟨reason, rfl, hatt⟩ | ⟨err, rfl, hatt⟩
    · exact .lack hatt
    · exact .fail hatt
  | breakdown hatt =>
    obtain rfl := hitem
    obtain ⟨ha, hleads⟩ := hstage
    exact (hleads _ (ha ▸ .breakdown hatt)).tell rfl
  | giveBack => exact Leads.tell hstage hitem
  | rest => exact ⟨hitem, hstage⟩

end KitchenFlow.Runner
