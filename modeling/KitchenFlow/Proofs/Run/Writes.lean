import KitchenFlow.Proofs.Run.Once
import KitchenFlow.Proofs.Run.Triggers

/-!
# What a run writes

A run changes the related data of its payload and nothing else of it, and the related data only by
the entries that the nodes it has entered set: an update sets one, a recipe two, and every other
node none. What an update sets depends on the entries set before, so a run is taken as a list of
nodes with what each has written (`Story.writes`), and each node writes on the payload that those
before it have left:

    Story.payload_eq_setAll   s.payload p = p.setAll (s.writes.flatMap Prod.snd)
    Unfolds.writes            each entry of s.writes is what its node writes there
    FlowGraph.run_writes      both, for a run that returns
-/

namespace KitchenFlow

/-! ## Setting entries one after the other -/

namespace Fields

/-- Sets several entries, one after the other. -/
def insertAll (fields entries : Fields) : Fields :=
  entries.foldl (fun fields e => fields.insert e.1 e.2) fields

@[simp] theorem insertAll_nil (fields : Fields) : fields.insertAll [] = fields := rfl

@[simp] theorem insertAll_cons (fields entries : Fields) (key : String) (value : Json) :
    fields.insertAll ((key, value) :: entries) = (fields.insert key value).insertAll entries := rfl

theorem insertAll_append (fields entries more : Fields) :
    fields.insertAll (entries ++ more) = (fields.insertAll entries).insertAll more :=
  List.foldl_append

/-- A key that is not set keeps its value. -/
theorem get?_insertAll_of_not_mem {fields entries : Fields} {key : String}
    (h : key ∉ entries.map Prod.fst) : (fields.insertAll entries).get? key = fields.get? key := by
  induction entries generalizing fields with
  | nil => rfl
  | cons e entries ih =>
    obtain ⟨k, value⟩ := e
    obtain ⟨hne, h⟩ := not_or.1 (mt List.mem_cons.2 h)
    rw [insertAll_cons, ih h, get?_insert_of_ne hne]

/-- No key is lost. -/
theorem isSome_get?_insertAll {fields : Fields} {key : String} (h : (fields.get? key).isSome)
    (entries : Fields) : ((fields.insertAll entries).get? key).isSome := by
  induction entries generalizing fields with
  | nil => exact h
  | cons e entries ih =>
    obtain ⟨k, value⟩ := e
    rw [insertAll_cons]
    refine ih ?_
    by_cases hk : key = k
    · rw [hk, get?_insert_self, Option.isSome_some]
    · rwa [get?_insert_of_ne hk]

end Fields

namespace Payload

/-- The same payload with several entries of its related data set. -/
def setAll (p : Payload) (entries : Fields) : Payload :=
  { p with relatedData := p.relatedData.insertAll entries }

@[simp] theorem setAll_nil (p : Payload) : p.setAll [] = p := rfl

theorem setAll_append (p : Payload) (entries more : Fields) :
    p.setAll (entries ++ more) = (p.setAll entries).setAll more := by
  rw [setAll, setAll, Fields.insertAll_append]
  rfl

end Payload

/-! ## What a node writes -/

/-- What a node may write on a payload: an update the entry it is configured with, filled in from
the payload; a recipe the text that it was given, or the demo recipe for the item, and where it is
from; any other node nothing. -/
inductive GraphNode.Writes (mode : RunMode) (n : GraphNode) (p : Payload) : Fields → Prop where
  | update {c} : n.config = .updateData c →
      Writes mode n p [(NodeTask.targetKey c, .string (p.render c.value))]
  | recipe {c text} : n.config = .generateRecipe c → mode = .live → Text.isBlank text = false →
      Writes mode n p [(recipeKey, .string text), (recipeSourceKey, .string "ai")]
  | demo {c} : n.config = .generateRecipe c →
      Writes mode n p [(recipeKey, .string (Recipe.demo p.item)), (recipeSourceKey, .string "demo")]
  | nothing : n.kind ≠ .updateData → n.kind ≠ .generateRecipe → Writes mode n p []

/-- The keys of the related data that a node sets. -/
def GraphNode.writtenKeys (n : GraphNode) : List String :=
  match n.config with
  | .updateData c => [NodeTask.targetKey c]
  | .generateRecipe _ => [recipeKey, recipeSourceKey]
  | .expirationTrigger _ | .inventoryStatusTrigger _ | .conditionalBranch _ | .sendNotification _
  | .webhookDelivery _ | .partnerIntegration _ => []

/-- Whatever a node writes, it is under its own keys. -/
theorem GraphNode.Writes.map_fst {mode : RunMode} {n : GraphNode} {p : Payload} {entries : Fields}
    (h : n.Writes mode p entries) : entries.map Prod.fst = n.writtenKeys := by
  cases h with
  | update hc | recipe hc _ _ | demo hc =>
    rw [writtenKeys, hc]
    rfl
  | nothing hupdate hrecipe =>
    obtain ⟨id, config⟩ := n
    cases config with
    | updateData => exact (hupdate rfl).elim
    | generateRecipe => exact (hrecipe rfl).elim
    | expirationTrigger | inventoryStatusTrigger | conditionalBranch | sendNotification
    | webhookDelivery | partnerIntegration => rfl

/-- The entries that are set by what happens at a node. -/
def NodeEffect.writes : NodeEffect → Fields
  | .wrote key value => [(key, .string value)]
  | .suggested _ recipe source =>
    [(recipeKey, .string recipe), (recipeSourceKey, .string source.name)]
  | _ => []

theorem NodeEffect.apply_eq_setAll (p : Payload) (effect : NodeEffect) :
    effect.apply p = p.setAll effect.writes := by
  cases effect <;> rfl

/-- A completion that is taken says something. -/
theorem Recipe.isBlank_of_complete {e : Engine} {c : GenerateRecipeConfig} {question text : String}
    {w w' : World} (h : complete e c question w = (.answered (.ok text), w')) :
    Text.isBlank text = false := by
  unfold complete at h
  split at h
  · cases h
  · split at h
    · cases h
    · split at h
      · next answer _ _ =>
        have hcheck : checkText answer = .ok text := by
          injection h with h
          injection h
        obtain ⟨found, -, hfound⟩ := Fallible.bind_eq_ok_iff.1 hcheck
        split at hfound
        · cases hfound
        · next hblank =>
          cases hfound
          exact Bool.eq_false_iff.2 hblank
      · cases h

/-- An action writes nothing. -/
theorem NodeTask.ComesTo.writes_eq_nil {e : Engine} {item : InventoryItem} {a : Action}
    {effect : NodeEffect} (h : ComesTo e item (.act a) effect) : effect.writes = [] := by
  cases h <;> rfl

section

variable {e : Engine} {x : RunContext} {n : GraphNode} {p : Payload} {w w' : World}
  {effect : NodeEffect}

/-- A recipe that was suggested is written, whether it was asked for or not. -/
theorem GraphNode.writes_of_suggestRecipe {c : GenerateRecipeConfig}
    (hc : n.config = .generateRecipe c) (h : NodeTask.suggestRecipe e x p c w = (effect, w'))
    (hgo : effect.isAbort = false) : n.Writes x.mode p effect.writes := by
  unfold NodeTask.suggestRecipe at h
  split at h
  · cases h
    exact .demo hc
  · next hmode =>
    split at h
    · next hcomplete =>
      cases h
      exact .recipe hc hmode (Recipe.isBlank_of_complete hcomplete)
    · cases h
      exact .demo hc
    · cases h
      cases hgo

/-- What a node writes is seen from what happens at it. -/
theorem GraphNode.writes_of_step (h : n.config.task.step e x n.id p w = (effect, w'))
    (hgo : effect.isAbort = false) : n.Writes x.mode p effect.writes := by
  have hcomes := NodeTask.comesTo_step e x n.id p w n.config.task
  rw [h] at hcomes
  cases hc : n.config with
  | updateData c =>
    rw [hc] at h
    cases h
    exact .update hc
  | generateRecipe c =>
    rw [hc] at h
    exact writes_of_suggestRecipe hc h hgo
  | expirationTrigger c | inventoryStatusTrigger c | conditionalBranch c =>
    rw [hc] at h
    cases h
    exact .nothing (by simp [kind, hc, NodeConfig.kind]) (by simp [kind, hc, NodeConfig.kind])
  | sendNotification c | webhookDelivery c | partnerIntegration c =>
    rw [hc] at hcomes
    rw [hcomes.writes_eq_nil]
    exact .nothing (by simp [kind, hc, NodeConfig.kind]) (by simp [kind, hc, NodeConfig.kind])

end

namespace Story

/-- The nodes entered, each with what it has written. -/
def writes (s : Story) : List (GraphNode × Fields) :=
  s.filterMap fun
    | .visit n effect => some (n, effect.writes)
    | .refusal _ => none

variable {s : Story}

@[simp] theorem writes_nil : writes [] = [] := rfl

@[simp] theorem writes_visit (n : GraphNode) (effect : NodeEffect) (s : Story) :
    writes (.visit n effect :: s) = (n, effect.writes) :: writes s := rfl

@[simp] theorem writes_refusal (id : String) (s : Story) : writes (.refusal id :: s) = writes s :=
  rfl

/-- A payload becomes what is written on it. -/
theorem payload_eq_setAll (s : Story) (p : Payload) :
    s.payload p = p.setAll (s.writes.flatMap Prod.snd) := by
  induction s generalizing p with
  | nil => rfl
  | cons m s ih =>
    cases m with
    | visit n effect =>
      rw [writes_visit, List.flatMap_cons, Payload.setAll_append, ← NodeEffect.apply_eq_setAll]
      exact ih (effect.apply p)
    | refusal id => exact ih p

theorem map_writes (s : Story) : s.writes.map (fun v => v.1.id) = s.trace := by
  rw [writes, trace, List.map_filterMap]
  refine List.filterMap_congr fun m _ => ?_
  cases m <;> rfl

theorem mem_writes_iff {n : GraphNode} {entries : Fields} :
    (n, entries) ∈ s.writes ↔ ∃ effect, Moment.visit n effect ∈ s ∧ effect.writes = entries := by
  rw [writes, List.mem_filterMap]
  constructor
  · rintro ⟨m, hm, heq⟩
    cases m with
    | visit n' effect =>
      cases heq
      exact ⟨effect, hm, rfl⟩
    | refusal id => cases heq
  · rintro ⟨effect, hn, rfl⟩
    exact ⟨_, hn, rfl⟩

end Story

/-- Each node of a story writes on the payload that those before it have left. -/
theorem Unfolds.writes {e : Engine} {x : RunContext} {p : Payload} {w w' : World} {s : Story}
    (h : Unfolds e x p w s w')
    (hgo : ∀ n effect, Moment.visit n effect ∈ s → effect.isAbort = false) :
    ∀ before n entries after, s.writes = before ++ (n, entries) :: after →
      n.Writes x.mode (p.setAll (before.flatMap Prod.snd)) entries := by
  induction h with
  | nil => simp
  | refusal _ ih => exact ih fun n effect hn => hgo n effect (List.mem_cons_of_mem _ hn)
  | @visit p w n effect w₁ s w' hstep _ ih =>
    intro before m entries after hs
    rw [Story.writes_visit] at hs
    cases before with
    | nil =>
      obtain ⟨hm, -⟩ := List.cons.inj hs
      cases hm
      exact GraphNode.writes_of_step hstep (hgo n effect List.mem_cons_self)
    | cons first before =>
      obtain ⟨hfirst, hs⟩ := List.cons.inj hs
      rw [← hfirst, List.flatMap_cons, Payload.setAll_append, ← NodeEffect.apply_eq_setAll]
      exact ih (fun n effect hn => hgo n effect (List.mem_cons_of_mem _ hn)) before m entries after
        hs

theorem Unfolds.exists_writes {e : Engine} {x : RunContext} {p : Payload} {w w' : World} {s : Story}
    (h : Unfolds e x p w s w')
    (hgo : ∀ n effect, Moment.visit n effect ∈ s → effect.isAbort = false) {n : GraphNode}
    {entries : Fields} (hn : (n, entries) ∈ s.writes) : ∃ q, n.Writes x.mode q entries := by
  obtain ⟨before, after, hs⟩ := List.append_of_mem hn
  exact ⟨_, h.writes hgo before n entries after hs⟩

/-- A run that returns has changed the related data of its payload and nothing else. The nodes of
its trace have set entries of it, one after the other: each update one, filled in from the payload
as it was then, each recipe two, and the others none. A key that none of them has set keeps its
value, and no key is lost. -/
theorem FlowGraph.run_writes (g : FlowGraph) (e : Engine) (mode : RunMode) (guard : Option Guard)
    (p : Payload) (w : World) {res : RunResult} (h : (g.run e mode guard p w).result = .ok res) :
    ∃ made : List (GraphNode × Fields),
      made.map (fun v => v.1.id) = res.trace ∧
      (∀ before n entries after, made = before ++ (n, entries) :: after →
        n ∈ g.nodes ∧ n.Writes mode (p.setAll (before.flatMap Prod.snd)) entries) ∧
      res.payload = { p with relatedData := p.relatedData.insertAll (made.flatMap Prod.snd) } ∧
      (∀ key, key ∉ (made.flatMap Prod.snd).map Prod.fst →
        res.payload.relatedData.get? key = p.relatedData.get? key) ∧
      ∀ key, (p.relatedData.get? key).isSome → (res.payload.relatedData.get? key).isSome := by
  have hwalk := walksAll_walkAll g e ⟨g.flowId, mode, guard⟩ (g.listeners p.triggerEvent) p w
  have hgo := g.abort?_of_result_eq_ok h
  rcases hstory : g.walkAll e ⟨g.flowId, mode, guard⟩ (g.listeners p.triggerEvent) p w
    with ⟨s, w'⟩
  rw [hstory] at hwalk hgo
  rw [run_of_abort?_eq_none hstory hgo] at h
  cases h
  have hpayload : s.payload p = p.setAll (s.writes.flatMap Prod.snd) := s.payload_eq_setAll p
  refine ⟨s.writes, s.map_writes, fun before n entries after hs => ⟨?_, ?_⟩, hpayload,
    fun key hkey => ?_, fun key hkey => ?_⟩
  · have hmem : (n, entries) ∈ s.writes := hs ▸ List.mem_append_cons_self
    obtain ⟨effect, hn, -⟩ := Story.mem_writes_iff.1 hmem
    exact hwalk.routes.mem_nodes hn
  · exact hwalk.unfolds.writes (hwalk.not_isAbort hgo) before n entries after hs
  · show (s.payload p).relatedData.get? key = _
    rw [hpayload]
    exact Fields.get?_insertAll_of_not_mem hkey
  · show ((s.payload p).relatedData.get? key).isSome
    rw [hpayload]
    exact Fields.isSome_get?_insertAll hkey _

/-- What the run on milk has written, node by node. -/
theorem FlowGraph.run_writes_milk : ∃ (g : FlowGraph) (res : RunResult)
    (made : List (GraphNode × Fields)),
    (g.run Example.engine .live (some Example.minuteGuard) Example.milkPayload .initial).result
      = .ok res ∧
    made.map (fun v => v.1.id) = ["trigger-1", "cond-1", "recipe-1", "notify-1"] ∧
    res.payload = { Example.milkPayload with
      relatedData := Fields.insertAll [] (made.flatMap Prod.snd) } := by
  obtain ⟨g, res, -, hres, htrace, -⟩ := Example.exists_milk_run
  obtain ⟨made, hmade, -, hpayload, -⟩ := g.run_writes Example.engine .live
    (some Example.minuteGuard) Example.milkPayload .initial hres
  exact ⟨g, res, made, hres, hmade.trans htrace, hpayload⟩

end KitchenFlow
