import KitchenFlow.Graph.Basic
import KitchenFlow.Run.Step

/-!
# What happens at a node

When a run enters a node, exactly one of a few things happens there: its *effect*. A run does not
keep effects. It writes to its records and acts on the world, each in its place; but which effect a
node comes to decides all of it: where the run goes next, how the payload changes, which line is
noted, which events are told, and what is counted. The effect is what proofs about runs speak of,
and `NodeTask.step` says which it is. That a run writes what its effects say is shown in
`Proofs.Run.Narration`.
-/

namespace KitchenFlow

/-- How an action came out. -/
inductive ActionOutcome where
  | dispatched
  | demo (reason : String)
  | failed (e : AdapterError)
  | duplicate
deriving DecidableEq, Repr, Inhabited

/-- Where a recipe came from. -/
inductive RecipeSource where
  | ai
  | demo (reason : String)
deriving DecidableEq, Repr, Inhabited

/-- What happens at a node. -/
inductive NodeEffect where
  /-- A trigger was asked about the item. -/
  | asked (isMatch : Bool) (itemId itemName : String)
  /-- A condition chose a branch. -/
  | branched (config : ConditionalBranchConfig) (branch : Branch)
  /-- An entry of the related data was set. -/
  | wrote (key value : String)
  /-- A recipe was suggested for an item. -/
  | suggested (itemName recipe : String) (source : RecipeSource)
  /-- An action was attempted. -/
  | acted (description itemId : String) (outcome : ActionOutcome)
  /-- A collaborator broke down, and the run with it. -/
  | aborted (message : String)
deriving DecidableEq, Repr, Inhabited

namespace RecipeSource

def name : RecipeSource → String
  | .ai => "ai"
  | .demo _ => "demo"

end RecipeSource

namespace NodeEffect

/-- Where the run goes. -/
def next : NodeEffect → Next
  | .asked isMatch .. => if isMatch then .go none else .stop
  | .branched _ b => .go (some b)
  | .wrote .. | .suggested .. => .go none
  | .acted _ _ outcome =>
    match outcome with
    | .dispatched | .demo _ => .go none
    | .failed _ | .duplicate => .stop
  | .aborted _ => .stop

/-- How the payload changes. -/
def apply (p : Payload) : NodeEffect → Payload
  | .wrote key value => p.setRelated key (.string value)
  | .suggested _ recipe source =>
    (p.setRelated recipeKey (.string recipe)).setRelated recipeSourceKey (.string source.name)
  | _ => p

/-- Whether the run breaks off. -/
def isAbort : NodeEffect → Bool
  | .aborted _ => true
  | _ => false

/-- A line about something that was not done for real. -/
def demoLine (what reason : String) : String := demoTag ++ " " ++ what ++ " (" ++ reason ++ ")"

/-- The line noted about an action. -/
def actionLine (description itemId : String) : ActionOutcome → String
  | .dispatched => "Dispatched " ++ description
  | .demo reason => demoLine ("Would dispatch " ++ description) reason
  | .failed e => "Failed to dispatch " ++ description ++ ": " ++ e.message
  | .duplicate => "Skipped duplicate " ++ description ++ " for item " ++ itemId

/-- The line noted about what happened at a node. -/
def line (nodeId : String) : NodeEffect → String
  | .asked true itemId itemName =>
    "Trigger " ++ nodeId ++ " matched item " ++ itemId ++ " (" ++ itemName ++ ")"
  | .asked false itemId _ =>
    "Trigger " ++ nodeId ++ " did not match item " ++ itemId ++ "; branch stops"
  | .branched c b =>
    "Condition " ++ nodeId ++ ": " ++ c.checkField ++ " " ++ c.operator.sign ++ " " ++ c.checkValue
      ++ " -> " ++ b.handle
  | .wrote key value => "Set related_data." ++ key ++ " = " ++ value
  | .suggested itemName _ .ai => "Recipe generated for " ++ itemName
  | .suggested itemName _ (.demo reason) =>
    demoLine ("Recipe suggestion for " ++ itemName ++ " from demo set") reason
  | .acted description itemId outcome => actionLine description itemId outcome
  | .aborted message => message

/-- The event told about an action. -/
def actionEvent (nodeId : String) : ActionOutcome → RunEvent
  | .dispatched => .actionDispatched nodeId
  | .demo reason => .demoFallback nodeId reason
  | .failed e => .actionFailed nodeId e.message
  | .duplicate => .actionSkipped nodeId

/-- The event told about what happened at a node, if it is worth one. -/
def event? (nodeId : String) : NodeEffect → Option RunEvent
  | .suggested _ _ (.demo reason) => some (.demoFallback nodeId reason)
  | .acted _ _ outcome => some (actionEvent nodeId outcome)
  | _ => none

/-- Counts one more of what happened. -/
def count (s : RunStats) : NodeEffect → RunStats
  | .asked true .. => { s with triggersMatched := s.triggersMatched + 1 }
  | .suggested _ _ (.demo _) => { s with demoFallbacks := s.demoFallbacks + 1 }
  | .acted _ _ .dispatched => { s with actionsDispatched := s.actionsDispatched + 1 }
  | .acted _ _ (.demo _) => { s with demoFallbacks := s.demoFallbacks + 1 }
  | .acted _ _ (.failed _) => { s with actionsFailed := s.actionsFailed + 1 }
  | .acted _ _ .duplicate => { s with duplicatesSkipped := s.duplicatesSkipped + 1 }
  | _ => s

@[simp] theorem apply_item (p : Payload) (e : NodeEffect) : (e.apply p).item = p.item := by
  cases e <;> rfl

@[simp] theorem apply_triggerEvent (p : Payload) (e : NodeEffect) :
    (e.apply p).triggerEvent = p.triggerEvent := by
  cases e <;> rfl

end NodeEffect

/-! ## The effect of a node -/

namespace NodeTask

/-- What a trigger finds. -/
def ask (p : Payload) (isMatch : Bool) : NodeEffect := .asked isMatch p.item.id p.item.name

/-- Suggests a demo recipe. -/
def demoRecipe (p : Payload) (reason : String) : NodeEffect :=
  .suggested p.item.name (Recipe.demo p.item) (.demo reason)

/-- Suggests a recipe. -/
def suggestRecipe (e : Engine) (x : RunContext) (p : Payload) (c : GenerateRecipeConfig)
    (w : World) : NodeEffect × World :=
  match x.mode with
  | .test => (demoRecipe p testReason, w)
  | .live =>
    match Recipe.complete e c (Recipe.prompt c p) w with
    | (.answered (.ok text), w) => (.suggested p.item.name text .ai, w)
    | (.answered (.error err), w) => (demoRecipe p err.message, w)
    | (.broke message, w) => (.aborted message, w)

/-- Carries out an action in a live run. -/
def carryOut (e : Engine) (x : RunContext) (nodeId : String) (p : Payload) (a : Action)
    (w : World) : NodeEffect × World :=
  let description := a.describe p
  let acted (o : ActionOutcome) : NodeEffect := .acted description p.item.id o
  let key := actionKey x p nodeId
  match reserve x key w with
  | (false, w) => (acted .duplicate, w)
  | (true, w) =>
    match a.attempt e p w with
    | (.sent, w) => (acted .dispatched, w)
    | (.unavailable reason, w) => (acted (.demo reason), release x key w)
    | (.failed err, w) => (acted (.failed err), release x key w)
    | (.broke message, w) => (.aborted message, w)

/-- What happens at a node, and the world after it. -/
def step (e : Engine) (x : RunContext) (nodeId : String) (p : Payload) (w : World) :
    NodeTask → NodeEffect × World
  | .expiry c => (ask p (c.isMatch p.item), w)
  | .status c => (ask p (c.isMatch p.item), w)
  | .choose c => (.branched c (branch p c), w)
  | .write c => (.wrote (targetKey c) (p.render c.value), w)
  | .suggest c => suggestRecipe e x p c w
  | .act a =>
    match x.mode with
    | .test => (.acted (a.describe p) p.item.id (.demo testReason), w)
    | .live => carryOut e x nodeId p a w

end NodeTask
end KitchenFlow
