import KitchenFlow.Inventory.Matching
import KitchenFlow.Payload.Condition
import KitchenFlow.Run.Action
import KitchenFlow.Run.Recipe
import KitchenFlow.Run.State

/-!
# Steps of a run

What a node does when a run enters it. Triggers, conditions and updates look at the payload only;
recipes and actions reach out to collaborators when the run is live. A live action of a guarded run
first reserves its slot in the ledger, and gives it back unless it was carried out. What happens is
noted, counted and told right where it happens.
-/

namespace KitchenFlow

/-- How a run avoids repeating actions: the time it is made at, and for how long an action counts
as done. -/
structure Guard where
  now : Instant
  window : Span
deriving DecidableEq, Repr, Inhabited

/-- What stays the same during a run. -/
structure RunContext where
  flowId : String
  mode : RunMode
  guard : Option Guard
deriving DecidableEq, Repr, Inhabited

/-- What is done at a node. -/
inductive NodeTask where
  | expiry (c : ExpirationTriggerConfig)
  | status (c : InventoryStatusTriggerConfig)
  | choose (c : ConditionalBranchConfig)
  | write (c : UpdateDataConfig)
  | suggest (c : GenerateRecipeConfig)
  | act (a : Action)
deriving DecidableEq, Repr, Inhabited

/-- What a node is configured to do. -/
def NodeConfig.task : NodeConfig → NodeTask
  | .expirationTrigger c => .expiry c
  | .inventoryStatusTrigger c => .status c
  | .conditionalBranch c => .choose c
  | .updateData c => .write c
  | .generateRecipe c => .suggest c
  | .sendNotification c => .act (.notify c)
  | .webhookDelivery c => .act (.deliver c)
  | .partnerIntegration c => .act (.integrate c)

/-- Where a run goes after a node. -/
inductive Next where
  | stop
  /-- On along the edges of a branch, or along all. -/
  | go (branch : Option Branch)
deriving DecidableEq, Repr, Inhabited

/-- The reason for doing nothing for real in a test. -/
def testReason : String := "test mode"

/-- The mark of what was not done for real. -/
def demoTag : String := "[demo]"

/-- The keys of the related data under which a recipe and its source are put. -/
def recipeKey : String := "recipe_suggestion"

@[inherit_doc recipeKey]
def recipeSourceKey : String := "recipe_source"

namespace NodeTask

/-- The branch that a condition chooses. -/
def branch (p : Payload) (c : ConditionalBranchConfig) : Branch :=
  .ofBool (Condition.evaluate c.operator (p.lookup c.checkField) c.checkValue)

/-- The key that an update sets. -/
def targetKey (c : UpdateDataConfig) : String :=
  (Text.stripStart? "related_data." c.targetField).getD c.targetField

/-- The key under which an action is reserved. -/
def actionKey (x : RunContext) (p : Payload) (nodeId : String) : ActionKey :=
  ⟨x.flowId, p.item.id, nodeId⟩

/-- Reserves the slot of an action, if the run is guarded. -/
def reserve (x : RunContext) (key : ActionKey) (w : World) : Bool × World :=
  match x.guard with
  | none => (true, w)
  | some g =>
    let (granted, ledger) := w.ledger.reserve key g.now g.window
    (granted, { w with ledger })

/-- Gives the slot of an action back, if the run is guarded. -/
def release (x : RunContext) (key : ActionKey) (w : World) : World :=
  match x.guard with
  | none => w
  | some _ => { w with ledger := w.ledger.release key }

end NodeTask

namespace RunM

variable (e : Engine) (x : RunContext) (nodeId : String) (p : Payload)

/-- Makes do with a demo. -/
def demo (what reason : String) : RunM Unit := do
  count fun c => { c with demoFallbacks := c.demoFallbacks + 1 }
  note (demoTag ++ " " ++ what ++ " (" ++ reason ++ ")")
  emit (.demoFallback nodeId reason)

/-- Goes on from a trigger that matched the item, and stops at any other. -/
def triggerOutcome (item : InventoryItem) (isMatch : Bool) : RunM Next :=
  if isMatch then do
    count fun c => { c with triggersMatched := c.triggersMatched + 1 }
    note ("Trigger " ++ nodeId ++ " matched item " ++ item.id ++ " (" ++ item.name ++ ")")
    return .go none
  else do
    note ("Trigger " ++ nodeId ++ " did not match item " ++ item.id ++ "; branch stops")
    return .stop

/-- Asks for a recipe; a test is told at once why there is none. -/
def askRecipe (c : GenerateRecipeConfig) : RunM (Except String String) :=
  match x.mode with
  | .test => return .error testReason
  | .live => do
    match ← outside (Recipe.complete e c (Recipe.prompt c p)) with
    | .answered r => return r.mapError AdapterError.message
    | .broke message => throw message

/-- Puts a recipe into the payload, or a demo of one. -/
def generateRecipe (c : GenerateRecipeConfig) : RunM Payload := do
  match ← askRecipe e x p c with
  | .ok text =>
    note ("Recipe generated for " ++ p.item.name)
    return (p.setRelated recipeKey (.string text)).setRelated recipeSourceKey (.string "ai")
  | .error reason =>
    demo nodeId ("Recipe suggestion for " ++ p.item.name ++ " from demo set") reason
    return (p.setRelated recipeKey (.string (Recipe.demo p.item))).setRelated recipeSourceKey
      (.string "demo")

/-- Carries out an action whose slot is reserved. -/
def dispatch (a : Action) : RunM Next := do
  let key := NodeTask.actionKey x p nodeId
  match ← outside (a.attempt e p) with
  | .sent =>
    count fun c => { c with actionsDispatched := c.actionsDispatched + 1 }
    note ("Dispatched " ++ a.describe p)
    emit (.actionDispatched nodeId)
    return .go none
  | .unavailable reason =>
    outside fun w => ((), NodeTask.release x key w)
    demo nodeId ("Would dispatch " ++ a.describe p) reason
    return .go none
  | .failed err =>
    outside fun w => ((), NodeTask.release x key w)
    count fun c => { c with actionsFailed := c.actionsFailed + 1 }
    note ("Failed to dispatch " ++ a.describe p ++ ": " ++ err.message)
    emit (.actionFailed nodeId err.message)
    return .stop
  | .broke message => throw message

/-- Does an action: in a test only by name, and live unless it is a duplicate. -/
def action (a : Action) : RunM Next :=
  match x.mode with
  | .test => do
    demo nodeId ("Would dispatch " ++ a.describe p) testReason
    return .go none
  | .live => do
    if ← outside (NodeTask.reserve x (NodeTask.actionKey x p nodeId)) then
      dispatch e x nodeId p a
    else
      count fun c => { c with duplicatesSkipped := c.duplicatesSkipped + 1 }
      note ("Skipped duplicate " ++ a.describe p ++ " for item " ++ p.item.id)
      emit (.actionSkipped nodeId)
      return .stop

end RunM

open RunM in
/-- Does what is to be done at a node: gives the payload after it, and where to go next. -/
def NodeTask.execute (e : Engine) (x : RunContext) (nodeId : String) (p : Payload) :
    NodeTask → RunM (Payload × Next)
  | .expiry c => return (p, ← triggerOutcome nodeId p.item (c.isMatch p.item))
  | .status c => return (p, ← triggerOutcome nodeId p.item (c.isMatch p.item))
  | .choose c => do
    let b := branch p c
    note ("Condition " ++ nodeId ++ ": " ++ c.checkField ++ " " ++ c.operator.sign ++ " "
      ++ c.checkValue ++ " -> " ++ b.handle)
    return (p, .go (some b))
  | .write c => do
    let value := p.render c.value
    note ("Set related_data." ++ targetKey c ++ " = " ++ value)
    return (p.setRelated (targetKey c) (.string value), .go none)
  | .suggest c => return (← generateRecipe e x nodeId p c, .go none)
  | .act a => return (p, ← action e x nodeId p a)

end KitchenFlow
