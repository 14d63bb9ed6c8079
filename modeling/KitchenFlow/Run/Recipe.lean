import KitchenFlow.Payload.Template
import KitchenFlow.Run.Engine

/-!
# Recipes

A recipe for an item is asked of the completion service, or taken from a small set of demo recipes
when the service is not to be had.
-/

namespace KitchenFlow.Recipe

/-- The categories for which there is an idea of their own. -/
def idea (category name : String) : String :=
  match category with
  | "dairy" => "Creamy " ++ name ++ " pasta: simmer with garlic, toss with penne and parmesan."
  | "produce" | "vegetables" | "fruit" =>
    "Quick " ++ name ++ " stir-fry: slice thin, sear hot with soy and ginger."
  | "meat" | "poultry" | "seafood" =>
    "Sheet-pan " ++ name ++ ": roast at 220C with olive oil, lemon and herbs."
  | "bakery" | "bread" => name ++ " bread pudding: cube, soak in custard, bake 40 minutes."
  | _ => "Use-it-up soup: simmer " ++ name ++ " with stock, onion and seasonal vegetables."

/-- The demo recipe for an item. -/
def demo (item : InventoryItem) : String :=
  let name := if item.name.isEmpty then "this item" else item.name
  "[Demo recipe] " ++ idea (Text.lower (item.category.getD "")) name

/-- What is asked for if the author of the flow has not said it. -/
def defaultPrompt (item : InventoryItem) : String :=
  match item.category with
  | some category =>
    "Suggest one practical kitchen recipe that uses " ++ item.name ++ " (" ++ category
      ++ ") before it expires."
  | none =>
    "Suggest one practical kitchen recipe that uses " ++ item.name ++ " before it expires."

/-- What the completion service is asked. -/
def prompt (c : GenerateRecipeConfig) (p : Payload) : String :=
  let request := match c.prompt with
    | some template => p.render template
    | none => defaultPrompt p.item
  let expiry := match p.item.remainingDays with
    | some days => " It expires in " ++ toString days ++ " day(s)."
    | none => ""
  let serving := match c.servings with
    | some n => " Serves " ++ Layout.prose.render n ++ "."
    | none => ""
  request ++ expiry ++ serving

/-- The key for a completion. -/
def apiKey (e : Engine) (c : GenerateRecipeConfig) (w : World) :
    Except AdapterError String × World :=
  match c.credentialId with
  | some id => e.resolveSecret id w
  | none =>
    match e.defaultAiKey with
    | some key => (.ok key, w)
    | none => (Engine.unavailable "no AI API key configured", w)

/-- A completion that says something. -/
def checkText (r : Except AdapterError String) : Except AdapterError String := do
  let text ← r
  if Text.isBlank text then .error (.failed "completion was empty") else .ok text

/-- Asks the completion service for a recipe. -/
def complete (e : Engine) (c : GenerateRecipeConfig) (question : String) (w : World) :
    CallResult × World :=
  match e.services.completion with
  | none => (.answered (.error (.failed "no completion adapter configured")), w)
  | some responder =>
    match apiKey e c w with
    | (.error err, w) => (.answered (.error err), w)
    | (.ok key, w) =>
      match w.perform e.timeout responder (.completion question key) with
      | (.answered r, w) => (.answered (checkText r), w)
      | (.broke message, w) => (.broke message, w)

end KitchenFlow.Recipe
