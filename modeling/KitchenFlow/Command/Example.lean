import KitchenFlow.Flow.Basic

/-!
# An example flow

The flow that is offered as a beginning: dairy about to expire gets a recipe suggestion and an
email, anything else gets a note.
-/

namespace KitchenFlow.Example

/-- A node at a place on the canvas. -/
def node (id : String) (kind : NodeKind) (x y : Int) (config : List (String × Json)) : NodeSpec :=
  ⟨id, kind.name, ⟨.ofInt x, .ofInt y⟩, Fields.ofEntries config⟩

/-- The nodes of the example. -/
def nodes : List NodeSpec :=
  [node "trigger-1" .expirationTrigger 100 100 [("timeOffset", .ofNat 3)],
    node "cond-1" .conditionalBranch 300 100
      [("checkField", .string "inventory_item.category"), ("operator", .string "=="),
        ("checkValue", .string "Dairy")],
    node "recipe-1" .generateRecipe 500 50 [("servings", .ofNat 4)],
    node "notify-1" .sendNotification 700 50
      [("channel", .string "email"), ("recipient", .string "chef@example.com"),
        ("subject",
          .string "\x7b\x7bname\x7d\x7d expires in \x7b\x7bremaining_days\x7d\x7d days"),
        ("message", .string "Suggested use: \x7b\x7brelated_data.recipe_suggestion\x7d\x7d")],
    node "update-1" .updateData 500 200
      [("targetField", .string "note"),
        ("value",
          .string "\x7b\x7bname\x7d\x7d is expiring; check the \x7b\x7blocation\x7d\x7d")]]

/-- The example, published at an instant. -/
def flow (now : Instant) : Flow :=
  ((((({ Flow.empty "flow-dairy-alert" "Dairy spoilage alert" with nodes }.connect "trigger-1"
    "cond-1").connectBranch "cond-1" .yes "recipe-1").connect "recipe-1" "notify-1").connectBranch
    "cond-1" .no "update-1").publish now)

/-- An item to try the example out on. -/
def item : String :=
  "\x7b\"id\":\"item-101\",\"name\":\"Milk (Gallon)\",\"category\":\"Dairy\","
    ++ "\"remaining_days\":2\x7d"

end KitchenFlow.Example
