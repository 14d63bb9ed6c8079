import KitchenFlow.Payload.Wire
import KitchenFlow.Text.Blank
import KitchenFlow.Text.Split

/-!
# Looking things up in a payload

A path is a list of keys with points between them. It is followed from the payload as a whole, then
from its item, then from its related data, and the first of these that leads to a value decides;
if that value is `null`, nothing is found.
-/

namespace KitchenFlow

namespace Json

/-- Follows a list of keys into nested objects. -/
def follow : Json → List String → Option Json
  | v, [] => some v
  | v, key :: rest => (v.get? key).bind (follow · rest)

/-- Follows a path of keys with points between them. -/
def walk (v : Json) (path : String) : Option Json := v.follow (Text.splitAt '.' path)

/-- A value as text for people: strings without quotes, `null` as nothing, all else compact. -/
def display : Json → String
  | .string s => s
  | .null => ""
  | v => v.compact

@[simp] theorem follow_nil (v : Json) : v.follow [] = some v := rfl

theorem follow_cons (v : Json) (key : String) (rest : List String) :
    v.follow (key :: rest) = (v.get? key).bind (follow · rest) := rfl

end Json

namespace Payload

/-- The three places from which a path is followed, in this order: the payload, its item, its
related data. -/
def roots (p : Payload) : List Json := [p.toJson, p.item.toJson, .object p.relatedData]

/-- What a path leads to, if that is not `null`. -/
def lookup (p : Payload) (path : String) : Option Json :=
  let path := Text.trim path
  if path.isEmpty then none
  else (p.roots.findSome? (·.walk path)).filter fun v => !v.isNull

end Payload
end KitchenFlow
