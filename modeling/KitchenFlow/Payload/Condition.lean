import KitchenFlow.Config.Operator
import KitchenFlow.Json.Printer
import KitchenFlow.Text.Blank
import KitchenFlow.Text.Case

/-!
# Conditions

A condition compares a value of the payload with a text from the configuration. How depends on the
kind of the value: numbers are compared by value, texts by value if both are numerals and otherwise
character by character, truth values and everything else only for equality. A missing value and
`null` satisfy no condition.

Equality of texts is always literal: `"1.0"` and `"1"` are neither equal nor one less than the
other.
-/

namespace KitchenFlow.Condition

/-- The truth value that a text names. -/
def truthOf? (s : String) : Option Bool :=
  let t := Text.lower s
  if t = "true" then some true else if t = "false" then some false else none

/-- Whether an operator holds of an order; without an order none does. -/
def holdsOf (op : Operator) (order : Option Ordering) : Bool := order.any op.holds

/-- What `==` and `!=` say when equality is known; no other operator holds. -/
def equality (op : Operator) (equal : Bool) : Bool :=
  match op with
  | .eq => equal
  | .ne => !equal
  | _ => false

/-- The order of two texts: by value if both are numerals, else by their characters. -/
def textOrder (s t : String) : Option Ordering :=
  match Binary64.ofText? (Text.trim s), Binary64.ofText? t with
  | some a, some b => Binary64.compare? a b
  | _, _ => some (compare s t)

/-- Whether a condition holds of a value and the text it is compared with. -/
def evaluate (op : Operator) (field : Option Json) (checkValue : String) : Bool :=
  let target := Text.trim checkValue
  match field with
  | none => false
  | some .null => false
  | some (.number n) =>
    match Binary64.ofText? target with
    | some b => holdsOf op (Binary64.compare? n.toBinary64 b)
    | none => op == .ne
  | some (.string s) =>
    match op with
    | .eq => s == target
    | .ne => s != target
    | _ => holdsOf op (textOrder s target)
  | some (.bool b) =>
    match truthOf? target with
    | some t => equality op (b == t)
    | none => op == .ne
  | some v => equality op (v.compact == target)

end KitchenFlow.Condition
