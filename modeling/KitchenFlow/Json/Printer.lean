import KitchenFlow.Json.Basic
import KitchenFlow.Number.Shortest

/-!
# Writing JSON

Two forms are written. The compact form has no blanks and lists the keys of an object in ascending
order, so that equal values have equal text. The indented form puts every element and field on a
line of its own, two blanks deeper than its surroundings, and keeps the fields in their order.

In both, `"` and `\` and the control characters below `0x20` are escaped and nothing else is.
-/

namespace KitchenFlow

namespace Json

/-- A digit of a hexadecimal number, with small letters. -/
def hexDigit (n : Nat) : Char := Nat.digitChar (n % 16)

/-- One character inside a quoted string. -/
def escapeChar (c : Char) : List Char :=
  if c = '"' then ['\\', '"']
  else if c = '\\' then ['\\', '\\']
  else if c.toNat = 0x08 then ['\\', 'b']
  else if c.toNat = 0x0C then ['\\', 'f']
  else if c = '\n' then ['\\', 'n']
  else if c = '\r' then ['\\', 'r']
  else if c = '\t' then ['\\', 't']
  else if c.toNat < 0x20 then
    ['\\', 'u', '0', '0', hexDigit (c.toNat / 16), hexDigit c.toNat]
  else [c]

/-- A string in quotes. -/
def quote (s : String) : String :=
  String.ofList ('"' :: s.toList.flatMap escapeChar ++ ['"'])

end Json

/-- The text of a number: an integer as it is, any other by the shortest digits in its precision. -/
def JsonNumber.render : JsonNumber → String
  | .int n => toString n
  | .float x => Layout.json.render x
  | .single x => Layout.jsonSingle.render x

namespace Json

mutual

/-- The text of a value without blanks, fields in their order. -/
def render : Json → String
  | .null => "null"
  | .bool b => if b then "true" else "false"
  | .number n => n.render
  | .string s => quote s
  | .array items => "[" ++ renderItems items ++ "]"
  | .object fields => "\x7b" ++ renderFields fields ++ "\x7d"

/-- Elements with commas between them. -/
def renderItems : List Json → String
  | [] => ""
  | [v] => render v
  | v :: w :: rest => render v ++ "," ++ renderItems (w :: rest)

/-- Fields with commas between them. -/
def renderFields : List (String × Json) → String
  | [] => ""
  | [(k, v)] => quote k ++ ":" ++ render v
  | (k, v) :: f :: rest => quote k ++ ":" ++ render v ++ "," ++ renderFields (f :: rest)

end

/-- The compact text of a value, keys in ascending order. -/
def compact (v : Json) : String := v.sorted.render

/-- The beginning of a line at a depth. -/
def indent (depth : Nat) : String := String.ofList ('\n' :: List.replicate (2 * depth) ' ')

mutual

/-- The indented text of a value that stands at a depth. -/
def prettyAt (depth : Nat) : Json → String
  | .array [] => "[]"
  | .object [] => "\x7b\x7d"
  | .array items => "[" ++ prettyItems (depth + 1) items ++ indent depth ++ "]"
  | .object fields => "\x7b" ++ prettyFields (depth + 1) fields ++ indent depth ++ "\x7d"
  | .null => "null"
  | .bool b => if b then "true" else "false"
  | .number n => n.render
  | .string s => quote s

/-- Elements on lines of their own. -/
def prettyItems (depth : Nat) : List Json → String
  | [] => ""
  | [v] => indent depth ++ prettyAt depth v
  | v :: w :: rest => indent depth ++ prettyAt depth v ++ "," ++ prettyItems depth (w :: rest)

/-- Fields on lines of their own. -/
def prettyFields (depth : Nat) : List (String × Json) → String
  | [] => ""
  | [(k, v)] => indent depth ++ quote k ++ ": " ++ prettyAt depth v
  | (k, v) :: f :: rest =>
    indent depth ++ quote k ++ ": " ++ prettyAt depth v ++ "," ++ prettyFields depth (f :: rest)

end

/-- The indented text of a value. -/
def pretty (v : Json) : String := prettyAt 0 v

end Json
end KitchenFlow
