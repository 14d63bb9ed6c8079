import KitchenFlow.Text.Case
import KitchenFlow.Text.Split
import KitchenFlow.Text.Token

/-!
# Media types

A media type says what a body is: a type, a subtype that may end in a suffix behind a plus sign, and
parameters. Case does not matter.

    type "/" subtype ("+" suffix)? (";" " "* name "=" value)*

A value is a token or stands in quotes. A semicolon at the end is allowed.
-/

namespace KitchenFlow

/-- What of a media type tells the kind of a body. -/
structure MediaType where
  subtype : String
  suffix : Option String
deriving DecidableEq, Repr

namespace MediaType

/-- Where a reader of parameters is. -/
inductive Spot where
  | start
  | name
  | valueStart
  | value
  | quoted
  | afterQuoted
deriving DecidableEq, Repr

/-- Where a reader of parameters gets by a character. -/
def Spot.next? : Spot → Char → Option Spot
  | .start, c => if c = ' ' then some .start else if Text.isTokenChar c then some .name else none
  | .name, c =>
    if c = '=' then some .valueStart else if Text.isTokenChar c then some .name else none
  | .valueStart, c =>
    if c = '"' then some .quoted else if Text.isTokenChar c then some .value else none
  | .value, c => if c = ';' then some .start else if Text.isTokenChar c then some .value else none
  | .quoted, c =>
    if c = '"' then some .afterQuoted else if Text.isHeaderChar c then some .quoted else none
  | .afterQuoted, c => if c = ';' then some .start else none

/-- Whether parameters may end here. -/
def Spot.isEnd : Spot → Bool
  | .name | .quoted => false
  | _ => true

/-- Whether a text is a list of parameters. -/
def areParameters (s : String) : Bool := (s.toList.foldlM Spot.next? .start).any Spot.isEnd

/-- The subtype and the suffix in what stands behind the slash. -/
def ofSubtype (s : String) : MediaType :=
  match Text.cutLast? '+' s with
  | some (subtype, suffix) => if subtype == "" then ⟨s, none⟩ else ⟨subtype, some suffix⟩
  | none => ⟨s, none⟩

/-- Reads a media type. -/
def parse? (s : String) : Option MediaType := do
  let (type, rest) ← Text.cutFirst? '/' (Text.lower s)
  let (subtype, parameters) := (Text.cutFirst? ';' rest).getD (rest, "")
  if Text.isToken type && Text.isToken subtype && areParameters parameters then
    some (ofSubtype subtype)
  else none

/-- Whether a body of this type is JSON. -/
def isJson (m : MediaType) : Bool := m.subtype == "json" || m.suffix == some "json"

example : (parse? "application/json; charset=utf-8").any isJson := by decide +kernel
example : (parse? "application/problem+json").any isJson := by decide +kernel
example : parse? "application/json ;a=b" = none := by decide +kernel
example : parse? "json" = none := by decide +kernel

end MediaType
end KitchenFlow
