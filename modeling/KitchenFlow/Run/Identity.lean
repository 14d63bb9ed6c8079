import KitchenFlow.Json.Decoder
import KitchenFlow.Text.Hex

/-!
# Run ids

A run is identified by a number of 128 bits. It is written as 32 hexadecimal digits in groups of 8,
4, 4, 4 and 12 with hyphens between them; it is read in this form, without hyphens, in braces, or
after `urn:uuid:`.
-/

namespace KitchenFlow

/-- The id of a run. -/
structure RunId where
  value : Nat
deriving DecidableEq, Repr, Inhabited

/-- Why a text is no run id. Places and groups are counted as in the messages. -/
inductive RunIdError where
  | badCharacter (c : Char) (place : Nat)
  | badLength (found : Nat)
  | badGroupCount (found : Nat)
  | badGroup (group expected found : Nat)
deriving DecidableEq, Repr

/-- The wording of an error. -/
def RunIdError.message : RunIdError → String
  | .badCharacter c place =>
    "invalid character: expected an optional prefix of `urn:uuid:` followed by [0-9a-fA-F-], "
      ++ "found `" ++ String.singleton c ++ "` at " ++ toString place
  | .badLength n => "invalid length: expected length 32 for simple format, found " ++ toString n
  | .badGroupCount n => "invalid group count: expected 5, found " ++ toString n
  | .badGroup group expected found =>
    "invalid group length in group " ++ toString group ++ ": expected " ++ toString expected
      ++ ", found " ++ toString found

namespace RunId

/-- The sizes of the groups of digits. -/
def groups : List Nat := [8, 4, 4, 4, 12]

/-- Cuts a list into groups of given sizes. -/
def cut : List Nat → List Char → List (List Char)
  | [], _ => []
  | n :: rest, cs => cs.take n :: cut rest (cs.drop n)

/-- The hexadecimal digits of a run id. -/
def digits (r : RunId) : List Char :=
  let ds := Nat.toDigits 16 r.value
  List.replicate (32 - ds.length) '0' ++ ds

/-- The text of a run id. -/
def render (r : RunId) : String :=
  Text.join "-" ((cut groups r.digits).map String.ofList)

/-- Whether a character is a hexadecimal digit. -/
def isDigit (c : Char) : Bool :=
  ('0' ≤ c && c ≤ '9') || ('a' ≤ c && c ≤ 'f') || ('A' ≤ c && c ≤ 'F')

/-- The number that digits stand for. -/
def digitValue (c : Char) : Nat :=
  if c ≤ '9' then c.toNat - 0x30 else if c ≤ 'F' then c.toNat - 0x37 else c.toNat - 0x57

/-- Reads 32 digits without hyphens. -/
def simple? (cs : List Char) : Option RunId :=
  if cs.length = 32 ∧ cs.all isDigit then
    some ⟨cs.foldl (fun n c => 16 * n + digitValue c) 0⟩
  else none

/-- Reads groups of digits with hyphens between them. -/
def grouped? (cs : List Char) : Option RunId :=
  let parts := Text.splitChars '-' cs
  if parts.map List.length = groups then simple? parts.flatten else none

/-- What stands between braces. -/
def unbraced? (cs : List Char) : Option (List Char) :=
  match cs with
  | '\x7b' :: rest => if rest.getLast? = some '\x7d' then some rest.dropLast else none
  | _ => none

/-- What introduces a run id as a name. -/
def urn : List Char := "urn:uuid:".toList

/-- The digits and hyphens of a text, the number of characters before them, and whether they stand
alone. -/
def core (cs : List Char) : List Char × Nat × Bool :=
  match unbraced? cs with
  | some inner => (inner, 1, false)
  | none =>
    match Text.stripChars? urn cs with
    | some rest => (rest, urn.length, false)
    | none => (cs, 0, true)

/-- The first character that is neither digit nor hyphen, with the bytes before it. -/
def stray? : Nat → List Char → Option (Char × Nat)
  | _, [] => none
  | n, c :: rest =>
    if isDigit c ∨ c = '-' then stray? (n + 1) rest else some (c, n)

/-- The first group of a wrong size. The last group is the one to blame if the others are right. -/
def badGroup (textLength : Nat) : Nat → List Nat → List Nat → RunIdError
  | i, n :: m :: sizes, found :: founds =>
    if found = n then badGroup textLength (i + 1) (m :: sizes) founds else .badGroup i n found
  | i, sizes, _ => .badGroup i (sizes.headD 0) (textLength - 24)

/-- Why a text is no run id. -/
def fault (cs : List Char) : RunIdError :=
  let (inner, offset, alone) := core cs
  match stray? 0 inner with
  | some (c, n) => .badCharacter c (n + offset + 1)
  | none =>
    let parts := Text.splitChars '-' inner
    if parts.length = 1 ∧ alone then .badLength cs.length
    else if parts.length ≠ 5 then .badGroupCount parts.length
    else badGroup cs.length 0 groups (parts.map List.length)

/-- Reads a run id. -/
def parse (s : String) : Except RunIdError RunId :=
  let cs := s.toList
  let (inner, _, alone) := core cs
  match (if alone then simple? inner else none) <|> grouped? inner with
  | some r => .ok r
  | none => .error (fault cs)

def toJson (r : RunId) : Json := .string r.render

def decoder : Decoder RunId
  | .string s extent => do
    match parse (← Decoder.scalar s) with
    | .ok r => .ok r
    | .error e => .error ⟨.other ("UUID parsing failed: " ++ e.message), extent.stop⟩
  | d => .error (Decoder.wrongType "a UUID string" d)

end RunId
end KitchenFlow
