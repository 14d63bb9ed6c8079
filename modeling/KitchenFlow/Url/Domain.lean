import KitchenFlow.Text.Split
import KitchenFlow.Url.Basic
import KitchenFlow.Url.Composition
import KitchenFlow.Url.DomainTable
import KitchenFlow.Url.Punycode

/-!
# Domain names

A domain name may be written in any script. It is brought into its common form, in which capitals
are small and many signs are replaced by plain text, and cut into labels at its points. A name is
rejected if it holds a character that no name may hold, if a label begins with a combining mark or
has a joiner where nothing joins, if an encoded label does not decode to a label in its common form,
or if labels mix scripts of different directions in a way that could not be read back.

Only what decides acceptance is kept of a label that is not ASCII, so the common form is exact for
its ASCII part only.
-/

namespace KitchenFlow.Url.Domain

open DomainTable

/-- The ASCII characters that no domain may hold. -/
def isDenied (c : Char) : Bool :=
  c.toNat ≤ 0x20 || c.toNat == 0x7F || "#/:<>?@[\\]^|%".toList.contains c

/-- Whether a character is ASCII. -/
def isAscii (c : Char) : Bool := c.toNat < 0x80

/-- The common form of a character: what stands for it, or nothing if it is not allowed. -/
def mapChar? (c : Char) : Option (List Char) :=
  let n := c.toNat
  if isAscii c then some [c.toLower]
  else if within disallowed n then none
  else if within dropped n then some []
  else
    match asciiRuns.find? fun r => r.1 ≤ n && n ≤ r.2.1 with
    | some (first, _, target) => some [Char.ofNat (target + (n - first))]
    | none =>
      match asciiTexts.lookup n with
      | some s => some s.toList
      | none => some [c]

/-- Whether a character stands for itself in the common form. -/
def isPlain (c : Char) : Bool :=
  mapChar? c == some [c] && !within replaced c.toNat &&
    !replacedByTurns.any fun r => r.1 ≤ c.toNat && c.toNat ≤ r.2 && (c.toNat - r.1) % 2 == 0

/-- The common form of a name. -/
def mapAll? (cs : List Char) : Option (List Char) := (cs.mapM mapChar?).map List.flatten

/-! ### Directions -/

/-- The direction of a character, as far as it matters for mixing scripts. -/
inductive Direction where
  | left
  | right
  | arabicNumber
  | europeanNumber
  | nonSpacing
  | neutral
deriving DecidableEq, Repr

/-- The direction of a character. -/
def direction (c : Char) : Direction :=
  let n := c.toNat
  if isAscii c then
    if c.isAlpha then .left else if Numeral.isDigit c then .europeanNumber else .neutral
  else if within rightToLeft n then .right
  else if within DomainTable.arabicNumber n then .arabicNumber
  else if within DomainTable.europeanNumber n then .europeanNumber
  else if within DomainTable.nonSpacing n then .nonSpacing
  else if within DomainTable.neutral n then .neutral
  else .left

/-- Whether a label makes its name one with text from right to left. -/
def isRightToLeft (label : List Char) : Bool :=
  label.any fun c => direction c == .right || direction c == .arabicNumber

/-- Whether a label may stand in a name with text from right to left. -/
def directionsFit (label : List Char) : Bool :=
  let ds := label.map direction
  let last := (ds.reverse.dropWhile (· == .nonSpacing)).head?
  match ds.head? with
  | none => true
  | some .left =>
    ds.all (fun d => d != .right && d != .arabicNumber) &&
      (last == some .left || last == some .europeanNumber)
  | some .right =>
    ds.all (· != .left) &&
      (last == some .right || last == some .europeanNumber || last == some .arabicNumber) &&
      !(ds.contains .europeanNumber && ds.contains .arabicNumber)
  | some _ => false

/-! ### Labels -/

/-- The beginning of an encoded label. -/
def encodedStart : List Char := ['x', 'n', '-', '-']

/-- Whether the next character in a table comes before all others but those over which others
join. -/
def meets (table : List (Nat × Nat)) (cs : List Char) : Bool :=
  let passed (c : Char) : Bool :=
    within DomainTable.nonSpacing c.toNat || within transparent c.toNat
  (cs.find? fun c => within table c.toNat || !passed c).any fun c => within table c.toNat

/-- Whether a joiner may stand between the characters before it, the last one first, and those
after it. Both joiners may follow a virama. The one that keeps characters apart may also stand where
they would join. -/
def joinerFits (joiner : Char) (before after : List Char) : Bool :=
  before.head?.any (fun b => within virama b.toNat) ||
    joiner.toNat == 0x200C && meets joinsNext before && meets joinsPrevious after

/-- Whether each joiner in a label may stand where it does. -/
def joinersFit (before : List Char) : List Char → Bool
  | [] => true
  | c :: rest =>
    (!(c.toNat == 0x200C || c.toNat == 0x200D) || joinerFits c before rest) &&
      joinersFit (c :: before) rest

/-- Whether a label that is not ASCII is well formed. -/
def isWellFormed (label : List Char) : Bool :=
  match label with
  | [] => false
  | first :: _ =>
    !within combining first.toNat && joinersFit [] label && !label.any isDenied &&
      (Text.stripChars? encodedStart label).isNone

/-- A label with its encoding undone, if it is acceptable. -/
def label? (label : List Char) : Option (List Char) :=
  if label.all isAscii then
    if label.any isDenied then none
    else
      match Text.stripChars? encodedStart label with
      | none => some label
      | some code => do
        let decoded ← Punycode.decode? code
        if decoded.all isPlain ∧ Composition.isComposed decoded ∧ !decoded.all isAscii ∧
            isWellFormed decoded then some decoded
        else none
  else if isWellFormed label then some label
  else none

/-- The common form of a domain name. -/
def normalise (cs : List Char) : Except UrlError (List Char) :=
  match mapAll? cs with
  | none => .error .badDomain
  | some cs =>
    match (Text.splitChars '.' cs).mapM label? with
    | none => .error .badDomain
    | some labels =>
      if labels.any isRightToLeft && !labels.all directionsFit then .error .badDomain
      else .ok cs

end KitchenFlow.Url.Domain
