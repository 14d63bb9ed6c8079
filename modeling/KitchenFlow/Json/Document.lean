import KitchenFlow.Json.Basic

/-!
# JSON documents

A document is a JSON value as it stands in a text: every part knows where it was, and a fault of
the text is kept at the place where a reader going from left to right would meet it. So a consumer
that wants a certain type from a text can report whichever comes first, a value of the wrong type
or a fault of the syntax. A value that never was text is a document too (`ofJson`), without places
and without faults.

A fault inside a part that nobody asks for is milder than one inside a part that is read: an
unpaired surrogate, a byte that is part of no character or a number out of range, say, only matters
to a reader who wants the value.
Hence parts carry two outcomes, one for reading and one for skipping.
-/

namespace KitchenFlow

/-- A place in a text: a line, counted from one, and the number of bytes read on it. -/
structure Position where
  line : Nat
  column : Nat
deriving DecidableEq, Repr, Inhabited

/-- The place of a part, if it comes from a text. -/
abbrev Place := Option Position

/-- What can be wrong with the syntax of a JSON text. -/
inductive SyntaxCause where
  | endInList
  | endInObject
  | endInString
  | endInValue
  | expectedColon
  | expectedListCommaOrEnd
  | expectedObjectCommaOrEnd
  | expectedIdent
  | expectedValue
  | invalidEscape
  | invalidNumber
  | numberOutOfRange
  | controlCharacter
  | keyNotString
  | loneSurrogate
  | trailingComma
  | trailingCharacters
  | endOfHexEscape
  | tooDeep
  | strayByte
deriving DecidableEq, Repr

/-- The wording of a syntax fault. -/
def SyntaxCause.message : SyntaxCause → String
  | .endInList => "EOF while parsing a list"
  | .endInObject => "EOF while parsing an object"
  | .endInString => "EOF while parsing a string"
  | .endInValue => "EOF while parsing a value"
  | .expectedColon => "expected `:`"
  | .expectedListCommaOrEnd => "expected `,` or `]`"
  | .expectedObjectCommaOrEnd => "expected `,` or `\x7d`"
  | .expectedIdent => "expected ident"
  | .expectedValue => "expected value"
  | .invalidEscape => "invalid escape"
  | .invalidNumber => "invalid number"
  | .numberOutOfRange => "number out of range"
  | .controlCharacter => "control character (\\u0000-\\u001F) found while parsing a string"
  | .keyNotString => "key must be a string"
  | .loneSurrogate => "lone leading surrogate in hex escape"
  | .trailingComma => "trailing comma"
  | .trailingCharacters => "trailing characters"
  | .endOfHexEscape => "unexpected end of hex escape"
  | .tooDeep => "recursion limit exceeded"
  | .strayByte => "invalid unicode code point"

/-- A syntax fault and its place. -/
structure Fault where
  cause : SyntaxCause
  position : Position
deriving DecidableEq, Repr

/-- A scalar of a text: what reading it gives, and what skipping it gives. -/
structure Scalar (α : Type) where
  value : Except Fault α
  skipped : Except Fault Unit

/-- A scalar without faults. -/
def Scalar.good (a : α) : Scalar α := ⟨.ok a, .ok ()⟩

/-- A scalar that cannot be got over. -/
def Scalar.bad (f : Fault) : Scalar α := ⟨.error f, .error f⟩

/-- How a list or an object ends. -/
inductive Close where
  /-- Its bracket is closed, just before this place. -/
  | closed (stop : Place)
  /-- It is not closed properly: what a reader meets who asks for one element more, who asks for
  the end, and who skips the whole. -/
  | faulty (more finish skipped : Fault)

/-- An entry of an object: its key, the place a reader has reached once the key and the blanks
after it are read, and its value. -/
structure Entry (δ : Type) where
  key : Scalar String
  afterKey : Place
  value : δ

/-- Where a scalar stands: the place one byte into it, and the place behind it. -/
structure Extent where
  first : Place
  stop : Place

/-- The extent of what never was text. -/
def Extent.nowhere : Extent := ⟨none, none⟩

/-- A JSON value as it stands in a text. -/
inductive Document where
  | null (extent : Extent)
  | bool (b : Bool) (extent : Extent)
  | number (n : Scalar JsonNumber) (extent : Extent)
  | string (s : Scalar String) (extent : Extent)
  /-- The elements come with the place one byte into each of them. -/
  | array (start : Place) (deep : Option Fault) (items : List (Place × Document)) (close : Close)
  | object (start : Place) (deep : Option Fault) (entries : List (Entry Document)) (close : Close)
  /-- No value stands here. -/
  | broken (fault : Fault)

namespace Document

mutual

/-- A value that never was text, as a document. -/
def ofJson : Json → Document
  | .null => .null .nowhere
  | .bool b => .bool b .nowhere
  | .number n => .number (.good n) .nowhere
  | .string s => .string (.good s) .nowhere
  | .array items => .array none none (ofItems items) (.closed none)
  | .object fields => .object none none (ofFields fields) (.closed none)

/-- Elements as parts of a document. -/
def ofItems : List Json → List (Place × Document)
  | [] => []
  | v :: rest => (none, ofJson v) :: ofItems rest

/-- Fields as parts of a document. -/
def ofFields : List (String × Json) → List (Entry Document)
  | [] => []
  | (k, v) :: rest => ⟨.good k, none, ofJson v⟩ :: ofFields rest

end

mutual

/-- Passes over a document, minding its syntax only. -/
def skip : Document → Except Fault Unit
  | .null _ => .ok ()
  | .bool .. => .ok ()
  | .number n _ => n.skipped
  | .string s _ => s.skipped
  | .array _ _ items close => do
    skipItems items
    match close with
    | .closed _ => .ok ()
    | .faulty _ _ f => .error f
  | .object _ _ entries close => do
    skipEntries entries
    match close with
    | .closed _ => .ok ()
    | .faulty _ _ f => .error f
  | .broken f => .error f

/-- Passes over elements. -/
def skipItems : List (Place × Document) → Except Fault Unit
  | [] => .ok ()
  | (_, d) :: rest => do skip d; skipItems rest

/-- Passes over entries. -/
def skipEntries : List (Entry Document) → Except Fault Unit
  | [] => .ok ()
  | ⟨k, _, d⟩ :: rest => do k.skipped; skip d; skipEntries rest

end

mutual

/-- What is not text has nothing to trip over. -/
@[simp] theorem skip_ofJson : ∀ v : Json, skip (ofJson v) = .ok ()
  | .null => by simp [ofJson, skip]
  | .bool _ => by simp [ofJson, skip]
  | .number _ => by simp [ofJson, skip, Scalar.good]
  | .string _ => by simp [ofJson, skip, Scalar.good]
  | .array items => by
    simp only [ofJson, skip, skipItems_ofItems items]; rfl
  | .object fields => by
    simp only [ofJson, skip, skipEntries_ofFields fields]; rfl

theorem skipItems_ofItems : ∀ items : List Json, skipItems (ofItems items) = .ok ()
  | [] => by simp [ofItems, skipItems]
  | v :: rest => by
    simp only [ofItems, skipItems, skip_ofJson v, skipItems_ofItems rest]; rfl

theorem skipEntries_ofFields :
    ∀ fields : List (String × Json), skipEntries (ofFields fields) = .ok ()
  | [] => by simp [ofFields, skipEntries]
  | (k, v) :: rest => by
    simp only [ofFields, skipEntries, Scalar.good, skip_ofJson v, skipEntries_ofFields rest]; rfl

end

end Document
end KitchenFlow
