import KitchenFlow.Json.Cursor
import KitchenFlow.Text.Bytes

/-!
# Reading JSON texts

`Document.ofText` reads a text as a document. It never fails: a fault of the text becomes part of
the document, at the place where a reader meets it. Lists and objects are read down to a depth of
127; what is nested deeper can be skipped but not read. `Document.ofBytes` reads bytes in the same
way, whether they are a text or not.
-/

namespace KitchenFlow.Document

section

variable [Strays]

/-- How deep lists and objects may be nested for a reader. -/
def depthLimit : Nat := 128

/-- The fault of a list or object with `deeper` levels left at its bracket. -/
def depthFault (deeper : Nat) (c : Cursor) : Option Fault :=
  if deeper ≤ 1 then some (c.peekFault .tooDeep) else none

/-- Where a reader is who gives up on an object after a key: behind the blanks that follow, and
behind the bracket if the object ends there. -/
def placeAfterKey (c : Cursor) : Position :=
  let c := c.skipBlanks
  match c.rest with
  | '\x7d' :: _ => c.next.position
  | _ => c.position

/-- The extent of a scalar between two cursors. -/
def extent (start stop : Cursor) : Extent := ⟨some start.peeked, some stop.position⟩

mutual

/-- Reads the value that comes next, with so many levels of nesting left. -/
def readValue : Nat → Nat → Cursor → Document × Cursor
  | 0, _, c => (.broken (c.fault .endInValue), c)
  | fuel + 1, deeper, c =>
    let c := c.skipBlanks
    match c.rest with
    | [] => (.broken (c.peekFault .endInValue), c)
    | 'n' :: _ => readWord ['u', 'l', 'l'] .null c
    | 't' :: _ => readWord ['r', 'u', 'e'] (.bool true) c
    | 'f' :: _ => readWord ['a', 'l', 's', 'e'] (.bool false) c
    | '-' :: _ =>
      let (n, stop) := c.next.number true
      (.number n (extent c stop), stop)
    | '"' :: _ =>
      let (s, stop) := c.string
      (.string s (extent c stop), stop)
    | '[' :: _ =>
      let (items, close, stop) := readItems fuel (deeper - 1) true c.next
      (.array (some c.position) (depthFault deeper c) items close, stop)
    | '\x7b' :: _ =>
      let (entries, close, stop) := readEntries fuel (deeper - 1) true c.next
      (.object (some c.position) (depthFault deeper c) entries close, stop)
    | ch :: _ =>
      if Numeral.isDigit ch then
        let (n, stop) := c.number false
        (.number n (extent c stop), stop)
      else (.broken (c.peekFault .expectedValue), c)
where
  /-- Reads a word whose first letter comes next. -/
  readWord (letters : List Char) (make : Extent → Document) (c : Cursor) : Document × Cursor :=
    match Cursor.word letters c.next with
    | (.ok (), stop) => (make (extent c stop), stop)
    | (.error f, stop) => (.broken f, stop)

/-- Reads the elements of a list up to its end. -/
def readItems : Nat → Nat → Bool → Cursor → List (Place × Document) × Close × Cursor
  | 0, _, _, c => ([], .faulty (c.fault .endInList) (c.fault .endInList) (c.fault .endInList), c)
  | fuel + 1, deeper, first, c =>
    let c := c.skipBlanks
    match c.rest with
    | [] =>
      let f := c.peekFault .endInList
      ([], .faulty f f f, c)
    | ']' :: _ => ([], .closed (some c.next.position), c.next)
    | ch :: _ =>
      if first then readItem fuel deeper c
      else if ch = ',' then
        let c := c.next.skipBlanks
        match c.rest with
        | [] =>
          let f := c.peekFault .endInValue
          ([], .faulty f (c.peekFault .trailingCharacters) f, c)
        | ']' :: _ =>
          let f := c.peekFault .trailingComma
          ([], .faulty f f (c.peekFault .expectedValue), c)
        | _ => readItem fuel deeper c
      else
        let f := c.peekFault .expectedListCommaOrEnd
        ([], .faulty f (c.peekFault .trailingCharacters) f, c)

/-- Reads an element that comes next, and the elements after it. -/
def readItem : Nat → Nat → Cursor → List (Place × Document) × Close × Cursor
  | 0, _, c => ([], .faulty (c.fault .endInList) (c.fault .endInList) (c.fault .endInList), c)
  | fuel + 1, deeper, c =>
    let (v, stop) := readValue fuel deeper c
    let (items, close, last) := readItems fuel deeper false stop
    ((some c.peeked, v) :: items, close, last)

/-- Reads the entries of an object up to its end. -/
def readEntries : Nat → Nat → Bool → Cursor → List (Entry Document) × Close × Cursor
  | 0, _, _, c =>
    ([], .faulty (c.fault .endInObject) (c.fault .endInObject) (c.fault .endInObject), c)
  | fuel + 1, deeper, first, c =>
    let c := c.skipBlanks
    match c.rest with
    | [] =>
      let f := c.peekFault .endInObject
      ([], .faulty f f f, c)
    | '\x7d' :: _ => ([], .closed (some c.next.position), c.next)
    | ch :: _ =>
      if first then
        if ch = '"' then readEntry fuel deeper c
        else
          let f := c.peekFault .keyNotString
          ([], .faulty f f f, c)
      else if ch = ',' then
        let c := c.next.skipBlanks
        match c.rest with
        | [] =>
          let f := c.peekFault .endInValue
          ([], .faulty f f (c.peekFault .endInObject), c)
        | '"' :: _ => readEntry fuel deeper c
        | '\x7d' :: _ =>
          let f := c.peekFault .trailingComma
          ([], .faulty f f (c.peekFault .keyNotString), c)
        | _ =>
          let f := c.peekFault .keyNotString
          ([], .faulty f f f, c)
      else
        let f := c.peekFault .expectedObjectCommaOrEnd
        ([], .faulty f f f, c)

/-- Reads an entry whose key comes next, and the entries after it. -/
def readEntry : Nat → Nat → Cursor → List (Entry Document) × Close × Cursor
  | 0, _, c =>
    ([], .faulty (c.fault .endInObject) (c.fault .endInObject) (c.fault .endInObject), c)
  | fuel + 1, deeper, c =>
    let (key, c) := c.string
    let place := some (placeAfterKey c)
    let c := c.skipBlanks
    match c.rest with
    | ':' :: _ =>
      let (v, stop) := readValue fuel deeper c.next
      let (entries, close, last) := readEntries fuel deeper false stop
      (⟨key, place, v⟩ :: entries, close, last)
    | rest =>
      let cause := if rest.isEmpty then SyntaxCause.endInObject else .expectedColon
      let f := c.peekFault cause
      ([⟨key, place, .broken f⟩], .faulty f f f, c)

end

/-- Reads all that is left as a document, and finds what stands behind the value, if anything
does. -/
def ofCursor (c : Cursor) : Document × Option Fault :=
  let (v, stop) := readValue (4 * c.rest.length + 4) depthLimit c
  let stop := stop.skipBlanks
  (v, if stop.rest.isEmpty then none else some (stop.peekFault .trailingCharacters))

end

/-- Reads a text as a document. -/
def ofText (s : String) : Document × Option Fault := ofCursor (Cursor.ofText s)

/-- What stands for a byte that belongs to no character: one byte as well, and like it no part of
anything but a string. -/
def standIn : Char := Char.ofNat 0x7F

/-- The places of the bytes that belong to no character. -/
def strayPlaces : Position → List (Option Char) → List Position
  | _, [] => []
  | p, some ch :: rest => strayPlaces (Cursor.after p ch) rest
  | p, none :: rest => p :: strayPlaces (Cursor.after p standIn) rest

/-- Reads characters, among which are bytes that belong to none, as a document. -/
def ofCharacters (cs : List (Option Char)) : Document × Option Fault :=
  let start : Position := ⟨1, 0⟩
  letI : Strays := ⟨strayPlaces start cs⟩
  ofCursor ⟨cs.map (·.getD standIn), start⟩

/-- Reads bytes as a document. -/
def ofBytes (bytes : List UInt8) : Document × Option Fault := ofCharacters (Text.characters 0 bytes)

end KitchenFlow.Document
