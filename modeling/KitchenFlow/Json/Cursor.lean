import KitchenFlow.Json.Document
import KitchenFlow.Number.Numeral

/-!
# Scanning JSON scalars

A cursor is what is left of a text together with the place reached. The scanners of this module
read one scalar each and hand back the cursor behind it. After a fault that cannot be got over the
cursor handed back is of no use, as nobody reads on.

Places count bytes. A fault is placed either where the cursor stands or one byte further on, when
the byte at the cursor has been looked at but not taken.

A text may have been made from bytes of which some belong to no character. They stand in it as
characters that are nothing but part of a string, and a string that has one in it can be skipped but
not read (`Strays`).

Decimal literals are not rounded once: the digits are taken as an integer of at most 64 bits, later
ones being dropped, this is rounded to binary64, and the result is scaled by a power of ten.
-/

namespace KitchenFlow

/-- Where the bytes stand that belong to no character. -/
class Strays where
  places : List Position

/-- In a text there are none. -/
instance : Strays := ⟨[]⟩

/-- What is left of a text, and the place reached in it. -/
structure Cursor where
  rest : List Char
  position : Position

namespace Cursor

/-- The beginning of a text. -/
def ofText (s : String) : Cursor := ⟨s.toList, ⟨1, 0⟩⟩

/-- The place behind a character. -/
def after (p : Position) (c : Char) : Position :=
  if c = '\n' then ⟨p.line + 1, 0⟩ else ⟨p.line, p.column + c.utf8Size⟩

/-- The cursor one character further on. -/
def next (c : Cursor) : Cursor :=
  match c.rest with
  | [] => c
  | ch :: rest => ⟨rest, after c.position ch⟩

/-- The place one byte further on. -/
def peeked (c : Cursor) : Position :=
  match c.rest with
  | [] => c.position
  | '\n' :: _ => ⟨c.position.line + 1, 0⟩
  | _ :: _ => ⟨c.position.line, c.position.column + 1⟩

/-- A fault at the place reached. -/
def fault (c : Cursor) (cause : SyntaxCause) : Fault := ⟨cause, c.position⟩

/-- A fault in the byte that comes next. -/
def peekFault (c : Cursor) (cause : SyntaxCause) : Fault := ⟨cause, c.peeked⟩

/-- Whether a character is one of the four blanks of JSON. -/
def isBlank (ch : Char) : Bool := ch == ' ' || ch == '\n' || ch == '\t' || ch == '\r'

/-- Moves over the characters at the front that satisfy `p`. -/
def skipWhile (p : Char → Bool) : List Char → Position → Cursor
  | [], pos => ⟨[], pos⟩
  | ch :: rest, pos => if p ch then skipWhile p rest (after pos ch) else ⟨ch :: rest, pos⟩

/-- Moves over blanks. -/
def skipBlanks (c : Cursor) : Cursor := skipWhile isBlank c.rest c.position

/-! ### Words -/

/-- Reads the rest of a word. -/
def word : List Char → Cursor → Except Fault Unit × Cursor
  | [], c => (.ok (), c)
  | w :: ws, c =>
    match c.rest with
    | [] => (.error (c.fault .endInValue), c)
    | ch :: _ =>
      if ch = w then word ws c.next else (.error (c.next.fault .expectedIdent), c.next)

/-! ### Strings -/

/-- The value of a hexadecimal digit. -/
def hexValue? (ch : Char) : Option Nat :=
  let n := ch.toNat
  if '0'.toNat ≤ n ∧ n ≤ '9'.toNat then some (n - '0'.toNat)
  else if 'a'.toNat ≤ n ∧ n ≤ 'f'.toNat then some (n - 'a'.toNat + 10)
  else if 'A'.toNat ≤ n ∧ n ≤ 'F'.toNat then some (n - 'A'.toNat + 10)
  else none

/-- The place `count` bytes further on, within a character if need be. -/
def bytesFurther : Nat → List Char → Position → Position
  | 0, _, p => p
  | _, [], p => p
  | n + 1, ch :: rest, p =>
    if ch.utf8Size ≤ n + 1 then bytesFurther (n + 1 - ch.utf8Size) rest (after p ch)
    else ⟨p.line, p.column + (n + 1)⟩
termination_by _ rest => rest.length

/-- The number of bytes of some characters. -/
def byteCount (cs : List Char) : Nat := cs.foldl (fun n c => n + c.utf8Size) 0

/-- Reads the four digits of a hexadecimal escape. -/
def hexEscape (c : Cursor) : Except Fault Nat × Cursor :=
  if byteCount (c.rest.take 4) < 4 then
    let stop := skipWhile (fun _ => true) c.rest c.position
    (.error (stop.fault .endInString), stop)
  else
    match c.rest with
    | a :: b :: d :: e :: rest =>
      match hexValue? a, hexValue? b, hexValue? d, hexValue? e with
      | some a, some b, some d, some e =>
        (.ok (((a * 16 + b) * 16 + d) * 16 + e),
          ⟨rest, ⟨c.position.line, c.position.column + 4⟩⟩)
      | _, _, _, _ => (.error ⟨.invalidEscape, bytesFurther 4 c.rest c.position⟩, c)
    | _ => (.error ⟨.invalidEscape, bytesFurther 4 c.rest c.position⟩, c)

/-- Whether a code unit opens a pair of surrogates. -/
def isLeading (n : Nat) : Bool := 0xD800 ≤ n && n ≤ 0xDBFF

/-- Whether a code unit closes a pair of surrogates. -/
def isTrailing (n : Nat) : Bool := 0xDC00 ≤ n && n ≤ 0xDFFF

/-- Reads the character of a `\u` escape, whose digits come next; a leading surrogate takes a
second escape to complete it. -/
def unicodeEscape (c : Cursor) : Except Fault Char × Cursor :=
  match hexEscape c with
  | (.error f, c) => (.error f, c)
  | (.ok n, c) =>
    if isTrailing n then (.error (c.fault .loneSurrogate), c)
    else if isLeading n then
      match c.rest with
      | [] => (.error (c.fault .endInString), c)
      | '\\' :: _ =>
        let c := c.next
        match c.rest with
        | [] => (.error (c.fault .endInString), c)
        | 'u' :: _ =>
          match hexEscape c.next with
          | (.error f, c) => (.error f, c)
          | (.ok m, c) =>
            if isTrailing m then
              (.ok (Char.ofNat ((n - 0xD800) * 0x400 + (m - 0xDC00) + 0x10000)), c)
            else (.error (c.fault .loneSurrogate), c)
        | _ => (.error (c.next.fault .endOfHexEscape), c.next)
      | _ => (.error (c.next.fault .endOfHexEscape), c.next)
    else (.ok (Char.ofNat n), c)

/-- The character that a one-letter escape stands for. -/
def plainEscape? : Char → Option Char
  | '"' => some '"'
  | '\\' => some '\\'
  | '/' => some '/'
  | 'b' => some (Char.ofNat 0x08)
  | 'f' => some (Char.ofNat 0x0C)
  | 'n' => some '\n'
  | 'r' => some '\r'
  | 't' => some '\t'
  | _ => none

/-- Reads a string after its opening quote; `acc` holds what was read before, last character
first. -/
def stringValue : Nat → Cursor → List Char → Except Fault String × Cursor
  | 0, c, _ => (.error (c.fault .endInString), c)
  | fuel + 1, c, acc =>
    match c.rest with
    | [] => (.error (c.fault .endInString), c)
    | '"' :: _ => (.ok (String.ofList acc.reverse), c.next)
    | '\\' :: _ =>
      let c := c.next
      match c.rest with
      | [] => (.error (c.fault .endInString), c)
      | 'u' :: _ =>
        match unicodeEscape c.next with
        | (.error f, c) => (.error f, c)
        | (.ok ch, c) => stringValue fuel c (ch :: acc)
      | e :: _ =>
        match plainEscape? e with
        | some ch => stringValue fuel c.next (ch :: acc)
        | none => (.error (c.next.fault .invalidEscape), c.next)
    | ch :: _ =>
      if ch.toNat < 0x20 then (.error (c.next.fault .controlCharacter), c.next)
      else stringValue fuel c.next (ch :: acc)

/-- Skips a string after its opening quote. Escapes have to be well formed, but need not stand for
a character. -/
def stringSkip : Nat → Cursor → Except Fault Unit × Cursor
  | 0, c => (.error (c.fault .endInString), c)
  | fuel + 1, c =>
    match c.rest with
    | [] => (.error (c.fault .endInString), c)
    | '"' :: _ => (.ok (), c.next)
    | '\\' :: _ =>
      let c := c.next
      match c.rest with
      | [] => (.error (c.fault .endInString), c)
      | 'u' :: _ =>
        match hexEscape c.next with
        | (.error f, c) => (.error f, c)
        | (.ok _, c) => stringSkip fuel c
      | e :: _ =>
        if (plainEscape? e).isSome then stringSkip fuel c.next
        else (.error (c.next.fault .invalidEscape), c.next)
    | ch :: _ =>
      if ch.toNat < 0x20 then (.error (c.next.fault .controlCharacter), c.next)
      else stringSkip fuel c.next

/-- Whether a byte that belongs to no character stands between two cursors on a line. -/
def strayUpTo [Strays] (c stop : Cursor) : Bool :=
  Strays.places.any fun p =>
    p.line = c.position.line && c.position.column ≤ p.column && p.column < stop.position.column

/-- Reads a string whose opening quote comes next. -/
def string [Strays] (c : Cursor) : Scalar String × Cursor :=
  let fuel := c.rest.length + 1
  let (value, _) := stringValue fuel c.next []
  let (skipped, stop) := stringSkip fuel c.next
  let value := if c.strayUpTo stop then value >>= fun _ => .error (stop.fault .strayByte) else value
  (⟨value, skipped⟩, stop)

/-! ### Numbers -/

/-- The largest integer that the digits of a number are collected in. -/
def digitsLimit : Nat := Nat.pow 2 64 - 1

/-- The limit of an exponent that is written out. -/
def exponentLimit : Nat := Nat.pow 2 31 - 1

/-- The binary64 number nearest to a power of ten. -/
def power (n : Nat) : Binary64 := Binary64.ofRatio false (Nat.pow 10 n) 1

/-- A collected integer scaled by a power of ten in binary64, or `none` if that is too large.
Divisors beyond the range are applied in two steps. -/
def scale? (digits : Nat) (exponent : Int) : Option Binary64 :=
  let f := Binary64.ofInt digits
  if 308 < exponent then if digits = 0 then some f else none
  else if 0 ≤ exponent then
    match f.mul (power exponent.toNat) with
    | .finite s u => some (.finite s u)
    | _ => none
  else if -308 ≤ exponent then some (f.divFinite (power (-exponent).toNat))
  else
    let g := f.divFinite (power 308)
    if -616 ≤ exponent then some (g.divFinite (power (-exponent - 308).toNat))
    else some .zero

/-- Collects digits while they fit; once one does not, no further one is taken. -/
def collect (start : Nat) (ds : List Char) : Nat × Nat :=
  match ds with
  | [] => (start, 0)
  | d :: rest =>
    let n := 10 * start + Numeral.digitValue d
    if digitsLimit < n then (start, 0)
    else
      let (m, taken) := collect n rest
      (m, taken + 1)

/-- Where, among the digits of an exponent, it exceeds its limit. -/
def exponentOverflow? (ds : List Char) : Option Nat :=
  go 0 0 ds
where
  go (taken n : Nat) : List Char → Option Nat
    | [] => none
    | d :: rest =>
      let m := 10 * n + Numeral.digitValue d
      if exponentLimit < m then some (taken + 1) else go (taken + 1) m rest

/-- The parts of a number: digits before the point, digits after it, and the exponent. -/
structure NumberParts where
  whole : List Char
  fraction : Option (List Char)
  exponent : Option (Bool × List Char)
  /-- Where the digits of the exponent begin. -/
  exponentStart : Position

/-- The value of a number with a sign, which ends at a place. -/
def numberValue (negative : Bool) (p : NumberParts) (stop : Position) :
    Except Fault JsonNumber :=
  let (whole, taken) := collect 0 p.whole
  if taken = p.whole.length ∧ p.fraction.isNone ∧ p.exponent.isNone then
    if !negative then .ok (.int whole)
    else if whole = 0 ∨ Nat.pow 2 63 < whole then .ok (.float (Binary64.ofInt whole).neg)
    else .ok (.int (-(whole : Int)))
  else
    let (digits, places) := match p.fraction with
      | none => (whole, 0)
      | some ds => collect whole ds
    let shift : Int := (p.whole.length - taken : Nat) - (places : Int)
    let signed (x : Binary64) : JsonNumber := .float (if negative then x.neg else x)
    let finish (e : Int) : Except Fault JsonNumber :=
      match scale? digits e with
      | some x => .ok (signed x)
      | none => .error ⟨.numberOutOfRange, stop⟩
    match p.exponent with
    | none => finish shift
    | some (minus, ds) =>
      match exponentOverflow? ds with
      | some count =>
        if digits ≠ 0 ∧ !minus then
          .error ⟨.numberOutOfRange,
            ⟨p.exponentStart.line, p.exponentStart.column + count⟩⟩
        else .ok (signed .zero)
      | none =>
        let e : Int := Numeral.value ds
        finish (shift + if minus then -e else e)

/-- The digits that come next, and the cursor behind them. -/
def digits (c : Cursor) : List Char × Cursor :=
  (c.rest.takeWhile Numeral.isDigit, skipWhile Numeral.isDigit c.rest c.position)

/-- Reads the digits before the point. A zero stands alone. -/
def wholePart (c : Cursor) : Except (Scalar JsonNumber) (List Char) × Cursor :=
  match c.rest with
  | [] => (.error ⟨.error (c.fault .endInValue), .error (c.fault .invalidNumber)⟩, c)
  | first :: _ =>
    if !Numeral.isDigit first then (.error (.bad (c.next.fault .invalidNumber)), c)
    else if first = '0' then
      if c.next.rest.head?.any Numeral.isDigit then
        (.error (.bad (c.next.peekFault .invalidNumber)), c.next)
      else (.ok ['0'], c.next)
    else (.ok c.digits.1, c.digits.2)

/-- Reads a point and the digits after it, if there is a point. -/
def fractionPart (c : Cursor) : Except (Scalar JsonNumber) (Option (List Char)) × Cursor :=
  match c.rest with
  | '.' :: _ =>
    match c.next.digits with
    | ([], c) =>
      let value := if c.rest.isEmpty then SyntaxCause.endInValue else .invalidNumber
      (.error ⟨.error (c.peekFault value), .error (c.peekFault .invalidNumber)⟩, c)
    | (ds, c) => (.ok (some ds), c)
  | _ => (.ok none, c)

/-- Reads the sign of an exponent, if it has one, and says whether it is a minus. -/
def exponentSign (c : Cursor) : Bool × Cursor :=
  match c.rest with
  | '-' :: _ => (true, c.next)
  | '+' :: _ => (false, c.next)
  | _ => (false, c)

/-- Reads an exponent, if there is one. With it comes the place where its digits begin. -/
def exponentPart (c : Cursor) :
    Except (Scalar JsonNumber) (Option (Bool × List Char) × Position) × Cursor :=
  match c.rest with
  | [] => (.ok (none, c.position), c)
  | e :: _ =>
    if e = 'e' ∨ e = 'E' then
      let (minus, c) := c.next.exponentSign
      match c.digits with
      | ([], _) =>
        match c.rest with
        | [] => (.error ⟨.error (c.fault .endInValue), .error (c.fault .invalidNumber)⟩, c)
        | _ => (.error (.bad (c.next.fault .invalidNumber)), c)
      | (ds, stop) => (.ok (some (minus, ds), c.position), stop)
    else (.ok (none, c.position), c)

/-- Reads a number after its sign. -/
def number (negative : Bool) (c : Cursor) : Scalar JsonNumber × Cursor :=
  match c.wholePart with
  | (.error s, c) => (s, c)
  | (.ok whole, c) =>
    match c.fractionPart with
    | (.error s, c) => (s, c)
    | (.ok fraction, c) =>
      match c.exponentPart with
      | (.error s, c) => (s, c)
      | (.ok (exponent, start), c) =>
        (⟨numberValue negative ⟨whole, fraction, exponent, start⟩ c.position, .ok ()⟩, c)

end Cursor
end KitchenFlow
