import KitchenFlow.Time.Instant
import KitchenFlow.Number.Numeral
import KitchenFlow.Text.Blank

/-!
# Timestamps

Instants are written in the profile of ISO 8601 that internet protocols use, in universal time with
a `Z` and as many digits of the fraction as needed out of none, three, six or nine. A year outside
`0000` to `9999` has a sign.

Reading is more liberal: numbers need not be padded, blanks may stand between the parts, the offset
may lack its colon, and `UTC` stands for the offset zero. Parts are read from left to right, and
the first part that is wrong decides the error.
-/

namespace KitchenFlow

/-- Why a text is not a timestamp. -/
inductive TimestampError where
  | outOfRange
  | impossible
  | invalid
  | tooShort
  | tooLong
deriving DecidableEq, Repr

/-- The wording of an error. -/
def TimestampError.message : TimestampError → String
  | .outOfRange => "input is out of range"
  | .impossible => "no possible date and time matching input"
  | .invalid => "input contains invalid characters"
  | .tooShort => "premature end of input"
  | .tooLong => "trailing input"

namespace Timestamp

/-! ### Writing -/

/-- A number with at least `width` digits. -/
def padded (width n : Nat) : List Char :=
  let ds := Nat.toDigits 10 n
  List.replicate (width - ds.length) '0' ++ ds

/-- A year of four digits, or one with a sign and at least four. -/
def year (y : Int) : List Char :=
  if 0 ≤ y ∧ y ≤ 9999 then padded 4 y.toNat
  else (if y < 0 then '-' else '+') :: padded 4 y.natAbs

/-- The fraction of a second. -/
def fraction (nanos : Nat) : List Char :=
  if nanos = 0 then []
  else if nanos % 1000000 = 0 then '.' :: padded 3 (nanos / 1000000)
  else if nanos % 1000 = 0 then '.' :: padded 6 (nanos / 1000)
  else '.' :: padded 9 nanos

/-- The text of an instant. A leap second is second 60. -/
def render (t : Instant) : String :=
  let date := Date.ofDays t.day
  let s := t.secondOfDay.toNat
  let leap := Instant.nanosPerSecond ≤ t.nanos
  let nanos := if leap then t.nanos - Instant.nanosPerSecond else t.nanos
  String.ofList <|
    year date.year ++ '-' :: padded 2 date.month ++ '-' :: padded 2 date.day ++
      'T' :: padded 2 (s / 3600) ++ ':' :: padded 2 (s / 60 % 60) ++
      ':' :: padded 2 (s % 60 + if leap then 1 else 0) ++ fraction nanos ++ ['Z']

/-! ### Reading

Each step reads one part and hands on what follows it. -/

/-- Reads a number of one to `width` digits. -/
def number (width : Nat) (cs : List Char) : Except TimestampError (Nat × List Char) :=
  match (cs.take width).takeWhile Numeral.isDigit with
  | [] => .error (if cs.isEmpty then .tooShort else .invalid)
  | ds => .ok (Numeral.value ds, cs.drop ds.length)

/-- Reads a number within bounds, blanks before it allowed. -/
def bounded (low high : Nat) (cs : List Char) : Except TimestampError (Nat × List Char) := do
  let (n, rest) ← number 2 (Text.trimStart cs)
  if low ≤ n ∧ n ≤ high then .ok (n, rest) else .error .outOfRange

/-- The largest number that the digits of a year may form. -/
def yearLimit : Nat := Nat.pow 2 63 - 1

/-- Reads the digits of a year that has a sign: any number of them. -/
def signedYear (negative : Bool) (cs : List Char) : Except TimestampError (Int × List Char) :=
  match cs.takeWhile Numeral.isDigit with
  | [] => .error (if cs.isEmpty then .tooShort else .invalid)
  | ds =>
    let n := Numeral.value ds
    if yearLimit < n then .error .outOfRange
    else
      let y : Int := if negative then -(n : Int) else n
      if -Int.pow 2 31 ≤ y ∧ y < Int.pow 2 31 then .ok (y, cs.drop ds.length)
      else .error .outOfRange

/-- Reads a year: four digits at most, unless it has a sign. -/
def anyYear (cs : List Char) : Except TimestampError (Int × List Char) :=
  match Text.trimStart cs with
  | '-' :: rest => signedYear true rest
  | '+' :: rest => signedYear false rest
  | rest => do
    let (n, rest) ← number 4 rest
    .ok (n, rest)

/-- Reads a separator, blanks before it allowed. -/
def separator (c : Char) (cs : List Char) : Except TimestampError (List Char) :=
  match Text.trimStart cs with
  | [] => .error .tooShort
  | x :: rest => if x = c then .ok rest else .error .invalid

/-- Reads a fraction of a second, if one comes next; digits after the ninth are dropped. -/
def nanos (cs : List Char) : Except TimestampError (Nat × List Char) :=
  match cs with
  | '.' :: rest => do
    let (n, after) ← number 9 rest
    let count := rest.length - after.length
    .ok (n * Nat.pow 10 (9 - count), after.dropWhile Numeral.isDigit)
  | _ => .ok (0, cs)

/-- Reads two digits, the first of them at most `first`. -/
def twoDigits (first : Char) (cs : List Char) : Except TimestampError (Nat × List Char) :=
  match cs with
  | [] => .error .tooShort
  | [c] => .error (if c.utf8Size = 1 then .tooShort else .invalid)
  | a :: b :: rest =>
    if Numeral.isDigit a && Numeral.isDigit b then
      if a ≤ first then .ok (Numeral.value [a, b], rest) else .error .outOfRange
    else .error .invalid

/-- Reads hours and minutes of an offset, in seconds. -/
def offsetSize (cs : List Char) : Except TimestampError (Nat × List Char) := do
  let (hours, rest) ← twoDigits '9' cs
  let (minutes, rest) ← twoDigits '5' (rest.dropWhile fun c => c == ':' || Text.isBlankChar c)
  .ok (hours * 3600 + minutes * 60, rest)

/-- Reads an offset from universal time, in seconds. -/
def offset (cs : List Char) : Except TimestampError (Int × List Char) :=
  match cs with
  | [] => .error .tooShort
  | a :: rest =>
    match a, rest with
    | 'Z', _ => .ok (0, rest)
    | 'z', _ => .ok (0, rest)
    | '+', _ => do
      let (n, rest) ← offsetSize rest
      .ok (n, rest)
    | '-', _ => do
      let (n, rest) ← offsetSize rest
      .ok (-(n : Int), rest)
    | '\u2212', _ => do
      let (n, rest) ← offsetSize rest
      .ok (-(n : Int), rest)
    | u, t :: c :: rest =>
      if [u, t, c].map Char.toUpper = ['U', 'T', 'C'] then .ok (0, rest) else .error .invalid
    | _, _ => .error .invalid

/-- The instant at which clocks with an offset show a date and time. -/
def resolve (date : Date) (hour minute second nanos : Nat) (offset : Int) :
    Except TimestampError Instant :=
  if ¬ date.Exists then .error .outOfRange
  else if ¬ (-Instant.secondsPerDay < offset ∧ offset < Instant.secondsPerDay) then
    .error .outOfRange
  else
    let leap := second = 60
    let clock : Int := hour * 3600 + minute * 60 + (if leap then 59 else second : Nat)
    let seconds := date.toDays * Instant.secondsPerDay + clock - offset
    let t : Instant := ⟨seconds, if leap then nanos + Instant.nanosPerSecond else nanos⟩
    if Date.firstDay ≤ t.day ∧ t.day ≤ Date.lastDay then .ok t else .error .impossible

/-- Reads a timestamp. -/
def parse (s : String) : Except TimestampError Instant := do
  let (year, cs) ← anyYear s.toList
  let cs ← separator '-' cs
  let (month, cs) ← bounded 1 12 cs
  let cs ← separator '-' cs
  let (day, cs) ← bounded 1 31 cs
  let cs ← match cs with
    | [] => .error .tooShort
    | c :: rest => if c = 't' ∨ c = 'T' ∨ c = ' ' then .ok rest else .error .invalid
  let (hour, cs) ← bounded 0 23 cs
  let cs ← separator ':' cs
  let (minute, cs) ← bounded 0 59 cs
  let cs ← separator ':' cs
  let (second, cs) ← bounded 0 60 cs
  let (nanos, cs) ← nanos cs
  let (offset, cs) ← offset (Text.trimStart cs)
  if (Text.trimStart cs).isEmpty then resolve ⟨year, month, day⟩ hour minute second nanos offset
  else .error .tooLong

end Timestamp
end KitchenFlow
