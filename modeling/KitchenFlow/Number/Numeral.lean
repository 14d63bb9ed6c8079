import KitchenFlow.Number.Binary64

/-!
# Reading decimal numerals

A numeral is an optional sign, digits with at most one point among or around them, and an optional
exponent; the words `inf`, `infinity` and `nan` are read in any case. What is read is the binary64
number nearest to the written value, however many digits are given.

    sign? ( digit+ | digit+ '.' digit* | '.' digit+ ) ( ('e' | 'E') sign? digit+ )?
-/

namespace KitchenFlow

/-- A finite decimal: `± digits · 10 ^ exponent`. -/
structure Decimal where
  negative : Bool
  digits : Nat
  exponent : Int
deriving DecidableEq, Repr

namespace Decimal

/-- How many decimal digits a natural number has; zero has one. -/
def digitCount (n : Nat) : Nat := (Nat.toDigits 10 n).length

/-- The binary64 number nearest to a decimal. Decimals beyond `10 ^ 400` are infinite and ones
below `10 ^ -400` are zero, whatever their digits, so no power of ten in use is huge. -/
def toBinary64 (d : Decimal) : Binary64 :=
  if d.digits = 0 then .finite d.negative 0
  else if 400 < d.exponent then .infinite d.negative
  else if d.exponent + digitCount d.digits < -400 then .finite d.negative 0
  else if 0 ≤ d.exponent then
    Binary64.ofRatio d.negative (d.digits * Nat.pow 10 d.exponent.toNat) 1
  else
    Binary64.ofRatio d.negative d.digits (Nat.pow 10 (-d.exponent).toNat)

end Decimal

namespace Numeral

/-- The digits `0` to `9`. -/
def isDigit (c : Char) : Bool := '0' ≤ c && c ≤ '9'

/-- The value of a digit. -/
def digitValue (c : Char) : Nat := c.toNat - '0'.toNat

/-- The number written by a list of digits, most significant first. -/
def value (ds : List Char) : Nat := ds.foldl (fun n d => 10 * n + digitValue d) 0

/-- Splits a sign off: whether it is a minus, and the rest. -/
def splitSign : List Char → Bool × List Char
  | '-' :: rest => (true, rest)
  | '+' :: rest => (false, rest)
  | rest => (false, rest)

/-- Reads digits only, at least one of them. -/
def digits? (cs : List Char) : Option Nat :=
  if cs.isEmpty || !cs.all isDigit then none else some (value cs)

/-- Reads what may follow the digits of a numeral: nothing, or an exponent. -/
def exponent? : List Char → Option Int
  | [] => some 0
  | e :: rest =>
    if e = 'e' ∨ e = 'E' then
      let (minus, ds) := splitSign rest
      (digits? ds).map fun n => if minus then -(n : Int) else n
    else none

/-- The words for numbers that have no digits. -/
def word? (negative : Bool) (cs : List Char) : Option Binary64 :=
  match String.ofList (cs.map Char.toLower) with
  | "inf" | "infinity" => some (.infinite negative)
  | "nan" => some .nan
  | _ => none

/-- Reads a numeral after its sign. -/
def unsigned? (negative : Bool) (cs : List Char) : Option Binary64 :=
  let whole := cs.takeWhile isDigit
  match cs.dropWhile isDigit with
  | '.' :: rest =>
    let fraction := rest.takeWhile isDigit
    if whole.isEmpty && fraction.isEmpty then none
    else
      (exponent? (rest.dropWhile isDigit)).map fun e =>
        (Decimal.mk negative (value (whole ++ fraction)) (e - fraction.length)).toBinary64
  | rest =>
    if whole.isEmpty then word? negative cs
    else (exponent? rest).map fun e => (Decimal.mk negative (value whole) e).toBinary64

/-- Reads a natural number below `bound`: digits, with at most a plus sign before them. -/
def nat? (bound : Nat) (s : String) : Option Nat := do
  let ds := match s.toList with
    | '+' :: rest => rest
    | cs => cs
  let n ← digits? ds
  if n < bound then some n else none

end Numeral

/-- The binary64 number that a numeral stands for, if the text is one. -/
def Binary64.ofText? (s : String) : Option Binary64 :=
  let (minus, cs) := Numeral.splitSign s.toList
  Numeral.unsigned? minus cs

end KitchenFlow
