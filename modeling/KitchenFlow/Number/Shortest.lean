import KitchenFlow.Number.Numeral

/-!
# The shortest decimal of a binary64 number

Every real number in a small interval around a binary64 number is read back as that number, and
every one in a wider interval if the number is taken in single precision. Of the decimals in this
interval, the one with the fewest digits is written, and of several such the one nearest to the
number. All of it is exact: a unit is `5 ^ 1074 · 10 ^ -1074`, so a finite number is a whole
multiple of `10 ^ -1074`, and so are the ends of its interval once everything is multiplied by four.

How the digits are then laid out is the business of a `Layout`.
-/

namespace KitchenFlow

/-- A positive decimal in scientific form: `d₀.d₁d₂… · 10 ^ exponent`, the digits being those of
`digits`. -/
structure Scientific where
  digits : List Char
  exponent : Int
deriving DecidableEq, Repr

namespace Binary64

/-- Four times the number, its interval's lower end and its upper end, in units, for a positive
count; and whether the ends belong to the interval. -/
structure Reading where
  center : Nat
  lower : Nat
  upper : Nat
  closed : Bool

/-- How numbers of a precision are spaced: how many bits a significand has, and the binary
logarithm of the least gap, in units. -/
structure Spacing where
  bits : Nat
  least : Nat

/-- The spacing of binary64 numbers. -/
def Spacing.double : Spacing := ⟨precision, 0⟩

/-- The spacing of single-precision numbers. -/
def Spacing.single : Spacing := ⟨24, unitExponent - singleUnitExponent⟩

/-- The interval of reals that are read as the number of `units > 0` units. The gap below a power
of two is half the gap above it. -/
def readingOf (p : Spacing) (units : Nat) : Reading :=
  let shift := max (units.log2 + 1 - p.bits) p.least
  let gap := 1 <<< shift
  let significand := units >>> shift
  let low := if significand = Nat.pow 2 (p.bits - 1) ∧ p.least < shift then gap else 2 * gap
  { center := 4 * units, lower := 4 * units - low, upper := 4 * units + 2 * gap,
    closed := significand % 2 == 0 }

/-- Whether a count of quarter units lies in the interval. -/
def Reading.contains (r : Reading) (scale x : Nat) : Bool :=
  if r.closed then r.lower * scale ≤ x && x ≤ r.upper * scale
  else r.lower * scale < x && x < r.upper * scale

/-- The multiple of the power of ten `step` nearest to the number and in its interval, divided by
`step`. Of the two neighbours that both qualify, the nearer wins, and the even one of two equally
near. -/
def Reading.onGrid? (r : Reading) (scale step : Nat) : Option Nat :=
  let c := r.center * scale
  let below := c / (4 * step)
  let rest := c - 4 * (below * step)
  let down := r.contains scale (4 * (below * step))
  let up := r.contains scale (4 * ((below + 1) * step))
  if down && up then
    if 2 * rest < 4 * step then some below
    else if 4 * step < 2 * rest then some (below + 1)
    else some (if below % 2 = 0 then below else below + 1)
  else if down then some below
  else if up then some (below + 1)
  else none

/-- The first grid among those with `count` more to try on which the number can be written, from
the coarsest on. `top` is the decimal exponent of the coarsest grid, in steps of `10 ^ -1074`. -/
def Reading.search (r : Reading) (scale : Nat) : Nat → Nat → Nat × Nat
  | 0, top => (r.center * scale / (4 * Nat.pow 10 top), top)
  | count + 1, top =>
    match r.onGrid? scale (Nat.pow 10 top) with
    | some d => (d, top)
    | none => r.search scale count (top - 1)

/-- Drops the zeros at the end of a list of digits, but not the last digit left. -/
def dropTrailingZeros (ds : List Char) : List Char :=
  match (ds.reverse.dropWhile (· == '0')).reverse with
  | [] => ['0']
  | kept => kept

/-- The shortest decimal that is read back as the number with `units > 0` units. Seventeen digits
always suffice. -/
def shortest (p : Spacing) (units : Nat) : Scientific :=
  let scale := Nat.pow 5 unitExponent
  let places := Decimal.digitCount (units * scale)
  let (digits, exponent) := (readingOf p units).search scale 17 (places - 1)
  let text := Nat.toDigits 10 digits
  { digits := dropTrailingZeros text,
    exponent := (exponent : Int) + (text.length - 1 : Nat) - unitExponent }

end Binary64

/-! ### Layout -/

/-- How the digits of a number are laid out. -/
structure Layout where
  /-- The precision that the digits are good for. -/
  spacing : Binary64.Spacing
  /-- The least decimal exponent that is still written without an exponent part. -/
  plainFrom : Option Int
  /-- The first decimal exponent that is too large for that. -/
  plainBelow : Option Int
  /-- Whether a whole number is written with `.0`. -/
  pointZero : Bool
  /-- What a value that is no finite number is written as. -/
  notFinite : String

namespace Layout

/-- Whether a number with this decimal exponent is written without an exponent part. -/
def isPlain (l : Layout) (exponent : Int) : Bool :=
  l.plainFrom.all (fun e => decide (e ≤ exponent)) &&
    l.plainBelow.all (fun e => decide (exponent < e))

/-- Digits around a point that stands after `point` of them; zeros fill what is missing. -/
def plain (l : Layout) (digits : List Char) (point : Int) : List Char :=
  if point ≤ 0 then
    '0' :: '.' :: (List.replicate (-point).toNat '0' ++ digits)
  else
    let n := point.toNat
    if n < digits.length then digits.take n ++ '.' :: digits.drop n
    else
      digits ++ List.replicate (n - digits.length) '0' ++ (if l.pointZero then ['.', '0'] else [])

/-- One digit, the others after a point, and a signed exponent. -/
def scientific (digits : List Char) (exponent : Int) : List Char :=
  let mantissa := match digits with
    | [] => []
    | [d] => [d]
    | d :: rest => d :: '.' :: rest
  mantissa ++ 'e' :: (if exponent < 0 then '-' else '+') :: Nat.toDigits 10 exponent.natAbs

/-- The text of a number in this layout. -/
def render (l : Layout) : Binary64 → String
  | .finite negative units =>
    let sign := if negative then ['-'] else []
    let body :=
      if units = 0 then l.plain ['0'] 1
      else
        let s := Binary64.shortest l.spacing units
        if l.isPlain s.exponent then l.plain s.digits (s.exponent + 1)
        else scientific s.digits s.exponent
    String.ofList (sign ++ body)
  | _ => l.notFinite

/-- Numbers in JSON text have a fraction or an exponent; the exponent part starts at `1e16` and
below `1e-5`, and what is no finite number is `null`. -/
def json : Layout := ⟨.double, some (-5), some 16, true, "null"⟩

/-- In single precision, the exponent part starts at `1e13` and below `1e-6`. -/
def jsonSingle : Layout := ⟨.single, some (-6), some 13, true, "null"⟩

/-- Numbers in running text are written out in full and without needless digits. -/
def prose : Layout := ⟨.double, none, none, false, "inf"⟩

end Layout
end KitchenFlow
