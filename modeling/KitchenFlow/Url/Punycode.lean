import KitchenFlow.Number.Numeral

/-!
# Punycode

Labels that are not ASCII are written in ASCII as `xn--` and a text from which their code points
are recovered: first the ASCII characters of the label, then, after the last hyphen, a sequence of
numbers in a mixed base that say where the other characters go. Each number is written with its
least digit first, and the base of a digit depends on how large the numbers before were.
-/

namespace KitchenFlow.Url.Punycode

/-- The value of a digit: letters from 0, figures from 26. -/
def digit? (c : Char) : Option Nat :=
  let n := c.toNat
  if 'a'.toNat ≤ n ∧ n ≤ 'z'.toNat then some (n - 'a'.toNat)
  else if 'A'.toNat ≤ n ∧ n ≤ 'Z'.toNat then some (n - 'A'.toNat)
  else if Numeral.isDigit c then some (Numeral.digitValue c + 26)
  else none

/-- How far a number is from the next step of the bias. -/
def reduce : Nat → Nat → Nat → Nat × Nat
  | 0, k, delta => (k, delta)
  | fuel + 1, k, delta => if 455 < delta then reduce fuel (k + 36) (delta / 35) else (k, delta)

/-- The bias after a number has been read, of `count` characters then in place. -/
def adapt (delta count : Nat) (first : Bool) : Nat :=
  let delta := if first then delta / 700 else delta / 2
  let delta := delta + delta / count
  let (k, delta) := reduce 64 0 delta
  k + 36 * delta / (delta + 38)

/-- Reads one number: its value, and what follows it. -/
def number? (bias : Nat) : List Char → Nat → Nat → Nat → Option (Nat × List Char)
  | [], _, _, _ => none
  | c :: rest, k, weight, sum => do
    let d ← digit? c
    let sum := sum + d * weight
    if Nat.pow 2 32 ≤ sum then none
    else
      let threshold := if k ≤ bias then 1 else if bias + 26 ≤ k then 26 else k - bias
      if d < threshold then some (sum, rest)
      else number? bias rest (k + 36) (weight * (36 - threshold)) sum

/-- Puts the characters that the numbers stand for into their places. -/
def insertAll? : Nat → List Char → Nat → Nat → Nat → List Char → Option (List Char)
  | _, [], _, _, _, out => some out
  | 0, _, _, _, _, _ => none
  | fuel + 1, cs, codePoint, index, bias, out => do
    let (next, rest) ← number? bias cs 36 1 index
    let count := out.length + 1
    let codePoint := codePoint + next / count
    let place := next % count
    if codePoint.isValidChar then
      insertAll? fuel rest codePoint (place + 1) (adapt (next - index) count (index == 0))
        (out.take place ++ Char.ofNat codePoint :: out.drop place)
    else none

/-- Splits a text at its last hyphen; without one, all of it stands after it. -/
def splitLast (cs : List Char) : List Char × List Char :=
  match cs.reverse.dropWhile (· ≠ '-') with
  | [] => ([], cs)
  | _ :: before => (before.reverse, (cs.reverse.takeWhile (· ≠ '-')).reverse)

/-- The label that a text stands for. -/
def decode? (cs : List Char) : Option (List Char) :=
  let (basic, extended) := splitLast cs
  insertAll? (extended.length + 1) extended 128 0 72 basic

end KitchenFlow.Url.Punycode
