import KitchenFlow.Text.Split
import KitchenFlow.Url.Basic

/-!
# Network addresses in URLs

A host whose last label is a number is an IPv4 address. Its one to four parts may be decimal, octal
(with a leading `0`) or hexadecimal (with `0x`); the last part fills all the bytes that are left.
An address in brackets is an IPv6 address: up to eight groups of up to four hexadecimal digits, one
run of zero groups left out as `::`, the last two groups possibly as four decimal bytes.
-/

namespace KitchenFlow.Url

/-! ### IPv4 -/

/-- A digit in a base of at most sixteen. -/
def digitIn? (base : Nat) (c : Char) : Option Nat :=
  (Cursor.hexValue? c).filter fun d => decide (d < base)

/-- The digits of a part of an address, and their base. -/
def partDigits (cs : List Char) : Nat × List Char :=
  match cs with
  | '0' :: 'x' :: rest => (16, rest)
  | '0' :: 'X' :: rest => (16, rest)
  | '0' :: d :: rest => (8, d :: rest)
  | _ => (10, cs)

/-- The value of a part of an address, if it is a number. -/
def ipv4Part? (cs : List Char) : Option Nat :=
  if cs.isEmpty then none
  else
    let (base, ds) := partDigits cs
    (ds.mapM (digitIn? base)).map fun values => values.foldl (fun n d => base * n + d) 0

/-- The parts of an address; a point at the end is dropped. -/
def ipv4Parts (cs : List Char) : List (List Char) :=
  let parts := Text.splitChars '.' cs
  if parts.getLast? = some [] then parts.dropLast else parts

/-- Whether a host has to be an IPv4 address: its last part is a number. -/
def endsInNumber (cs : List Char) : Bool :=
  match Text.splitChars '.' cs with
  | [[]] => false
  | _ =>
    match (ipv4Parts cs).getLast? with
    | none => false
    | some last => (!last.isEmpty && last.all Numeral.isDigit) || (ipv4Part? last).isSome

/-- Reads an IPv4 address. -/
def ipv4 (cs : List Char) : Except UrlError Nat :=
  match (ipv4Parts cs).mapM ipv4Part? with
  | none => .error .badIpv4
  | some numbers =>
    if 4 < numbers.length then .error .badIpv4
    else
      match numbers.reverse with
      | [] => .error .badIpv4
      | last :: firsts =>
        let room := Nat.pow 256 (4 - firsts.length)
        if room ≤ last ∨ firsts.any (fun n => 255 < n) then .error .badIpv4
        else .ok (firsts.reverse.foldl (fun n b => 256 * n + b) 0 * room + last)

/-! ### IPv6 -/

/-- The groups read so far, and how many of them stand before a `::`. -/
structure Ipv6State where
  groups : List Nat
  gap : Option Nat

/-- Reads up to four hexadecimal digits. -/
def hexGroup : Nat → Nat → List Char → Nat × List Char
  | 0, n, cs => (n, cs)
  | _, n, [] => (n, [])
  | k + 1, n, c :: rest =>
    match digitIn? 16 c with
    | some d => hexGroup k (16 * n + d) rest
    | none => (n, c :: rest)

/-- Reads one decimal byte without needless zeros. -/
def decimalByte? (cs : List Char) : Option (Nat × List Char) :=
  let ds := cs.takeWhile Numeral.isDigit
  let n := Numeral.value ds
  if ds.isEmpty || 255 < n || (1 < ds.length && ds.head? == some '0') then none
  else some (n, cs.drop ds.length)

/-- Reads four decimal bytes to the end of an address. -/
def decimalBytes? : Nat → List Char → Option (List Nat)
  | 0, cs => if cs.isEmpty then some [] else none
  | k + 1, cs => do
    let (n, rest) ← decimalByte? cs
    let rest ← match k, rest with
      | 0, rest => some rest
      | _, '.' :: rest => some rest
      | _, _ => none
    (decimalBytes? k rest).map (n :: ·)

/-- The groups of a finished address, if there are eight. -/
def Ipv6State.finish? (s : Ipv6State) : Option (List Nat) :=
  match s.gap with
  | none => if s.groups.length = 8 then some s.groups else none
  | some n =>
    some (s.groups.take n ++ List.replicate (8 - s.groups.length) 0 ++ s.groups.drop n)

/-- Reads the groups of an address. The gap of a `::` counts as a group while reading. -/
def ipv6Groups? : Nat → Ipv6State → List Char → Option (List Nat)
  | 0, _, _ => none
  | _, s, [] => s.finish?
  | fuel + 1, s, c :: rest =>
    let count := s.groups.length + (if s.gap.isSome then 1 else 0)
    if 8 ≤ count then none
    else if c = ':' then
      if s.gap.isSome then none
      else ipv6Groups? fuel { s with gap := some s.groups.length } rest
    else
      let (n, after) := hexGroup 4 0 (c :: rest)
      match after with
      | '.' :: _ =>
        if after.length = rest.length + 1 ∨ 6 < count then none
        else
          match decimalBytes? 4 (c :: rest) with
          | some [a, b, d, e] =>
            Ipv6State.finish? { s with groups := s.groups ++ [256 * a + b, 256 * d + e] }
          | _ => none
      | [':'] => none
      | ':' :: after => ipv6Groups? fuel { s with groups := s.groups ++ [n] } after
      | [] => Ipv6State.finish? { s with groups := s.groups ++ [n] }
      | _ => none

/-- Reads an IPv6 address without its brackets. -/
def ipv6 (cs : List Char) : Except UrlError (List Nat) :=
  let groups := match cs with
    | ':' :: ':' :: rest => ipv6Groups? (rest.length + 1) ⟨[], some 0⟩ rest
    | ':' :: _ => none
    | [_] => none
    | [] => none
    | cs => ipv6Groups? (cs.length + 1) ⟨[], none⟩ cs
  match groups with
  | some groups => .ok groups
  | none => .error .badIpv6

end KitchenFlow.Url
