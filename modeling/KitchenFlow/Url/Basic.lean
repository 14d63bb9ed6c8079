import KitchenFlow.Json.Cursor

/-!
# URLs

A URL in its parts, the errors of reading one, and percent-encoding: a byte that a part cannot hold
is written as `%` and two hexadecimal digits.
-/

namespace KitchenFlow

/-- Why a text is no absolute URL. -/
inductive UrlError where
  | emptyHost
  | badDomain
  | badPort
  | badIpv4
  | badIpv6
  | badHostCharacter
  | relative
deriving DecidableEq, Repr

/-- The wording of an error. -/
def UrlError.message : UrlError → String
  | .emptyHost => "empty host"
  | .badDomain => "invalid international domain name"
  | .badPort => "invalid port number"
  | .badIpv4 => "invalid IPv4 address"
  | .badIpv6 => "invalid IPv6 address"
  | .badHostCharacter => "invalid domain character"
  | .relative => "relative URL without a base"

/-- The host of a URL. -/
inductive Host where
  /-- A name; for the schemes of the web a domain in its ASCII form. -/
  | name (s : String)
  | ipv4 (address : Nat)
  | ipv6 (pieces : List Nat)
deriving DecidableEq, Repr

/-- A URL in its parts. -/
structure Url where
  scheme : String
  username : String
  password : String
  host : Option Host
  port : Option Nat
  path : String
  query : Option String
deriving Repr

namespace Url

/-- The bytes of a character. -/
def utf8 (c : Char) : List UInt8 := (String.singleton c).toUTF8.toList

/-- A digit of a percent escape, with capital letters. -/
def escapeDigit (n : Nat) : Char := (Nat.digitChar (n % 16)).toUpper

/-- A byte as a percent escape. -/
def escapeByte (b : UInt8) : List Char :=
  ['%', escapeDigit (b.toNat / 16), escapeDigit b.toNat]

/-- A character as it is, or its bytes as escapes if `encode` says so; characters that are not
printable ASCII are always escaped. -/
def escapeChar (encode : Char → Bool) (c : Char) : List Char :=
  if c.toNat < 0x20 ∨ 0x7E < c.toNat ∨ encode c then (utf8 c).flatMap escapeByte else [c]

/-- The characters that a part may hold only escaped, besides the unprintable ones. -/
structure EscapeSet where
  chars : List Char

def EscapeSet.has (s : EscapeSet) (c : Char) : Bool := s.chars.contains c

/-- Nothing but what is never allowed. -/
def controlSet : EscapeSet := ⟨[]⟩

/-- What a path escapes. -/
def pathSet : EscapeSet := ⟨[' ', '"', '<', '>', '\x60', '#', '?', '\x7b', '\x7d']⟩

/-- What a query escapes. -/
def querySet : EscapeSet := ⟨[' ', '"', '#', '<', '>']⟩

/-- What a query of the web schemes escapes. -/
def webQuerySet : EscapeSet := ⟨'\'' :: querySet.chars⟩

/-- What user names and passwords escape. -/
def userSet : EscapeSet :=
  ⟨['/', ':', ';', '=', '@', '[', '\\', ']', '^', '|'] ++ pathSet.chars⟩

/-- A text with the characters of a set escaped. -/
def escape (set : EscapeSet) (cs : List Char) : String :=
  String.ofList (cs.flatMap (escapeChar set.has))

/-- The bytes that a text with percent escapes stands for. -/
def unescape : List UInt8 → List UInt8
  | 0x25 :: a :: b :: rest =>
    match Cursor.hexValue? (Char.ofNat a.toNat), Cursor.hexValue? (Char.ofNat b.toNat) with
    | some x, some y => UInt8.ofNat (16 * x + y) :: unescape rest
    | _, _ => 0x25 :: unescape (a :: b :: rest)
  | x :: rest => x :: unescape rest
  | [] => []

/-- The schemes of the web, with their usual ports. -/
def webSchemes : List (String × Nat) :=
  [("http", 80), ("https", 443), ("ws", 80), ("wss", 443), ("ftp", 21)]

end Url
end KitchenFlow
