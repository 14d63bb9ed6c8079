import KitchenFlow.Text.Quoted

/-!
# Hexadecimal text

Bytes are written as two hexadecimal digits each, with small letters, and read with letters of
either case. A text is read as a list of bytes, so that faults are placed by byte: first the number
of digits has to be even, then the first byte that is no digit is reported.

    decode (encode bytes) = bytes
-/

namespace KitchenFlow.Hex

/-- Why a text is not hexadecimal. -/
inductive HexError where
  | oddLength
  | badDigit (byte : UInt8) (index : Nat)
deriving DecidableEq, Repr

/-- The wording of an error; a byte is shown as the character of its number. -/
def HexError.message : HexError → String
  | .oddLength => "Odd number of digits"
  | .badDigit byte index =>
    "Invalid character " ++ Text.quotedLetter (Char.ofNat byte.toNat) ++ " at position "
      ++ toString index

/-- The digit of a number below sixteen, as a byte of text. -/
def digit (n : UInt8) : UInt8 := if n < 10 then 0x30 + n else 0x57 + n

/-- The number of a digit. -/
def digitValue? (b : UInt8) : Option UInt8 :=
  if 0x30 ≤ b ∧ b ≤ 0x39 then some (b - 0x30)
  else if 0x61 ≤ b ∧ b ≤ 0x66 then some (b - 0x57)
  else if 0x41 ≤ b ∧ b ≤ 0x46 then some (b - 0x37)
  else none

/-- The bytes of the hexadecimal text of some bytes. -/
def encodeBytes (bytes : List UInt8) : List UInt8 :=
  bytes.flatMap fun b => [digit (b / 16), digit (b % 16)]

/-- The hexadecimal text of some bytes. -/
def encode (bytes : List UInt8) : String :=
  String.ofList ((encodeBytes bytes).map fun b => Char.ofNat b.toNat)

/-- Reads pairs of digits; `index` is the place of the first one. -/
def decodePairs (index : Nat) : List UInt8 → Except HexError (List UInt8)
  | high :: low :: rest =>
    match digitValue? high, digitValue? low with
    | none, _ => .error (.badDigit high index)
    | some _, none => .error (.badDigit low (index + 1))
    | some h, some l => (decodePairs (index + 2) rest).map fun bytes => (h * 16 + l) :: bytes
  | _ => .ok []

/-- Reads hexadecimal text given as bytes. -/
def decodeBytes (text : List UInt8) : Except HexError (List UInt8) :=
  if text.length % 2 = 1 then .error .oddLength else decodePairs 0 text

/-- Reads hexadecimal text. -/
def decode (text : String) : Except HexError (List UInt8) := decodeBytes text.toUTF8.toList

/-! ### Reading what was written -/

theorem digitValue?_digit (n : UInt8) (h : n < 16) : digitValue? (digit n) = some n := by
  have : ∀ m : Fin 16, digitValue? (digit (UInt8.ofNat m.val)) = some (UInt8.ofNat m.val) := by
    decide
  have hn : n.toNat < 16 := h
  simpa using this ⟨n.toNat, hn⟩

theorem halves (b : UInt8) : b / 16 * 16 + b % 16 = b := by
  apply UInt8.toNat_inj.1
  have := b.toNat_lt
  simp only [UInt8.toNat_add, UInt8.toNat_mul, UInt8.toNat_div, UInt8.toNat_mod]
  simp only [UInt8.reduceToNat]
  omega

theorem div_lt (b : UInt8) : b / 16 < 16 := by
  rw [UInt8.lt_iff_toNat_lt, UInt8.toNat_div]
  have := b.toNat_lt
  simp only [UInt8.reduceToNat]
  omega

theorem mod_lt (b : UInt8) : b % 16 < 16 := by
  rw [UInt8.lt_iff_toNat_lt, UInt8.toNat_mod]
  simp only [UInt8.reduceToNat]
  omega

theorem decodePairs_encodeBytes (bytes : List UInt8) (index : Nat) :
    decodePairs index (encodeBytes bytes) = .ok bytes := by
  induction bytes generalizing index with
  | nil => rfl
  | cons b rest ih =>
    simp only [encodeBytes, List.flatMap_cons, List.cons_append, List.nil_append] at ih ⊢
    rw [decodePairs]
    simp only [digitValue?_digit _ (div_lt b), digitValue?_digit _ (mod_lt b), ih, halves]
    rfl

theorem length_encodeBytes (bytes : List UInt8) :
    (encodeBytes bytes).length = 2 * bytes.length := by
  induction bytes with
  | nil => rfl
  | cons b rest ih =>
    simp only [encodeBytes, List.flatMap_cons, List.length_append, List.length_cons] at ih ⊢
    simp only [ih, List.length_nil]
    omega

/-- What was written is read back. -/
@[simp] theorem decodeBytes_encodeBytes (bytes : List UInt8) :
    decodeBytes (encodeBytes bytes) = .ok bytes := by
  unfold decodeBytes
  rw [length_encodeBytes, if_neg (by omega), decodePairs_encodeBytes]

end KitchenFlow.Hex
