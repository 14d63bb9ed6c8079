import KitchenFlow.Vault.Block

/-!
# The AES block cipher with keys of 256 bits

A block is a square of bytes, column by column. A round replaces every byte by its value in the
S-box, rotates the rows, mixes the columns and adds a part of the key; the last round mixes nothing.
Bytes are elements of the field of 256 elements: addition is exclusive or, and multiplication is
that of polynomials modulo x⁸ + x⁴ + x³ + x + 1.
-/

namespace KitchenFlow.Aes

/-! ### The field -/

/-- A byte times x. -/
def double (a : UInt8) : UInt8 := if a < 0x80 then a <<< 1 else (a <<< 1) ^^^ 0x1B

/-- The product of two bytes, from the bits of the second, least significant first. -/
def mul (a b : UInt8) : UInt8 :=
  ((List.range 8).foldl
    (fun (acc, power) i => (if b.toNat.testBit i then acc ^^^ power else acc, double power))
    ((0 : UInt8), a)).1

/-- The inverse of a byte, which is its 254th power; that of zero is zero. -/
def inverse (a : UInt8) : UInt8 :=
  let a2 := mul a a
  let a4 := mul a2 a2
  let a8 := mul a4 a4
  let a16 := mul a8 a8
  let a32 := mul a16 a16
  let a64 := mul a32 a32
  let a128 := mul a64 a64
  mul a128 (mul a64 (mul a32 (mul a16 (mul a8 (mul a4 a2)))))

/-- A byte rotated to the left. -/
def rotate (a : UInt8) (n : UInt8) : UInt8 := (a <<< n) ||| (a >>> (8 - n))

/-- The value of a byte in the S-box. -/
def substitute (a : UInt8) : UInt8 :=
  let b := inverse a
  b ^^^ rotate b 1 ^^^ rotate b 2 ^^^ rotate b 3 ^^^ rotate b 4 ^^^ 0x63

/-- The S-box. -/
def sbox : Array UInt8 := (Array.range 256).map fun n => substitute (UInt8.ofNat n)

/-- Looks a byte up in the S-box. -/
def sub (a : UInt8) : UInt8 := sbox.getD a.toNat 0

/-! ### The key -/

/-- The number of rounds. -/
def rounds : Nat := 14

/-- Adds two lists of bytes. -/
def add (a b : List UInt8) : List UInt8 := List.zipWith (· ^^^ ·) a b

/-- The constants of the key schedule. -/
def roundConstant (i : Nat) : UInt8 := Nat.repeat double (i - 1) 1

/-- What is added to the word eight places back to give the next one. -/
def mixKeyWord (i : Nat) (previous : List UInt8) : List UInt8 :=
  if i % 8 = 0 then
    match previous with
    | a :: rest =>
      match rest ++ [a] with
      | b :: others => (sub b ^^^ roundConstant (i / 8)) :: others.map sub
      | [] => []
    | [] => []
  else if i % 8 = 4 then previous.map sub
  else previous

/-- Words of the key schedule, four bytes each, latest first. `n` more are to be made. -/
def expand : Nat → List (List UInt8) → List (List UInt8)
  | 0, words => words
  | n + 1, words =>
    let next := add (words.getD 7 []) (mixKeyWord words.length (words.headD []))
    expand n (next :: words)

/-- The words of a key, in order. -/
def keyWords (key : List UInt8) : List (List UInt8) :=
  (List.range 8).map fun i => (key.drop (4 * i)).take 4

/-- The parts of a key that the rounds use, in order, before the first round and after each. -/
def schedule (key : List UInt8) : List (List UInt8) :=
  let words := (expand (4 * (rounds + 1) - 8) (keyWords key).reverse).reverse
  (List.range (rounds + 1)).map fun i => ((words.drop (4 * i)).take 4).flatten

/-! ### The rounds -/

/-- Rotates the rows of a square, the row at place `r` by `r` places. -/
def shiftRows (s : List UInt8) : List UInt8 :=
  (List.range 16).map fun i => s.getD ((i + 4 * (i % 4)) % 16) 0

/-- Mixes a column. -/
def mixColumn (c : List UInt8) : List UInt8 :=
  let cell (i : Nat) := c.getD (i % 4) 0
  (List.range 4).map fun i =>
    double (cell i) ^^^ double (cell (i + 1)) ^^^ cell (i + 1) ^^^ cell (i + 2) ^^^ cell (i + 3)

/-- Mixes the columns of a square. -/
def mixColumns (s : List UInt8) : List UInt8 :=
  (List.range 4).flatMap fun i => mixColumn ((s.drop (4 * i)).take 4)

/-- The rounds that follow the first addition of the key. -/
def run : List (List UInt8) → List UInt8 → List UInt8
  | [], s => s
  | [last], s => add (shiftRows (s.map sub)) last
  | part :: rest, s => run rest (add (mixColumns (shiftRows (s.map sub))) part)

/-- Enciphers a block under a schedule. -/
def encipher (parts : List (List UInt8)) (b : Block) : Block :=
  match parts with
  | [] => b
  | first :: rest => .ofBytes (run rest (add b.toBytes first))

end KitchenFlow.Aes
