/-!
# Blocks of sixteen bytes

The ciphers work on blocks of 128 bits. A block is a bit vector whose first byte is the most
significant one; `ofBytes` and `toBytes` go between blocks and lists of bytes, and a list that is
too short is filled with zeros on the right.
-/

namespace KitchenFlow

/-- A block of 128 bits. -/
abbrev Block := BitVec 128

namespace Block

/-- The number of bytes in a block. -/
def size : Nat := 16

/-- The block that begins with some bytes. -/
def ofBytes (bytes : List UInt8) : Block :=
  (List.range size).foldl (fun b i => b <<< 8 ||| (bytes.getD i 0).toBitVec.setWidth 128) 0

/-- The bytes of a block. -/
def toBytes (b : Block) : List UInt8 :=
  (List.range size).map fun i => UInt8.ofBitVec ((b >>> (8 * (size - 1 - i))).setWidth 8)

@[simp] theorem length_toBytes (b : Block) : b.toBytes.length = size := by simp [toBytes]

/-- Cuts bytes into blocks, the last one filled with zeros. -/
def chunks (bytes : List UInt8) : List Block :=
  (List.range ((bytes.length + size - 1) / size)).map fun i => ofBytes (bytes.drop (size * i))

end Block
end KitchenFlow
