/-!
# Bytes as characters

What is in a file is bytes, and it need not be a text. Taken apart from the front, the bytes either
make a character in UTF-8, or the first of them belongs to none.
-/

namespace KitchenFlow.Text

/-- The character that bytes begin with. -/
def firstChar? (bytes : List UInt8) : Option Char := (bytes.take 4).toByteArray.utf8DecodeChar? 0

/-- The characters of bytes, with `none` for every byte that belongs to no character. The first
`taken` bytes belong to a character that has been counted. -/
def characters : Nat → List UInt8 → List (Option Char)
  | _, [] => []
  | taken + 1, _ :: rest => characters taken rest
  | 0, b :: rest =>
    match firstChar? (b :: rest) with
    | some ch => some ch :: characters (ch.utf8Size - 1) rest
    | none => none :: characters 0 rest

end KitchenFlow.Text
