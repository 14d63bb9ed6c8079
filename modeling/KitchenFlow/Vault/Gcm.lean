import KitchenFlow.Vault.Block

/-!
# Sealing texts by Galois counter mode

A text is sealed under a block cipher and a nonce of sixteen bytes: it is masked with the cipher's
images of successive counters, and a tag of sixteen bytes, computed from the masked text, is put
behind it. Opening checks the tag before it takes the mask away, and a mask taken twice is no mask:

    openSealed c n s = some p ↔ s = sealText c n p
-/

namespace KitchenFlow.Gcm

/-- A block cipher with its key. -/
abbrev Cipher := Block → Block

/-! ### The tag -/

/-- What is added when a one is shifted out of a block. -/
def reduction : Block := 0xE1 <<< 120

/-- The product of two blocks, as polynomials whose constant term is the most significant bit. -/
def mul (x y : Block) : Block :=
  ((List.range 128).foldl
    (fun (acc, power) i =>
      (if x.getMsbD i then acc ^^^ power else acc,
        if power.getLsbD 0 then (power >>> 1) ^^^ reduction else power >>> 1))
    ((0 : Block), y)).1

/-- The hash of some blocks. -/
def hash (h : Block) (blocks : List Block) : Block :=
  blocks.foldl (fun acc b => mul (acc ^^^ b) h) 0

/-- A number of bits as a block. -/
def bitLength (bytes : List UInt8) : Block := BitVec.ofNat 128 (8 * bytes.length)

/-- The hash of bytes and their length. -/
def hashBytes (h : Block) (bytes : List UInt8) : Block :=
  hash h (Block.chunks bytes ++ [bitLength bytes])

/-- The key of the hash. -/
def hashKey (c : Cipher) : Block := c 0

/-- The first counter, made from the nonce. -/
def start (c : Cipher) (nonce : List UInt8) : Block := hashBytes (hashKey c) nonce

/-- The counter some steps later; only its last 32 bits count. -/
def counter (first : Block) (n : Nat) : Block :=
  let low : BitVec 32 := first.setWidth 32 + BitVec.ofNat 32 n
  ((first >>> 32).setWidth 96) ++ low

/-- The number of bytes in a tag. -/
def tagSize : Nat := 16

/-- The tag of a masked text. -/
def tag (c : Cipher) (nonce masked : List UInt8) : List UInt8 :=
  (hashBytes (hashKey c) masked ^^^ c (start c nonce)).toBytes

/-! ### The mask -/

/-- The mask for so many blocks. -/
def stream (c : Cipher) (first : Block) (blocks : Nat) : List UInt8 :=
  (List.range blocks).flatMap fun i => (c (counter first (i + 1))).toBytes

/-- Puts the mask on a text, or takes it away. -/
def mask (c : Cipher) (nonce bytes : List UInt8) : List UInt8 :=
  List.zipWith (· ^^^ ·) bytes (stream c (start c nonce) ((bytes.length + 15) / 16))

/-- Seals a text. -/
def sealText (c : Cipher) (nonce plain : List UInt8) : List UInt8 :=
  let masked := mask c nonce plain
  masked ++ tag c nonce masked

/-- Opens a sealed text, if it was sealed under this nonce. -/
def openSealed (c : Cipher) (nonce sealedText : List UInt8) : Option (List UInt8) :=
  if sealedText.length < tagSize then none
  else
    let masked := sealedText.take (sealedText.length - tagSize)
    if sealedText.drop (sealedText.length - tagSize) = tag c nonce masked then
      some (mask c nonce masked)
    else none

/-! ### Opening what was sealed -/

theorem length_stream (c : Cipher) (first : Block) (blocks : Nat) :
    (stream c first blocks).length = 16 * blocks := by
  induction blocks with
  | zero => rfl
  | succ n ih =>
    simp only [stream, List.range_succ, List.flatMap_append, List.length_append] at ih ⊢
    rw [ih]
    simp [Block.size]
    omega

theorem length_mask (c : Cipher) (nonce bytes : List UInt8) :
    (mask c nonce bytes).length = bytes.length := by
  simp only [mask, List.length_zipWith, length_stream]
  omega

theorem zipWith_xor_cancel : ∀ (bytes m : List UInt8), bytes.length ≤ m.length →
    List.zipWith (· ^^^ ·) (List.zipWith (· ^^^ ·) bytes m) m = bytes
  | [], _, _ => by simp
  | b :: rest, [], h => by simp at h
  | b :: rest, k :: ks, h => by
    have ih := zipWith_xor_cancel rest ks (by simpa using h)
    simp only [List.zipWith_cons_cons, ih]
    rw [UInt8.xor_assoc, UInt8.xor_self, UInt8.xor_zero]

/-- A mask taken twice is no mask. -/
theorem mask_mask (c : Cipher) (nonce bytes : List UInt8) :
    mask c nonce (mask c nonce bytes) = bytes := by
  have h : (mask c nonce bytes).length = bytes.length := length_mask c nonce bytes
  unfold mask at h ⊢
  rw [h]
  exact zipWith_xor_cancel _ _ (by rw [length_stream]; omega)

theorem length_tag (c : Cipher) (nonce masked : List UInt8) :
    (tag c nonce masked).length = tagSize := by
  simp [tag, tagSize, Block.size]

/-- Opening gives a text back just when sealing it gives what was opened. -/
theorem openSealed_eq_some_iff {c : Cipher} {nonce sealedText plain : List UInt8} :
    openSealed c nonce sealedText = some plain ↔ sealedText = sealText c nonce plain := by
  constructor
  · intro h
    unfold openSealed at h
    split at h
    · cases h
    · dsimp only at h
      split at h
      · next hl ht =>
        have hm := Option.some.inj h
        simp only [sealText]
        rw [← hm, mask_mask, ← ht, List.take_append_drop]
      · cases h
  · rintro rfl
    simp only [openSealed, sealText, List.length_append, length_tag]
    rw [if_neg (by omega), Nat.add_sub_cancel, List.take_left', List.drop_left']
    · rw [if_pos rfl, mask_mask]
    · rfl
    · rfl

end KitchenFlow.Gcm
