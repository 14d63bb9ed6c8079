import KitchenFlow.Proofs.Text.Bytes
import KitchenFlow.Vault.Envelope
import Mathlib.Data.List.Basic

/-!
# Opening envelopes

What a vault has sealed under a nonce of the right size, it opens again:

    Vault.decrypt_encrypt   v.decrypt (v.encrypt nonce plain) = .ok plain

That sealing and opening are inverse is a matter of the cipher. The rest is about how envelopes are
written: in characters of one byte each, with the first colon right behind the nonce.
-/

namespace KitchenFlow

/-! ## Cutting -/

namespace Text

/-- A text is cut at a character behind others. -/
theorem cutFirst?_append {before : List Char} {c : Char} (h : ∀ d ∈ before, d ≠ c)
    (after : String) :
    cutFirst? c (String.ofList before ++ String.singleton c ++ after) =
      some (String.ofList before, after) := by
  have hall : ∀ d ∈ before, (decide (d ≠ c)) = true := fun d hd => decide_eq_true (h d hd)
  simp only [cutFirst?, String.toList_append, String.toList_ofList, String.toList_singleton,
    List.append_assoc, List.singleton_append, List.takeWhile_append_of_pos hall,
    List.dropWhile_append_of_pos hall]
  simp

end Text

/-! ## Hexadecimal text -/

namespace Hex

/-- A digit is a character of one byte, and no colon. -/
theorem digit_lt (n : UInt8) (h : n < 16) : digit n < 128 ∧ digit n ≠ 0x3a := by
  have hall : ∀ m : Fin 16, digit (UInt8.ofNat m.val) < 128 ∧ digit (UInt8.ofNat m.val) ≠ 0x3a := by
    decide
  have hn : n.toNat < 16 := h
  simpa using hall ⟨n.toNat, hn⟩

theorem mem_encodeBytes {bytes : List UInt8} {b : UInt8} (h : b ∈ encodeBytes bytes) :
    b < 128 ∧ b ≠ 0x3a := by
  obtain ⟨c, -, hb⟩ := List.mem_flatMap.1 h
  simp only [List.mem_cons, List.not_mem_nil, or_false] at hb
  rcases hb with rfl | rfl
  · exact digit_lt _ (div_lt c)
  · exact digit_lt _ (mod_lt c)

/-- No digit is a colon. -/
theorem ofNat_ne_colon {bytes : List UInt8} {b : UInt8} (hb : b ∈ encodeBytes bytes) :
    Char.ofNat b.toNat ≠ ':' := by
  obtain ⟨hlt, hne⟩ := mem_encodeBytes hb
  have hall : ∀ m : Fin 128, UInt8.ofNat m.val ≠ 0x3a → Char.ofNat m.val ≠ ':' := by decide
  have hlt : b.toNat < 128 := hlt
  simpa [hne] using hall ⟨b.toNat, hlt⟩

/-- What was written is read back. -/
theorem decode_encode (bytes : List UInt8) : decode (encode bytes) = .ok bytes := by
  rw [decode, encode, Text.toUTF8_ofList fun b hb => (mem_encodeBytes hb).1,
    decodeBytes_encodeBytes]

/-- There is no colon in hexadecimal text. -/
theorem cutFirst?_encode (bytes : List UInt8) (after : String) :
    Text.cutFirst? ':' (encode bytes ++ ":" ++ after) = some (encode bytes, after) := by
  refine Text.cutFirst?_append (fun c hc => ?_) after
  obtain ⟨b, hb, rfl⟩ := List.mem_map.1 hc
  exact ofNat_ne_colon hb

end Hex

/-! ## Envelopes -/

/-- A vault opens the envelopes that it made. -/
theorem Vault.decrypt_encrypt (v : Vault) {nonce : List UInt8} (h : nonce.length = nonceSize)
    (plain : String) : v.decrypt (v.encrypt nonce plain) = .ok plain := by
  have hopen : Gcm.openSealed v.cipher nonce (Gcm.sealText v.cipher nonce plain.toUTF8.toList) =
      some plain.toUTF8.toList := Gcm.openSealed_eq_some_iff.2 rfl
  unfold decrypt openEnvelope encrypt
  rw [Hex.cutFirst?_encode]
  simp only [part, Hex.decode_encode, Except.mapError, bind, Except.bind, h, hopen,
    Text.fromUTF8?_toUTF8]
  rfl

end KitchenFlow
