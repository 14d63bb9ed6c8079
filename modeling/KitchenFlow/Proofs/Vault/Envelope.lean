import KitchenFlow.Proofs.Fallible
import KitchenFlow.Proofs.Vault
import KitchenFlow.Text.Case
import Mathlib.Data.List.TakeWhile

/-!
# Exactly the envelopes

A vault opens what it has sealed, and nothing else. Hexadecimal text may be written with letters of
either case, so one sealed text has several envelopes; they are those that become, with small
letters, what the vault itself writes:

    Hex.decode_eq_ok_iff   Hex.decode text = .ok bytes ↔ Text.lower text = Hex.encode bytes
    Vault.decrypt_exact    v.decrypt text = .ok plain ↔
                             ∃ nonce, nonce.length = 16 ∧ Text.lower text = v.encrypt nonce plain

Each layer of an envelope has a biconditional of its own: hexadecimal text, the cut at the colon,
the seal (`Gcm.openSealed_eq_some_iff`), and the bytes of a text.
-/

namespace KitchenFlow

open Fallible

/-! ## Small letters -/

namespace Text

theorem toNat_toLower (c : Char) :
    c.toLower.toNat = if 65 ≤ c.toNat ∧ c.toNat ≤ 90 then c.toNat + 32 else c.toNat := by
  have hrange : (c.val ≥ 'A'.val ∧ c.val ≤ 'Z'.val) ↔ (65 ≤ c.toNat ∧ c.toNat ≤ 90) := Iff.rfl
  unfold Char.toLower
  split
  · next h =>
    have hle : c.val.toNat ≤ 90 := (hrange.1 h).2
    have hstep : ('a'.val - 'A'.val).toNat = 32 := by decide
    rw [if_pos (hrange.1 h)]
    show (c.val + ('a'.val - 'A'.val)).toNat = c.val.toNat + 32
    rw [UInt32.toNat_add, hstep, Nat.mod_eq_of_lt (by omega)]
  · next h => rw [if_neg (mt hrange.2 h)]

/-- No letter becomes a colon. -/
theorem toLower_eq_colon_iff {c : Char} : c.toLower = ':' ↔ c = ':' := by
  have hcolon : ':'.toNat = 58 := rfl
  rw [← Char.toNat_inj, ← Char.toNat_inj, toNat_toLower, hcolon]
  split <;> omega

theorem toList_lower (s : String) : (lower s).toList = s.toList.map Char.toLower :=
  String.toList_ofList

theorem lower_append (s t : String) : lower (s ++ t) = lower s ++ lower t := by
  simp only [lower, String.toList_append, List.map_append, String.ofList_append]

/-- A byte with its letter made small, if it is one. -/
def lowerByte (b : UInt8) : UInt8 := if 0x41 ≤ b ∧ b ≤ 0x5A then b + 0x20 else b

theorem lowerByte_lt_iff {b : UInt8} : lowerByte b < 128 ↔ b < 128 := by
  have hall : ∀ m : Fin 256, lowerByte (UInt8.ofNat m.val) < 128 ↔ UInt8.ofNat m.val < 128 := by
    decide +kernel
  simpa using hall ⟨b.toNat, b.toNat_lt⟩

/-- The text of bytes that are characters by themselves. -/
def ofBytes (bytes : List UInt8) : String := String.ofList (bytes.map fun b => Char.ofNat b.toNat)

theorem toUTF8_ofBytes {bytes : List UInt8} (h : ∀ b ∈ bytes, b < 128) :
    (ofBytes bytes).toUTF8.toList = bytes :=
  toUTF8_ofList h

/-- A text is known by its bytes. -/
theorem toUTF8_toList_inj {s t : String} : s.toUTF8.toList = t.toUTF8.toList ↔ s = t := by
  refine ⟨fun h => ?_, fun h => h ▸ rfl⟩
  rw [toList_byteArray, toList_byteArray, Array.toList_inj] at h
  exact String.toByteArray_inj.1 (ByteArray.ext h)

/-- A text of small characters is the text of its bytes. -/
theorem exists_eq_ofBytes {s : String} (h : ∀ c ∈ s.toList, c.toNat < 128) :
    ∃ bytes, (∀ b ∈ bytes, b < 128) ∧ s = ofBytes bytes := by
  refine ⟨s.toList.map fun c => UInt8.ofNat c.toNat, ?_, ?_⟩
  · intro b hb
    obtain ⟨c, hc, rfl⟩ := List.mem_map.1 hb
    have hlt := h c hc
    show (UInt8.ofNat c.toNat).toNat < 128
    rw [UInt8.toNat_ofNat', Nat.mod_eq_of_lt (by omega)]
    exact hlt
  · rw [ofBytes, ← String.toList_inj, String.toList_ofList, List.map_map]
    refine (List.map_id _).symm.trans (List.map_congr_left fun c hc => ?_)
    have hlt := h c hc
    show c = Char.ofNat (UInt8.ofNat c.toNat).toNat
    rw [UInt8.toNat_ofNat', Nat.mod_eq_of_lt (by omega), Char.ofNat_toNat]

theorem lower_ofBytes {bytes : List UInt8} (h : ∀ b ∈ bytes, b < 128) :
    lower (ofBytes bytes) = ofBytes (bytes.map lowerByte) := by
  have hall : ∀ m : Fin 128, (Char.ofNat m.val).toLower =
      Char.ofNat (lowerByte (UInt8.ofNat m.val)).toNat := by decide
  rw [ofBytes, ofBytes, ← String.toList_inj, toList_lower, String.toList_ofList,
    String.toList_ofList, List.map_map, List.map_map]
  refine List.map_congr_left fun b hb => ?_
  have hb : b.toNat < 128 := h b hb
  simpa using hall ⟨b.toNat, hb⟩

/-- Whether a text is written with certain bytes, but for the case of letters, is seen from its
bytes. -/
theorem lower_eq_ofBytes_iff {s : String} {bytes : List UInt8} (h : ∀ b ∈ bytes, b < 128) :
    lower s = ofBytes bytes ↔ s.toUTF8.toList.map lowerByte = bytes := by
  constructor
  · intro hs
    have hsmall : ∀ c ∈ s.toList, c.toNat < 128 := by
      intro c hc
      have hmem : c.toLower ∈ (ofBytes bytes).toList := by
        rw [← hs, toList_lower]
        exact List.mem_map_of_mem hc
      rw [ofBytes, String.toList_ofList] at hmem
      obtain ⟨b, hb, hbc⟩ := List.mem_map.1 hmem
      have hlt : b.toNat < 128 := h b hb
      have hchar : (Char.ofNat b.toNat).toNat = b.toNat := by
        have hall : ∀ m : Fin 128, (Char.ofNat m.val).toNat = m.val := by decide
        exact hall ⟨b.toNat, hlt⟩
      have hlower := toNat_toLower c
      rw [← hbc, hchar] at hlower
      split at hlower <;> omega
    obtain ⟨own, hown, rfl⟩ := exists_eq_ofBytes hsmall
    have hmap : ∀ b ∈ own.map lowerByte, b < 128 :=
      List.forall_mem_map.2 fun b hb => lowerByte_lt_iff.2 (hown b hb)
    rw [lower_ofBytes hown, ← toUTF8_toList_inj, toUTF8_ofBytes hmap, toUTF8_ofBytes h] at hs
    rw [toUTF8_ofBytes hown, hs]
  · rintro rfl
    have hown : ∀ b ∈ s.toUTF8.toList, b < 128 := fun b hb =>
      lowerByte_lt_iff.1 (h _ (List.mem_map_of_mem hb))
    have hs : s = ofBytes s.toUTF8.toList := toUTF8_toList_inj.1 (toUTF8_ofBytes hown).symm
    exact (congrArg lower hs).trans (lower_ofBytes hown)

/-! ## Cutting at a colon -/

/-- A text is cut at the first occurrence of a character. -/
theorem cutFirst?_eq_some_iff {c : Char} {s before after : String} :
    cutFirst? c s = some (before, after) ↔
      s = before ++ String.singleton c ++ after ∧ c ∉ before.toList := by
  constructor
  · intro h
    unfold cutFirst? at h
    dsimp only at h
    split at h
    · cases h
    · next d rest hd =>
      cases h
      -- what is dropped begins with the character that the cut is made at
      have hdc : d = c := by
        have hhead := List.head?_dropWhile_not (fun x => decide (x ≠ c)) s.toList
        rw [hd] at hhead
        simpa using hhead
      subst hdc
      refine ⟨?_, fun hc => ?_⟩
      · rw [← String.toList_inj]
        simp only [String.toList_append, String.toList_ofList, String.toList_singleton,
          List.append_assoc, List.singleton_append]
        rw [← hd, List.takeWhile_append_dropWhile]
      · rw [String.toList_ofList] at hc
        simpa using List.mem_takeWhile_imp hc
  · rintro ⟨rfl, hc⟩
    have hne : ∀ d ∈ before.toList, d ≠ c := fun d hd hdc => hc (hdc ▸ hd)
    have hcut := cutFirst?_append hne after
    rwa [String.ofList_toList] at hcut

/-- A text that has a colon with small letters has it there. -/
theorem lower_eq_append_iff {s before after : String} :
    lower s = before ++ ":" ++ after ↔
      ∃ a b, s = a ++ ":" ++ b ∧ lower a = before ∧ lower b = after := by
  constructor
  · intro h
    rw [← String.toList_inj, toList_lower, String.toList_append, String.toList_append] at h
    obtain ⟨front, b, hs, hfront, hb⟩ := List.map_eq_append_iff.1 h
    obtain ⟨a, mid, rfl, ha, hmid⟩ := List.map_eq_append_iff.1 hfront
    obtain ⟨c, rfl, hc⟩ : ∃ c, mid = [c] ∧ c.toLower = ':' := by
      simpa [List.map_eq_cons_iff] using hmid
    obtain rfl := toLower_eq_colon_iff.1 hc
    refine ⟨String.ofList a, String.ofList b, ?_, ?_, ?_⟩
    · rw [← String.toList_inj, hs]
      simp
    · rw [← String.toList_inj, toList_lower, String.toList_ofList, ha]
    · rw [← String.toList_inj, toList_lower, String.toList_ofList, hb]
  · rintro ⟨a, b, rfl, rfl, rfl⟩
    rw [lower_append, lower_append]
    rfl

/-- A text is what its bytes are read as. -/
theorem fromUTF8?_eq_some_iff {bytes : List UInt8} {s : String} :
    String.fromUTF8? ⟨bytes.toArray⟩ = some s ↔ bytes = s.toUTF8.toList := by
  constructor
  · intro h
    unfold String.fromUTF8? at h
    split at h
    · cases h
      rw [toList_byteArray]
      rfl
    · cases h
  · rintro rfl
    exact fromUTF8?_toUTF8 s

end Text

/-! ## Hexadecimal text -/

namespace Hex

open Text

/-- A digit is read as the number that is written with it, but for the case of letters. -/
theorem digitValue?_eq_some_iff {b n : UInt8} :
    digitValue? b = some n ↔ n < 16 ∧ lowerByte b = digit n := by
  have hall : ∀ m : Fin 256, digitValue? (lowerByte (UInt8.ofNat m.val)) =
      digitValue? (UInt8.ofNat m.val) ∧
      ∀ n ∈ digitValue? (UInt8.ofNat m.val), n < 16 ∧ lowerByte (UInt8.ofNat m.val) = digit n := by
    decide +kernel
  have hb := hall ⟨b.toNat, b.toNat_lt⟩
  simp only [UInt8.ofNat_toNat] at hb
  constructor
  · exact hb.2 n
  · rintro ⟨hn, hdigit⟩
    rw [← hb.1, hdigit, digitValue?_digit n hn]

theorem div_mul_add {h l : UInt8} (hh : h < 16) (hl : l < 16) :
    (h * 16 + l) / 16 = h ∧ (h * 16 + l) % 16 = l := by
  have hh : h.toNat < 16 := hh
  have hl : l.toNat < 16 := hl
  constructor <;>
    · apply UInt8.toNat_inj.1
      simp only [UInt8.toNat_div, UInt8.toNat_mod, UInt8.toNat_add, UInt8.toNat_mul,
        UInt8.reduceToNat]
      omega

/-- A byte is written with two digits. -/
theorem cons_eq_encodeBytes_iff {high low : UInt8} {text bytes : List UInt8} :
    lowerByte high :: lowerByte low :: text = encodeBytes bytes ↔
      ∃ h l rest, digitValue? high = some h ∧ digitValue? low = some l ∧
        text = encodeBytes rest ∧ bytes = (h * 16 + l) :: rest := by
  constructor
  · intro heq
    cases bytes with
    | nil => cases heq
    | cons b rest =>
      obtain ⟨hhigh, heq⟩ := List.cons.inj heq
      obtain ⟨hlow, htext⟩ := List.cons.inj heq
      exact ⟨b / 16, b % 16, rest, digitValue?_eq_some_iff.2 ⟨div_lt b, hhigh⟩,
        digitValue?_eq_some_iff.2 ⟨mod_lt b, hlow⟩, htext, by rw [halves]⟩
  · rintro ⟨h, l, rest, hhigh, hlow, rfl, rfl⟩
    obtain ⟨hh, hhigh⟩ := digitValue?_eq_some_iff.1 hhigh
    obtain ⟨hl, hlow⟩ := digitValue?_eq_some_iff.1 hlow
    obtain ⟨hdiv, hmod⟩ := div_mul_add hh hl
    show _ = [digit ((h * 16 + l) / 16), digit ((h * 16 + l) % 16)] ++ encodeBytes rest
    rw [hdiv, hmod, hhigh, hlow]
    rfl

/-- Pairs of digits are read as the bytes that are written with them. -/
theorem decodePairs_eq_ok_iff {text bytes : List UInt8} {index : Nat}
    (heven : text.length % 2 = 0) :
    decodePairs index text = .ok bytes ↔ text.map lowerByte = encodeBytes bytes := by
  fun_induction decodePairs index text generalizing bytes with
  | case1 index high low text hhigh =>
    rw [List.map_cons, List.map_cons, cons_eq_encodeBytes_iff, hhigh]
    simp
  | case2 index high low text h hlow hhigh =>
    rw [List.map_cons, List.map_cons, cons_eq_encodeBytes_iff, hlow]
    simp
  | case3 index high low text h l hhigh hlow ih =>
    have heven : text.length % 2 = 0 := by
      rw [List.length_cons, List.length_cons] at heven
      omega
    rw [List.map_cons, List.map_cons, cons_eq_encodeBytes_iff, hhigh, hlow, map_eq_ok_iff]
    simp only [ih heven, Option.some.injEq]
    constructor
    · rintro ⟨rest, hrest, rfl⟩
      exact ⟨h, l, rest, rfl, rfl, hrest, rfl⟩
    · rintro ⟨_, _, rest, rfl, rfl, hrest, rfl⟩
      exact ⟨rest, hrest, rfl⟩
  | case4 text index hpair =>
    -- a text of even length that has no first pair is empty
    match text, hpair, heven with
    | [], _, _ =>
      cases bytes with
      | nil => exact ⟨fun _ => rfl, fun _ => rfl⟩
      | cons b rest => exact ⟨fun h => (by cases h), fun h => (by cases h)⟩
    | [_], _, heven => cases heven
    | high :: low :: text, hpair, _ => exact (hpair high low text rfl).elim

theorem decodeBytes_eq_ok_iff {text bytes : List UInt8} :
    decodeBytes text = .ok bytes ↔ text.map lowerByte = encodeBytes bytes := by
  unfold decodeBytes
  split
  · next hodd =>
    refine ⟨fun h => (by cases h), fun h => ?_⟩
    have hlength := congrArg List.length h
    rw [List.length_map, length_encodeBytes] at hlength
    omega
  · next hodd => exact decodePairs_eq_ok_iff (by omega)

/-- Hexadecimal text is read as the bytes that are written so, but for the case of letters. -/
theorem decode_eq_ok_iff {text : String} {bytes : List UInt8} :
    decode text = .ok bytes ↔ lower text = encode bytes := by
  rw [decode, decodeBytes_eq_ok_iff]
  exact (lower_eq_ofBytes_iff fun b hb => (mem_encodeBytes hb).1).symm

/-- A text with a colon in it is no hexadecimal text. -/
theorem colon_not_mem {text : String} {bytes : List UInt8} (h : decode text = .ok bytes) :
    ':' ∉ text.toList := by
  intro hc
  have hmem : ':' ∈ (encode bytes).toList := by
    rw [← decode_eq_ok_iff.1 h, toList_lower]
    exact List.mem_map_of_mem hc
  rw [encode, String.toList_ofList] at hmem
  obtain ⟨b, hb, hcolon⟩ := List.mem_map.1 hmem
  exact ofNat_ne_colon hb hcolon

end Hex

/-! ## Envelopes -/

namespace Vault

open Text

/-- A part of an envelope is read as the bytes that are written so. -/
theorem part_eq_ok_iff {fault : Hex.HexError → EnvelopeFault} {text : String}
    {bytes : List UInt8} : part fault text = .ok bytes ↔ lower text = Hex.encode bytes := by
  rw [part, ← Hex.decode_eq_ok_iff]
  cases Hex.decode text <;> simp [Except.mapError]

/-- An envelope is opened when it consists of the parts that the vault writes for the text in it. -/
theorem openEnvelope_eq_ok_iff {v : Vault} {text plain : String} :
    v.openEnvelope text = .ok plain ↔
      ∃ nonceText bodyText nonce, text = nonceText ++ ":" ++ bodyText ∧
        lower nonceText = Hex.encode nonce ∧ nonce.length = nonceSize ∧
        lower bodyText = Hex.encode (Gcm.sealText v.cipher nonce plain.toUTF8.toList) := by
  constructor
  · intro h
    unfold openEnvelope at h
    split at h
    · cases h
    · next nonceText bodyText hcut =>
      obtain ⟨nonce, hnonce, h⟩ := bind_eq_ok_iff.1 h
      split at h
      · cases h
      · next hsize =>
        obtain ⟨body, hbody, h⟩ := bind_eq_ok_iff.1 h
        split at h
        · cases h
        · next bytes hopen =>
          split at h
          · cases h
          · next found htext =>
            cases h
            obtain rfl := fromUTF8?_eq_some_iff.1 htext
            obtain rfl := Gcm.openSealed_eq_some_iff.1 hopen
            exact ⟨nonceText, bodyText, nonce, (cutFirst?_eq_some_iff.1 hcut).1,
              part_eq_ok_iff.1 hnonce, not_not.1 hsize, part_eq_ok_iff.1 hbody⟩
  · rintro ⟨nonceText, bodyText, nonce, rfl, hnonce, hsize, hbody⟩
    have hcut : cutFirst? ':' (nonceText ++ ":" ++ bodyText) = some (nonceText, bodyText) :=
      cutFirst?_eq_some_iff.2 ⟨rfl, Hex.colon_not_mem (Hex.decode_eq_ok_iff.2 hnonce)⟩
    have hopen : Gcm.openSealed v.cipher nonce
        (Gcm.sealText v.cipher nonce plain.toUTF8.toList) = some plain.toUTF8.toList :=
      Gcm.openSealed_eq_some_iff.2 rfl
    unfold openEnvelope
    rw [hcut]
    simp only [part_eq_ok_iff.2 hnonce, part_eq_ok_iff.2 hbody, bind, Except.bind, hsize, hopen,
      fromUTF8?_toUTF8]
    rfl

/-- An envelope is opened when it becomes, with small letters, one that the vault writes. -/
theorem decrypt_eq_ok_iff {v : Vault} {text plain : String} :
    v.decrypt text = .ok plain ↔
      ∃ nonce, nonce.length = nonceSize ∧ lower text = v.encrypt nonce plain := by
  have hok : v.decrypt text = .ok plain ↔ v.openEnvelope text = .ok plain := by
    unfold decrypt
    cases v.openEnvelope text <;> simp [Except.mapError]
  rw [hok, openEnvelope_eq_ok_iff]
  constructor
  · rintro ⟨nonceText, bodyText, nonce, htext, hnonce, hsize, hbody⟩
    exact ⟨nonce, hsize, lower_eq_append_iff.2 ⟨nonceText, bodyText, htext, hnonce, hbody⟩⟩
  · rintro ⟨nonce, hsize, htext⟩
    obtain ⟨nonceText, bodyText, htext, hnonce, hbody⟩ := lower_eq_append_iff.1 htext
    exact ⟨nonceText, bodyText, nonce, htext, hnonce, hsize, hbody⟩

/-- A vault that does not open a text says that it failed to decrypt it. -/
theorem exists_decrypt_eq_error_iff {v : Vault} {text : String} :
    (∃ fault, v.decrypt text = .error (.decryption fault)) ↔
      ∀ plain, v.decrypt text ≠ .ok plain := by
  unfold decrypt
  cases v.openEnvelope text <;> simp [Except.mapError]

/-- A vault opens exactly the envelopes that become, with small letters, what it writes for a text
and a nonce, and gives that text; with any other text it fails to decrypt. -/
theorem decrypt_exact (v : Vault) (text : String) :
    (∀ plain, v.decrypt text = .ok plain ↔
      ∃ nonce, nonce.length = nonceSize ∧ lower text = v.encrypt nonce plain) ∧
    ((∃ fault, v.decrypt text = .error (.decryption fault)) ↔
      ∀ plain nonce, nonce.length = nonceSize → lower text ≠ v.encrypt nonce plain) := by
  refine ⟨fun plain => decrypt_eq_ok_iff, exists_decrypt_eq_error_iff.trans ?_⟩
  simp only [ne_eq, decrypt_eq_ok_iff, not_exists, not_and]

end Vault
end KitchenFlow
