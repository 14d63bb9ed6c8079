import KitchenFlow.Text.Bytes
import Mathlib.Data.List.Induction
import Mathlib.Data.String.Basic

/-!
# Texts as bytes

A text is kept as the bytes of its characters in UTF-8, one behind the other. The encoding keeps the
order: the bytes of a lesser character are less at the first place at which they differ, and there
always is one, as no character's bytes begin those of another. So texts are ordered by their
characters just as their bytes are.

    Text.toList_toUTF8       the bytes of a text are those of its characters
    Text.characters_toUTF8   they are taken apart into them
    Text.lt_iff_bytes        a text is less than another if its bytes are

Bytes less than 128 are characters by themselves and never part of others, so a text can be cut in
front of them.

    Text.exists_of_toUTF8_eq_append   a text whose bytes end in such bytes
-/

namespace KitchenFlow.Text

/-- The bytes of an array, in order. -/
theorem toList_byteArray (b : ByteArray) : b.toList = b.data.toList := by
  have hloop (i : Nat) (r : List UInt8) :
      ByteArray.toList.loop b i r = r.reverse ++ b.data.toList.drop i := by
    induction hn : b.size - i generalizing i r with
    | zero =>
      have hi : b.data.toList.length ≤ i := Nat.le_of_sub_eq_zero hn
      rw [ByteArray.toList.loop, if_neg (by omega), List.drop_eq_nil_of_le hi, List.append_nil]
    | succ n ih =>
      have hi : i < b.data.toList.length := Nat.lt_of_sub_eq_succ hn
      have hget : b.get! i = b.data.toList[i] := getElem!_pos b.data i hi
      rw [ByteArray.toList.loop, if_pos (by omega), ih (i + 1) _ (by omega), hget,
        List.drop_eq_getElem_cons hi, List.reverse_cons, List.append_assoc, List.singleton_append]
  exact hloop 0 []

/-- A text is read back from its bytes. -/
theorem fromUTF8?_toUTF8 (s : String) : String.fromUTF8? ⟨s.toUTF8.toList.toArray⟩ = some s := by
  rw [toList_byteArray, Array.toArray_toList]
  exact dif_pos s.isValidUTF8

theorem toList_utf8Encode (cs : List Char) :
    cs.utf8Encode.data.toList = cs.flatMap String.utf8EncodeChar := by
  induction cs with
  | nil => rfl
  | cons c cs ih =>
    rw [List.utf8Encode_cons, List.utf8Encode_singleton, ByteArray.toList_data_append,
      List.toList_data_toByteArray, ih, List.flatMap_cons]

/-- The bytes of a text are those of its characters. -/
theorem toList_toUTF8 (s : String) :
    s.toUTF8.toList = s.toList.flatMap String.utf8EncodeChar := by
  rw [toList_byteArray, ← toList_utf8Encode, String.utf8Encode_toList]
  rfl

/-- The bytes of a text of characters of one byte each. -/
theorem toUTF8_ofList {bytes : List UInt8} (h : ∀ b ∈ bytes, b < 128) :
    (String.ofList (bytes.map fun b => Char.ofNat b.toNat)).toUTF8.toList = bytes := by
  rw [toList_toUTF8, String.toList_ofList]
  induction bytes with
  | nil => rfl
  | cons b rest ih =>
    obtain ⟨hb, hrest⟩ := List.forall_mem_cons.1 h
    have hchar : String.utf8EncodeChar (Char.ofNat b.toNat) = [b] := by
      -- there are few enough characters to go through them all
      have hall : ∀ m : Fin 128,
          String.utf8EncodeChar (Char.ofNat m.val) = [UInt8.ofNat m.val] := by decide
      have hb : b.toNat < 128 := hb
      simpa using hall ⟨b.toNat, hb⟩
    rw [List.map_cons, List.flatMap_cons, hchar, ih hrest, List.singleton_append]

theorem utf8EncodeChar_ne_nil (c : Char) : String.utf8EncodeChar c ≠ [] := by
  unfold String.utf8EncodeChar
  dsimp only
  split_ifs <;> exact List.cons_ne_nil _ _

/-- The bytes of a character begin with it. -/
theorem firstChar?_append (ch : Char) (l : List UInt8) :
    firstChar? (String.utf8EncodeChar ch ++ l) = some ch := by
  have hlength : (String.utf8EncodeChar ch).length ≤ 4 := by
    rw [String.length_utf8EncodeChar]
    exact Char.utf8Size_le_four ch
  rw [firstChar?, List.take_append, List.take_of_length_le hlength, List.toByteArray_append]
  exact ByteArray.utf8DecodeChar?_utf8EncodeChar_append

theorem characters_append (l m : List UInt8) : characters l.length (l ++ m) = characters 0 m := by
  induction l with
  | nil => rfl
  | cons b l ih => exact ih

/-- The bytes of a text are taken apart into its characters. -/
theorem characters_toUTF8 (s : String) : characters 0 s.toUTF8.toList = s.toList.map some := by
  rw [toList_toUTF8]
  induction s.toList with
  | nil => rfl
  | cons ch cs ih =>
    obtain ⟨b, rest, hb⟩ := List.exists_cons_of_ne_nil (utf8EncodeChar_ne_nil ch)
    have hfirst := firstChar?_append ch (cs.flatMap String.utf8EncodeChar)
    have hrest : ch.utf8Size - 1 = rest.length := by
      rw [← String.length_utf8EncodeChar, hb, List.length_cons, Nat.add_sub_cancel]
    rw [hb, List.cons_append] at hfirst
    rw [List.flatMap_cons, hb, List.cons_append, characters, hfirst]
    dsimp only
    rw [hrest, characters_append, ih, List.map_cons]

/-! ## The order of texts -/

/-- Bytes given by numbers are compared as the numbers are. -/
theorem ofNat_lt_iff {m n : Nat} (hm : m < 256) (hn : n < 256) :
    UInt8.ofNat m < UInt8.ofNat n ↔ m < n := by
  rw [UInt8.lt_iff_toNat_lt, UInt8.toNat_ofNat_of_lt' hm, UInt8.toNat_ofNat_of_lt' hn]

theorem ofNat_inj {m n : Nat} (hm : m < 256) (hn : n < 256) :
    UInt8.ofNat m = UInt8.ofNat n ↔ m = n := by
  rw [← UInt8.toNat_inj, UInt8.toNat_ofNat_of_lt' hm, UInt8.toNat_ofNat_of_lt' hn]

/-- The bytes of a lesser character are less, whatever follows. -/
theorem utf8EncodeChar_append_lt {c d : Char} (h : c < d) (l m : List UInt8) :
    String.utf8EncodeChar c ++ l < String.utf8EncodeChar d ++ m := by
  have hlt : c.val.toNat < d.val.toNat := h
  have hd : d.val.toNat < 0x110000 := by
    rcases d.valid with hd | ⟨-, hd⟩ <;> omega
  unfold String.utf8EncodeChar
  dsimp only
  generalize c.val.toNat = a at hlt
  generalize d.val.toNat = b at hlt hd
  have hthird (n : Nat) : n / 4096 = n / 64 / 64 := by omega
  have hfourth (n : Nat) : n / 262144 = n / 64 / 64 / 64 := by omega
  rw [hthird, hthird, hfourth, hfourth]
  split_ifs <;>
    simp (disch := omega) only [List.cons_append, List.nil_append, List.cons_lt_cons_iff,
      ofNat_lt_iff, ofNat_inj] <;>
    omega

/-- The bytes of lesser characters are less. -/
theorem flatMap_utf8EncodeChar_lt {l m : List Char} (h : l < m) :
    l.flatMap String.utf8EncodeChar < m.flatMap String.utf8EncodeChar := by
  induction h with
  | @nil d m =>
    obtain ⟨b, bytes, hb⟩ := List.exists_cons_of_ne_nil (utf8EncodeChar_ne_nil d)
    rw [List.flatMap_nil, List.flatMap_cons, hb]
    exact List.nil_lt_cons _ _
  | rel hcd => exact utf8EncodeChar_append_lt hcd _ _
  | cons _ ih => exact List.append_left_lt ih

/-- A text is less than another exactly if its bytes are. -/
theorem lt_iff_bytes {s t : String} : s < t ↔ s.toUTF8.toList < t.toUTF8.toList := by
  have hbytes {s t : String} (h : s < t) : s.toUTF8.toList < t.toUTF8.toList := by
    rw [toList_toUTF8, toList_toUTF8]
    exact flatMap_utf8EncodeChar_lt (String.lt_iff.1 h)
  refine ⟨hbytes, fun h => ?_⟩
  rcases lt_trichotomy s t with hlt | rfl | hgt
  · exact hlt
  · exact (List.lt_irrefl _ h).elim
  · exact (List.lt_asymm h (hbytes hgt)).elim

/-! ## Characters of one byte -/

/-- Only a character of one byte ends in a byte less than 128. -/
theorem utf8EncodeChar_eq_concat {c : Char} {l : List UInt8} {b : UInt8}
    (h : String.utf8EncodeChar c = l ++ [b]) (hb : b < 128) : l = [] ∧ c = Char.ofNat b.toNat := by
  have hfar (n : Nat) (hn : UInt8.ofNat (n % 64 + 128) = b) : False := by
    have hsize : n % 64 + 128 < 256 := by omega
    have hb : b.toNat < 128 := hb
    rw [← hn, UInt8.toNat_ofNat_of_lt' hsize] at hb
    omega
  have hlast := congrArg List.getLast? h
  rw [List.getLast?_concat] at hlast
  unfold String.utf8EncodeChar at h hlast
  dsimp only at h hlast
  split_ifs at h hlast with hone
  · have hlength := congrArg List.length h
    rw [List.length_singleton, List.length_append, List.length_singleton] at hlength
    obtain rfl : l = [] := List.length_eq_zero_iff.1 (by omega)
    obtain ⟨rfl, -⟩ := List.cons.inj h
    have hsize : c.val.toNat < 256 := by omega
    rw [UInt8.toNat_ofNat_of_lt' hsize]
    exact ⟨rfl, (Char.ofNat_toNat c).symm⟩
  · exact (hfar _ (Option.some.inj hlast)).elim
  · exact (hfar _ (Option.some.inj hlast)).elim
  · exact (hfar _ (Option.some.inj hlast)).elim

/-- A text whose bytes end in bytes less than 128 ends in the characters that these are. -/
theorem exists_of_toUTF8_eq_append {s : String} {l ending : List UInt8}
    (hending : ∀ b ∈ ending, b < 128) (h : s.toUTF8.toList = l ++ ending) :
    ∃ t : String, t.toUTF8.toList = l ∧
      s = t ++ String.ofList (ending.map fun b => Char.ofNat b.toNat) := by
  induction ending using List.reverseRecOn generalizing s with
  | nil => exact ⟨s, by simpa using h, by simp⟩
  | append_singleton ending b ih =>
    obtain ⟨hrest, hb⟩ := List.forall_mem_append.1 hending
    rw [← List.append_assoc, toList_toUTF8] at h
    rcases List.eq_nil_or_concat s.toList with hnil | ⟨cs, c, hcs⟩
    · rw [hnil] at h
      simp at h
    · rw [List.concat_eq_append] at hcs
      rw [hcs, List.flatMap_append, List.flatMap_singleton] at h
      obtain ⟨bytes, last, hc⟩ :=
        (List.eq_nil_or_concat _).resolve_left (utf8EncodeChar_ne_nil c)
      rw [List.concat_eq_append] at hc
      rw [hc, ← List.append_assoc] at h
      obtain ⟨hinit, hlast⟩ := List.append_inj' h rfl
      obtain rfl := (List.cons.inj hlast).1
      obtain ⟨rfl, rfl⟩ := utf8EncodeChar_eq_concat hc (hb _ (List.mem_singleton_self _))
      rw [List.append_nil, ← String.toList_ofList (l := cs), ← toList_toUTF8] at hinit
      obtain ⟨t, ht, heq⟩ := ih hrest hinit
      refine ⟨t, ht, ?_⟩
      rw [← String.toList_inj, hcs, ← String.toList_ofList (l := cs), heq]
      simp

end KitchenFlow.Text
