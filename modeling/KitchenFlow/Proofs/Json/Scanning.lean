import KitchenFlow.Json.Reader
import KitchenFlow.Proofs.Json.Literals
import KitchenFlow.Proofs.Text

/-!
# Scalars of a text

What a scanner reads depends on the characters at the cursor only, and the cursor behind it has the
characters left that it did not take. So each lemma relates two remainders of a text: if a scalar as
it is written stands in front of something else, the scanner reads the scalar and leaves what stands
behind it.

    Cursor.word_eq        a word
    Cursor.string_quote   a string in quotes
    Cursor.number_text    a number as a literal, if what follows does not belong to it
-/

namespace KitchenFlow

open Json (escapeChar hexDigit)

namespace Cursor

variable {c : Cursor} {ch : Char} {rest : List Char}

theorem rest_next (h : c.rest = ch :: rest) : c.next.rest = rest := by rw [next, h]

theorem rest_skipWhile (p : Char → Bool) (l : List Char) (pos : Position) :
    (skipWhile p l pos).rest = l.dropWhile p := by
  induction l generalizing pos with
  | nil => rfl
  | cons ch l ih =>
    rw [skipWhile, List.dropWhile_cons]
    split
    · exact ih _
    · rfl

/-- Blanks in front of something else are skipped. -/
theorem rest_skipBlanks {blanks : List Char} (h : c.rest = blanks ++ rest)
    (hblanks : ∀ ch ∈ blanks, isBlank ch = true) (hrest : ∀ ch ∈ rest.head?, isBlank ch = false) :
    c.skipBlanks.rest = rest := by
  rw [skipBlanks, rest_skipWhile, h, Text.dropWhile_append hblanks hrest]

/-- A cursor that stands before something else than a blank stays there. -/
theorem rest_skipBlanks_self (h : c.rest = ch :: rest) (hch : isBlank ch = false) :
    c.skipBlanks.rest = ch :: rest := by
  have hnone : c.rest = [] ++ ch :: rest := h
  exact rest_skipBlanks hnone (by simp) (by simpa using hch)

theorem isBlank_of_isDigit (h : Numeral.isDigit ch = true) : isBlank ch = false := by
  rw [← Bool.not_eq_true]
  intro hblank
  simp only [isBlank, Bool.or_eq_true, beq_iff_eq] at hblank
  rcases hblank with ((rfl | rfl) | rfl) | rfl <;> cases h

/-! ## Words -/

theorem word_eq {letters : List Char} (h : c.rest = letters ++ rest) :
    ∃ stop, word letters c = (.ok (), stop) ∧ stop.rest = rest := by
  induction letters generalizing c with
  | nil => exact ⟨c, rfl, h⟩
  | cons w ws ih =>
    obtain ⟨stop, hstop, hrest⟩ := ih (rest_next h)
    refine ⟨stop, ?_, hrest⟩
    rw [word, h]
    dsimp only [List.cons_append]
    rw [if_pos rfl, hstop]

/-! ## Strings -/

theorem hexValue?_hexDigit (n : Nat) : hexValue? (hexDigit n) = some (n % 16) := by
  have hdigit : ∀ k < 16, hexValue? (Nat.digitChar k) = some k := by decide
  exact hdigit _ (Nat.mod_lt _ (by decide))

/-- The escape of a small character, behind its `\u`. -/
theorem hexEscape_eq {n : Nat} (hn : n < 256)
    (h : c.rest = '0' :: '0' :: hexDigit (n / 16) :: hexDigit n :: rest) :
    hexEscape c = (.ok n, ⟨rest, ⟨c.position.line, c.position.column + 4⟩⟩) := by
  have hbytes : ¬ byteCount (List.take 4 ('0' :: '0' :: hexDigit (n / 16) :: hexDigit n :: rest))
      < 4 := by
    show ¬ byteCount ['0', '0', hexDigit (n / 16), hexDigit n] < 4
    have h1 := Char.utf8Size_pos (hexDigit (n / 16))
    have h2 := Char.utf8Size_pos (hexDigit n)
    have h0 : '0'.utf8Size = 1 := rfl
    simp only [byteCount, List.foldl_cons, List.foldl_nil, h0]
    omega
  have hzero : hexValue? '0' = some 0 := rfl
  have hvalue : ((0 * 16 + 0) * 16 + n / 16 % 16) * 16 + n % 16 = n := by omega
  rw [hexEscape, h, if_neg hbytes]
  dsimp only
  rw [hzero, hexValue?_hexDigit, hexValue?_hexDigit]
  dsimp only
  rw [hvalue]

theorem unicodeEscape_eq {n : Nat} (hn : n < 256)
    (h : c.rest = '0' :: '0' :: hexDigit (n / 16) :: hexDigit n :: rest) :
    unicodeEscape c = (.ok (Char.ofNat n), ⟨rest, ⟨c.position.line, c.position.column + 4⟩⟩) := by
  have htrailing : isTrailing n = false := by simp [isTrailing]; omega
  have hleading : isLeading n = false := by simp [isLeading]; omega
  rw [unicodeEscape, hexEscape_eq hn h]
  dsimp only
  rw [htrailing, hleading]
  rfl

/-- What stands behind a backslash for a character. -/
inductive Escape : List Char → Char → Prop where
  | plain {e ch : Char} : plainEscape? e = some ch → Escape [e] ch
  | unicode {ch : Char} : ch.toNat < 256 →
      Escape ['u', '0', '0', hexDigit (ch.toNat / 16), hexDigit ch.toNat] ch

/-- A character is written as an escape or as it is. -/
theorem escapeChar_cases (ch : Char) :
    (∃ text, escapeChar ch = '\\' :: text ∧ Escape text ch) ∨
      escapeChar ch = [ch] ∧ ch ≠ '"' ∧ ch ≠ '\\' ∧ ¬ ch.toNat < 0x20 := by
  unfold escapeChar
  split_ifs with h1 h2 h3 h4 h5 h6 h7 h8
  · exact .inl ⟨_, rfl, .plain (by rw [h1]; rfl)⟩
  · exact .inl ⟨_, rfl, .plain (by rw [h2]; rfl)⟩
  · exact .inl ⟨_, rfl, .plain (by rw [← Char.ofNat_toNat ch, h3]; rfl)⟩
  · exact .inl ⟨_, rfl, .plain (by rw [← Char.ofNat_toNat ch, h4]; rfl)⟩
  · exact .inl ⟨_, rfl, .plain (by rw [h5]; rfl)⟩
  · exact .inl ⟨_, rfl, .plain (by rw [h6]; rfl)⟩
  · exact .inl ⟨_, rfl, .plain (by rw [h7]; rfl)⟩
  · exact .inl ⟨_, rfl, .unicode (by omega)⟩
  · exact .inr ⟨rfl, h1, h2, h8⟩

/-- A character as it is written is read and skipped. -/
theorem exists_stringValue (h : c.rest = escapeChar ch ++ rest) :
    ∃ d : Cursor, d.rest = rest ∧
      (∀ fuel acc, stringValue (fuel + 1) c acc = stringValue fuel d (ch :: acc)) ∧
      ∀ fuel, stringSkip (fuel + 1) c = stringSkip fuel d := by
  rcases escapeChar_cases ch with ⟨text, htext, hescape⟩ | ⟨htext, hquote, hslash, hcontrol⟩
  · rw [htext] at h
    have hnext := rest_next h
    cases hescape with
    | @plain e _ hplain =>
      have hu : e ≠ 'u' := by
        rintro rfl
        cases hplain
      have h : c.rest = '\\' :: e :: rest := h
      have hnext : c.next.rest = e :: rest := hnext
      refine ⟨c.next.next, rest_next hnext, fun fuel acc => ?_, fun fuel => ?_⟩
      · simp only [stringValue, h, hnext, hplain]
      · simp [stringSkip, h, hnext, hplain]
    | unicode hsmall =>
      have hdigits := rest_next hnext
      refine ⟨⟨rest, ⟨c.next.next.position.line, c.next.next.position.column + 4⟩⟩, rfl,
        fun fuel acc => ?_, fun fuel => ?_⟩
      · simp [stringValue, h, hnext, unicodeEscape_eq hsmall hdigits]
      · simp [stringSkip, h, hnext, hexEscape_eq hsmall hdigits]
  · rw [htext] at h
    have h : c.rest = ch :: rest := h
    refine ⟨c.next, rest_next h, fun fuel acc => ?_, fun fuel => ?_⟩
    · simp [stringValue, h, hcontrol]
    · simp [stringSkip, h, hcontrol]

/-- The characters of a string up to its closing quote are read and skipped. -/
theorem exists_string {s : List Char} {fuel : Nat} (acc : List Char)
    (h : c.rest = s.flatMap escapeChar ++ '"' :: rest) (hfuel : s.length < fuel) :
    ∃ stop : Cursor, stop.rest = rest ∧
      stringValue fuel c acc = (.ok (String.ofList (acc.reverse ++ s)), stop) ∧
      stringSkip fuel c = (.ok (), stop) := by
  induction s generalizing c fuel acc with
  | nil =>
    obtain ⟨fuel, rfl⟩ := Nat.exists_eq_add_of_lt hfuel
    refine ⟨c.next, rest_next h, ?_, ?_⟩
    · rw [stringValue, h, List.append_nil]
      rfl
    · rw [stringSkip, h]
      rfl
  | cons ch s ih =>
    obtain ⟨fuel, rfl⟩ := Nat.exists_eq_add_of_lt hfuel
    rw [List.flatMap_cons, List.append_assoc] at h
    obtain ⟨d, hd, hvalue, hskip⟩ := exists_stringValue h
    have hrest : s.length < s.length + 1 + fuel := by omega
    obtain ⟨stop, hstop, hs⟩ := ih (ch :: acc) hd hrest
    refine ⟨stop, hstop, ?_, ?_⟩
    · rw [List.length_cons, hvalue]
      simpa using hs.1
    · rw [List.length_cons, hskip]
      exact hs.2

theorem length_flatMap_escapeChar (s : List Char) : s.length ≤ (s.flatMap escapeChar).length := by
  induction s with
  | nil => exact le_rfl
  | cons ch s ih =>
    have hchar : 0 < (escapeChar ch).length := by
      rcases escapeChar_cases ch with ⟨text, htext, -⟩ | ⟨htext, -⟩ <;> simp [htext]
    rw [List.flatMap_cons, List.length_append, List.length_cons]
    omega

/-- A string in quotes is read. -/
theorem string_quote {s : String} (h : c.rest = (Json.quote s).toList ++ rest) :
    c.string.1.value = .ok s ∧ c.string.2.rest = rest := by
  have htext : c.rest = '"' :: (s.toList.flatMap escapeChar ++ '"' :: rest) := by
    rw [h, Json.quote, String.toList_ofList]
    simp
  have hfuel : s.toList.length < c.rest.length + 1 := by
    have hlength := length_flatMap_escapeChar s.toList
    rw [htext, List.length_cons, List.length_append]
    omega
  obtain ⟨stop, hstop, hvalue, hskip⟩ := exists_string [] (rest_next htext) hfuel
  rw [string]
  dsimp only
  rw [hvalue, hskip]
  exact ⟨congrArg Except.ok String.ofList_toList, hstop⟩

/-! ## Numbers -/

/-- What does not go on with a number. -/
def Ends (rest : List Char) : Prop :=
  ∀ ch ∈ rest.head?, Numeral.isDigit ch = false ∧ ch ≠ '.' ∧ ch ≠ 'e' ∧ ch ≠ 'E'

theorem ends_cons
    (h : Numeral.isDigit ch = false ∧ ch ≠ '.' ∧ ch ≠ 'e' ∧ ch ≠ 'E') (rest : List Char) :
    Ends (ch :: rest) := by
  rintro _ ⟨⟩
  exact h

theorem digits_eq {ds : List Char} (h : c.rest = ds ++ rest)
    (hds : ∀ d ∈ ds, Numeral.isDigit d = true)
    (hrest : ∀ d ∈ rest.head?, Numeral.isDigit d = false) :
    ∃ stop, c.digits = (ds, stop) ∧ stop.rest = rest := by
  refine ⟨skipWhile Numeral.isDigit c.rest c.position, ?_, ?_⟩
  · rw [digits, h, Text.takeWhile_append hds hrest]
  · rw [rest_skipWhile, h, Text.dropWhile_append hds hrest]

theorem wholePart_eq {ds : List Char} (h : c.rest = ds ++ rest)
    (hds : ds = ['0'] ∨ Numeral.Significant ds)
    (hrest : ∀ d ∈ rest.head?, Numeral.isDigit d = false) :
    ∃ stop, c.wholePart = (.ok ds, stop) ∧ stop.rest = rest := by
  rcases hds with rfl | hds
  · have h : c.rest = '0' :: rest := h
    have hnext := rest_next h
    refine ⟨c.next, ?_, hnext⟩
    have hany : rest.head?.any Numeral.isDigit = false := by
      rw [Option.any_eq_false]
      simpa using hrest
    rw [wholePart, h]
    dsimp only
    rw [hnext, hany]
    rfl
  · obtain ⟨stop, hstop, hrest⟩ := digits_eq h hds.isDigit hrest
    obtain ⟨first, ds, rfl⟩ := List.exists_cons_of_ne_nil hds.ne_nil
    have hfirst := hds.isDigit first List.mem_cons_self
    have hne : first ≠ '0' := fun h => hds.head_ne (congrArg some h)
    refine ⟨stop, ?_, hrest⟩
    rw [wholePart, h]
    dsimp only [List.cons_append]
    rw [hfirst, hstop, if_neg hne]
    rfl

theorem fractionPart_eq {l : Literal} (hl : l.Proper) (h : c.rest = l.fractionText ++ rest)
    (hrest : ∀ ch ∈ rest.head?, Numeral.isDigit ch = false ∧ ch ≠ '.') :
    ∃ stop, c.fractionPart = (.ok l.fraction, stop) ∧ stop.rest = rest := by
  rw [Literal.fractionText] at h
  cases hfraction : l.fraction with
  | none =>
    rw [hfraction] at h
    have h : c.rest = rest := h
    refine ⟨c, ?_, h⟩
    rw [fractionPart]
    split
    · next hpoint =>
      rw [h] at hpoint
      exact ((hrest '.' (by rw [hpoint]; rfl)).2 rfl).elim
    · rfl
  | some ds =>
    rw [hfraction] at h
    have h : c.rest = '.' :: (ds ++ rest) := h
    obtain ⟨hne, hds⟩ := hl.fraction ds hfraction
    obtain ⟨stop, hstop, hrest⟩ := digits_eq (rest_next h) hds fun d hd => (hrest d hd).1
    obtain ⟨d, ds, rfl⟩ := List.exists_cons_of_ne_nil hne
    refine ⟨stop, ?_, hrest⟩
    simp only [fractionPart, h, hstop]

theorem exponentPart_eq {l : Literal} (hl : l.Proper) (h : c.rest = l.exponentText ++ rest)
    (hrest : Ends rest) :
    ∃ start stop, c.exponentPart = (.ok (l.exponent, start), stop) ∧ stop.rest = rest := by
  rw [Literal.exponentText] at h
  cases hexponent : l.exponent with
  | none =>
    rw [hexponent] at h
    have h : c.rest = rest := h
    refine ⟨c.position, c, ?_, h⟩
    rw [exponentPart]
    split
    · rfl
    · next e _ he =>
      rw [h] at he
      have hends := hrest e (by rw [he]; rfl)
      rw [if_neg (not_or.2 hends.2.2)]
  | some e =>
    obtain ⟨minus, ds⟩ := e
    rw [hexponent] at h
    have h : c.rest = 'e' :: (if minus then '-' else '+') :: (ds ++ rest) := h
    obtain ⟨hne, hds⟩ := hl.exponent _ hexponent
    have hsign := rest_next h
    obtain ⟨stop, hstop, hrest⟩ := digits_eq (rest_next hsign) hds fun d hd => (hrest d hd).1
    obtain ⟨d, ds, rfl⟩ := List.exists_cons_of_ne_nil hne
    have hexponentSign : c.next.exponentSign = (minus, c.next.next) := by
      cases minus <;> simp [exponentSign, hsign]
    refine ⟨c.next.next.position, stop, ?_, hrest⟩
    simp only [exponentPart, h, hexponentSign, hstop, true_or, if_true]

/-- A literal is read whole if what follows it does not go on with a number. -/
theorem number_text {l : Literal} (hl : l.Proper) (negative : Bool) (h : c.rest = l.text ++ rest)
    (hrest : Ends rest) :
    ∃ start place stop, c.number negative =
        (⟨numberValue negative ⟨l.whole, l.fraction, l.exponent, start⟩ place, .ok ()⟩, stop) ∧
      stop.rest = rest := by
  rw [Literal.text, List.append_assoc, List.append_assoc] at h
  have hexponent : ∀ ch ∈ (l.exponentText ++ rest).head?,
      Numeral.isDigit ch = false ∧ ch ≠ '.' := by
    intro ch hch
    rw [Literal.exponentText] at hch
    cases he : l.exponent with
    | none =>
      rw [he] at hch
      exact ⟨(hrest ch hch).1, (hrest ch hch).2.1⟩
    | some e =>
      rw [he] at hch
      cases hch
      decide
  have hfraction : ∀ ch ∈ (l.fractionText ++ (l.exponentText ++ rest)).head?,
      Numeral.isDigit ch = false := by
    intro ch hch
    rw [Literal.fractionText] at hch
    cases hf : l.fraction with
    | none =>
      rw [hf] at hch
      exact (hexponent ch hch).1
    | some ds =>
      rw [hf] at hch
      cases hch
      rfl
  obtain ⟨c₁, hwhole, h⟩ := wholePart_eq h hl.whole hfraction
  obtain ⟨c₂, hfraction, h⟩ := fractionPart_eq hl h hexponent
  obtain ⟨start, stop, hexponent, h⟩ := exponentPart_eq hl h hrest
  refine ⟨start, stop.position, stop, ?_, h⟩
  rw [number, hwhole]
  dsimp only
  rw [hfraction]
  dsimp only
  rw [hexponent]

end Cursor
end KitchenFlow
