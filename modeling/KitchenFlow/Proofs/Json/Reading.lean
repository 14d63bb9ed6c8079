import KitchenFlow.Proofs.Json.Decoding
import KitchenFlow.Proofs.Json.Scanning
import KitchenFlow.Proofs.Text.Bytes

/-!
# Values read back from their text

The indented text of a value is read as a document that stands for a value of the same shape with
the same strings. Its numbers may differ, as reading a number is not exact, and lists and objects
must not be nested too deep. What a value is read back as is a function of the value:

    JsonNumber.reread?          what a number is read back as
    JsonNumber.reread?_int      an integer is read back as itself
    Json.reread?                what a value is read back as
    Decoder.ofText_pretty       a decoder reads the text as it reads that value
    Decoder.ofBytes_toUTF8      it reads the bytes of a text as it reads the text
-/

namespace KitchenFlow

/-! ## What is read back -/

/-- What the text of a number is read as, if it is read as a number. -/
def JsonNumber.reread? (n : JsonNumber) : Option JsonNumber :=
  match Decoder.ofText Decoder.json n.render with
  | .ok (.number m) => some m
  | _ => none

namespace Json

mutual

/-- What the text of a value is read as, with so many levels of nesting left. -/
def reread? (levels : Nat) : Json → Option Json
  | .null => some .null
  | .bool b => some (.bool b)
  | .number n => n.reread?.map .number
  | .string s => some (.string s)
  | .array items =>
    match levels with
    | 0 => none
    | levels + 1 => (rereadItems? levels items).map .array
  | .object fields =>
    match levels with
    | 0 => none
    | levels + 1 => (rereadFields? levels fields).map .object

/-- `reread?` on each of several values. -/
def rereadItems? (levels : Nat) : List Json → Option (List Json)
  | [] => some []
  | v :: rest => do
    let w ← reread? levels v
    let ws ← rereadItems? levels rest
    some (w :: ws)

/-- `reread?` on the values of fields. -/
def rereadFields? (levels : Nat) : List (String × Json) → Option Fields
  | [] => some []
  | (k, v) :: rest => do
    let w ← reread? levels v
    let ws ← rereadFields? levels rest
    some ((k, w) :: ws)

end

end Json

open Cursor (Ends)
open Document (StandsFor ItemsStandFor EntriesStandFor)

/-! ## Numbers -/

namespace Cursor

/-- Whether a number has a value does not depend on where it stands. -/
theorem numberValue_congr {negative : Bool} {whole : List Char} {fraction : Option (List Char)}
    {exponent : Option (Bool × List Char)} {start start' stop stop' : Position} {n : JsonNumber}
    (h : numberValue negative ⟨whole, fraction, exponent, start⟩ stop = .ok n) :
    numberValue negative ⟨whole, fraction, exponent, start'⟩ stop' = .ok n := by
  unfold numberValue at h ⊢
  dsimp only at h ⊢
  split at h
  · rw [if_pos ‹_›]
    exact h
  · rw [if_neg ‹_›]
    cases exponent with
    | none =>
      dsimp only at h ⊢
      split at h
      · exact h
      · cases h
    | some e =>
      dsimp only at h ⊢
      cases hover : Cursor.exponentOverflow? e.2 with
      | some count =>
        rw [hover] at h
        cases fraction
        all_goals
          dsimp only at h ⊢
          split_ifs at h ⊢ <;> exact h
      | none =>
        rw [hover] at h
        dsimp only at h ⊢
        split at h
        · exact h
        · cases h

end Cursor

namespace Document

theorem ne_of_isDigit {d : Char} (hd : Numeral.isDigit d = true) :
    d ≠ 'n' ∧ d ≠ 't' ∧ d ≠ 'f' ∧ d ≠ '-' ∧ d ≠ '"' ∧ d ≠ '[' ∧ d ≠ '\x7b' := by
  refine ⟨?_, ?_, ?_, ?_, ?_, ?_, ?_⟩ <;> (rintro rfl; cases hd)

variable {c : Cursor} {rest : List Char} {fuel deeper : Nat}

theorem readValue_literal {l : Literal} (hl : l.Proper) {negative : Bool} (fuel deeper : Nat)
    (h : c.skipBlanks.rest = signText negative ++ l.text ++ rest) (hrest : Ends rest) :
    ∃ start place extent stop, readValue (fuel + 1) deeper c =
        (.number ⟨Cursor.numberValue negative ⟨l.whole, l.fraction, l.exponent, start⟩ place,
          .ok ()⟩ extent, stop) ∧ stop.rest = rest := by
  cases negative with
  | true =>
    have h : c.skipBlanks.rest = '-' :: (l.text ++ rest) := h
    obtain ⟨start, place, stop, hnumber, hstop⟩ :=
      Cursor.number_text hl true (Cursor.rest_next h) hrest
    refine ⟨start, place, extent c.skipBlanks stop, stop, ?_, hstop⟩
    simp only [readValue, h, hnumber]
  | false =>
    have h : c.skipBlanks.rest = l.text ++ rest := h
    obtain ⟨start, place, stop, hnumber, hstop⟩ := Cursor.number_text hl false h hrest
    refine ⟨start, place, extent c.skipBlanks stop, stop, ?_, hstop⟩
    obtain ⟨first, tail, htext, hdigit⟩ := hl.exists_text
    rw [htext, List.cons_append] at h
    obtain ⟨hn, ht, hf, hminus, hquote, hlist, hobject⟩ := ne_of_isDigit hdigit
    simp only [readValue, h, hnumber, hdigit, if_true]

/-- A word is read wherever it stands. -/
theorem readWord_eq {letters : List Char} {first : Char} (make : Extent → Document)
    (h : c.rest = first :: (letters ++ rest)) :
    ∃ extent stop, readValue.readWord letters make c = (make extent, stop) ∧ stop.rest = rest := by
  obtain ⟨stop, hword, hstop⟩ := Cursor.word_eq (Cursor.rest_next h)
  refine ⟨extent c stop, stop, ?_, hstop⟩
  rw [readValue.readWord, hword]

theorem readValue_null (h : c.skipBlanks.rest = "null".toList ++ rest) :
    ∃ extent stop, readValue (fuel + 1) deeper c = (.null extent, stop) ∧ stop.rest = rest := by
  have h : c.skipBlanks.rest = 'n' :: (['u', 'l', 'l'] ++ rest) := h
  obtain ⟨extent, stop, hword, hstop⟩ := readWord_eq .null h
  exact ⟨extent, stop, by simpa only [readValue, h] using hword, hstop⟩

theorem readValue_bool {b : Bool}
    (h : c.skipBlanks.rest = (Json.prettyAt 0 (.bool b)).toList ++ rest) :
    ∃ extent stop, readValue (fuel + 1) deeper c = (.bool b extent, stop) ∧ stop.rest = rest := by
  cases b with
  | true =>
    have h : c.skipBlanks.rest = 't' :: (['r', 'u', 'e'] ++ rest) := h
    obtain ⟨extent, stop, hword, hstop⟩ := readWord_eq (.bool true) h
    exact ⟨extent, stop, by simpa only [readValue, h] using hword, hstop⟩
  | false =>
    have h : c.skipBlanks.rest = 'f' :: (['a', 'l', 's', 'e'] ++ rest) := h
    obtain ⟨extent, stop, hword, hstop⟩ := readWord_eq (.bool false) h
    exact ⟨extent, stop, by simpa only [readValue, h] using hword, hstop⟩

/-- A text that is read whole is decoded as the document that it is read as. -/
theorem ofText_eq {α : Type} (d : Decoder α) {s : String} {doc : Document} {stop : Cursor}
    (h : readValue (4 * s.toList.length + 4) depthLimit (Cursor.ofText s) = (doc, stop))
    (hstop : stop.rest = []) : Decoder.ofText d s = d doc := by
  have hend : stop.skipBlanks.rest = [] := by
    rw [Cursor.skipBlanks, Cursor.rest_skipWhile, hstop, List.dropWhile_nil]
  have h : readValue (4 * (Cursor.ofText s).rest.length + 4) depthLimit (Cursor.ofText s) = _ := h
  rw [Decoder.ofText, ofText, ofCursor, h, Decoder.whole]
  rw [hend]
  cases d doc <;> rfl

theorem reread?_of_render_eq_null {n : JsonNumber} (h : n.render = "null") : n.reread? = none := by
  obtain ⟨extent, stop, hread, hstop⟩ := readValue_null (c := Cursor.ofText "null") rfl
  rw [JsonNumber.reread?, h, ofText_eq (s := "null") Decoder.json hread hstop]
  rfl

/-- Only a number that can be written as a literal is read back as a number. -/
theorem isFinite_of_reread? {n m : JsonNumber} (h : n.reread? = some m) : n.isFinite = true := by
  by_contra hn
  have hnull : n.render = "null" := by
    match n, hn with
    | .int _, hn => exact (hn rfl).elim
    | .float (.finite ..), hn | .single (.finite ..), hn => exact (hn rfl).elim
    | .float .nan, _ | .float (.infinite _), _ | .single .nan, _ | .single (.infinite _), _ => rfl
  rw [reread?_of_render_eq_null hnull] at h
  cases h

/-- A sign and digits do not begin with a blank. -/
theorem exists_signText {l : Literal} (hl : l.Proper) (negative : Bool) :
    ∃ ch tail, signText negative ++ l.text = ch :: tail ∧ Cursor.isBlank ch = false ∧ ch ≠ ']' := by
  cases negative with
  | true => exact ⟨'-', l.text, rfl, rfl, by decide⟩
  | false =>
    obtain ⟨first, tail, htext, hdigit⟩ := hl.exists_text
    refine ⟨first, tail, htext, Cursor.isBlank_of_isDigit hdigit, ?_⟩
    rintro rfl
    cases hdigit

/-- What a number is read back as is what the literal stands for that it is written as. -/
theorem reread?_eq_some_iff {n m : JsonNumber} {l : Literal} {negative : Bool} (hl : l.Proper)
    (htext : n.render.toList = signText negative ++ l.text) (start place : Position) :
    n.reread? = some m ↔
      Cursor.numberValue negative ⟨l.whole, l.fraction, l.exponent, start⟩ place = .ok m := by
  obtain ⟨ch, tail, hchars, hch, -⟩ := exists_signText hl negative
  have halone : (Cursor.ofText n.render).skipBlanks.rest = signText negative ++ l.text ++ [] := by
    rw [List.append_nil, hchars]
    exact Cursor.rest_skipBlanks_self (htext.trans hchars) hch
  obtain ⟨start', place', extent, stop, hread, hstop⟩ :=
    readValue_literal hl (4 * n.render.toList.length + 3) depthLimit halone (by simp [Ends])
  rw [JsonNumber.reread?, ofText_eq Decoder.json hread hstop, Decoder.json, Decoder.scalar]
  constructor
  · intro h
    cases hvalue : Cursor.numberValue negative ⟨l.whole, l.fraction, l.exponent, start'⟩ place' with
    | error f =>
      rw [hvalue] at h
      cases h
    | ok k =>
      rw [hvalue] at h
      cases h
      exact Cursor.numberValue_congr hvalue
  · intro h
    rw [Cursor.numberValue_congr h]
    rfl

/-- A number is read from its text wherever the text stands. -/
theorem readValue_number {n m : JsonNumber} (hn : n.reread? = some m)
    (h : c.skipBlanks.rest = n.render.toList ++ rest) (hrest : Ends rest) :
    ∃ doc stop, readValue (fuel + 1) deeper c = (doc, stop) ∧ doc.StandsFor (.number m) ∧
      stop.rest = rest := by
  obtain ⟨negative, l, hl, htext⟩ := JsonNumber.exists_literal (isFinite_of_reread? hn)
  obtain ⟨start, place, extent, stop, hread, hstop⟩ :=
    readValue_literal hl fuel deeper (by rw [h, htext]) hrest
  exact ⟨_, stop, hread, .number ((reread?_eq_some_iff hl htext start place).1 hn), hstop⟩

end Document

/-! ### Integers -/

namespace Cursor

theorem le_foldl_digits (ds : List Char) (n : Nat) :
    n ≤ ds.foldl (fun n d => 10 * n + Numeral.digitValue d) n := by
  induction ds generalizing n with
  | nil => exact le_rfl
  | cons d ds ih =>
    refine le_trans ?_ (ih _)
    show n ≤ 10 * n + Numeral.digitValue d
    omega

/-- Digits whose value fits are all collected. -/
theorem collect_eq {ds : List Char} {start : Nat}
    (h : ds.foldl (fun n d => 10 * n + Numeral.digitValue d) start ≤ digitsLimit) :
    collect start ds =
      (ds.foldl (fun n d => 10 * n + Numeral.digitValue d) start, ds.length) := by
  induction ds generalizing start with
  | nil => rfl
  | cons d ds ih =>
    have hfirst := le_trans (le_foldl_digits ds (10 * start + Numeral.digitValue d)) h
    rw [collect]
    dsimp only
    rw [if_neg (Nat.not_lt.2 hfirst), ih h]
    rfl

end Cursor

/-- An integer of at most 64 bits is read back as itself. -/
theorem JsonNumber.reread?_int {n : Int} (hlow : -2 ^ 63 ≤ n) (hhigh : n < 2 ^ 64) :
    (int n).reread? = some (int n) := by
  have hvalue := Numeral.value_toDigits n.natAbs
  have hlimit : Numeral.value (Nat.toDigits 10 n.natAbs) ≤ Cursor.digitsLimit := by
    have hpow : Cursor.digitsLimit = 18446744073709551615 := rfl
    omega
  have hcollect : Cursor.collect 0 (Nat.toDigits 10 n.natAbs) =
      (n.natAbs, (Nat.toDigits 10 n.natAbs).length) :=
    (Cursor.collect_eq hlimit).trans (congrArg (·, _) hvalue)
  have htext := (toList_render_int n).trans
    (congrArg _ (Literal.text_ofWhole (Nat.toDigits 10 n.natAbs)).symm)
  rw [Document.reread?_eq_some_iff (Literal.proper_toDigits n.natAbs) htext ⟨1, 0⟩ ⟨1, 0⟩,
    Cursor.numberValue, Literal.ofWhole, hcollect]
  rcases lt_or_ge n 0 with hn | hn
  · have hlarge : ¬ (n.natAbs = 0 ∨ Nat.pow 2 63 < n.natAbs) := by
      have hpow : Nat.pow 2 63 = 9223372036854775808 := rfl
      omega
    have habs : -(n.natAbs : Int) = n := by omega
    rw [decide_eq_true hn]
    dsimp only
    rw [if_pos ⟨rfl, rfl, rfl⟩, Bool.not_true, if_neg Bool.false_ne_true, if_neg hlarge, habs]
  · have habs : (n.natAbs : Int) = n := by omega
    simp [not_lt.2 hn, habs]

/-! ## Lists and objects -/

namespace Json

/-- An element on a line of its own. -/
def itemLine (depth : Nat) (v : Json) : List Char :=
  (indent depth).toList ++ (prettyAt depth v).toList

/-- A field on a line of its own. -/
def fieldLine (depth : Nat) (e : String × Json) : List Char :=
  (indent depth).toList ++ ((quote e.1).toList ++ ':' :: ' ' :: (prettyAt depth e.2).toList)

theorem toList_prettyItems (depth : Nat) (v : Json) (vs : List Json) :
    (prettyItems depth (v :: vs)).toList =
      itemLine depth v ++ vs.flatMap fun w => ',' :: itemLine depth w := by
  induction vs generalizing v with
  | nil => simp [prettyItems, itemLine]
  | cons w vs ih =>
    rw [prettyItems, String.toList_append, String.toList_append, String.toList_append, ih w,
      List.flatMap_cons]
    simp [itemLine]

theorem toList_prettyFields (depth : Nat) (e : String × Json) (fields : List (String × Json)) :
    (prettyFields depth (e :: fields)).toList =
      fieldLine depth e ++ fields.flatMap fun f => ',' :: fieldLine depth f := by
  induction fields generalizing e with
  | nil => simp [prettyFields, fieldLine]
  | cons f fields ih =>
    obtain ⟨k, v⟩ := e
    rw [prettyFields, String.toList_append, String.toList_append, ih f, List.flatMap_cons]
    simp [fieldLine]

theorem toList_array (depth : Nat) (v : Json) (vs : List Json) (rest : List Char) :
    (prettyAt depth (.array (v :: vs))).toList ++ rest =
      '[' :: ((indent (depth + 1)).toList ++ ((prettyAt (depth + 1) v).toList ++
        ((vs.flatMap fun w => ',' :: itemLine (depth + 1) w) ++
          ((indent depth).toList ++ ']' :: rest)))) := by
  have hopen : "[".toList = ['['] := rfl
  have hclose : "]".toList = [']'] := rfl
  rw [prettyAt, String.toList_append, String.toList_append, String.toList_append,
    toList_prettyItems, hopen, hclose, itemLine]
  · simp
  · simp

theorem toList_object (depth : Nat) (k : String) (v : Json) (fields : Fields) (rest : List Char) :
    (prettyAt depth (.object ((k, v) :: fields))).toList ++ rest =
      '\x7b' :: ((indent (depth + 1)).toList ++ ((quote k).toList ++ (':' :: ' ' ::
        ((prettyAt (depth + 1) v).toList ++
          ((fields.flatMap fun f => ',' :: fieldLine (depth + 1) f) ++
            ((indent depth).toList ++ '\x7d' :: rest)))))) := by
  have hopen : "\x7b".toList = ['\x7b'] := rfl
  have hclose : "\x7d".toList = ['\x7d'] := rfl
  rw [prettyAt, String.toList_append, String.toList_append, String.toList_append,
    toList_prettyFields, hopen, hclose, fieldLine]
  · simp
  · simp

theorem isBlank_of_mem_indent {depth : Nat} {ch : Char} (h : ch ∈ (indent depth).toList) :
    Cursor.isBlank ch = true := by
  rw [indent, String.toList_ofList, List.mem_cons] at h
  rcases h with rfl | h
  · rfl
  · rw [List.eq_of_mem_replicate h]
    rfl

/-- The text of a value that can be read back begins with neither a blank nor a bracket that ends a
list. -/
theorem exists_prettyAt {v w : Json} {levels : Nat} (h : v.reread? levels = some w) (depth : Nat) :
    ∃ ch tail, (prettyAt depth v).toList = ch :: tail ∧ Cursor.isBlank ch = false ∧ ch ≠ ']' := by
  match v, h with
  | .null, _ => exact ⟨'n', ['u', 'l', 'l'], by rw [prettyAt]; rfl, rfl, by decide⟩
  | .bool true, _ => exact ⟨'t', ['r', 'u', 'e'], by rw [prettyAt]; rfl, rfl, by decide⟩
  | .bool false, _ => exact ⟨'f', ['a', 'l', 's', 'e'], by rw [prettyAt]; rfl, rfl, by decide⟩
  | .number n, h =>
    obtain ⟨m, hm, -⟩ := Option.map_eq_some_iff.1 h
    obtain ⟨negative, l, hl, htext⟩ :=
      JsonNumber.exists_literal (Document.isFinite_of_reread? hm)
    obtain ⟨ch, tail, hchars, hch⟩ := Document.exists_signText hl negative
    exact ⟨ch, tail, htext.trans hchars, hch⟩
  | .string s, _ => exact ⟨'"', _, String.toList_ofList, rfl, by decide⟩
  | .array [], _ => exact ⟨'[', [']'], by rw [prettyAt]; rfl, rfl, by decide⟩
  | .array (v :: vs), _ =>
    have htext := toList_array depth v vs []
    rw [List.append_nil] at htext
    exact ⟨'[', _, htext, rfl, by decide⟩
  | .object [], _ => exact ⟨'\x7b', ['\x7d'], by rw [prettyAt]; rfl, rfl, by decide⟩
  | .object ((k, v) :: fields), _ =>
    have htext := toList_object depth k v fields []
    rw [List.append_nil] at htext
    exact ⟨'\x7b', _, htext, rfl, by decide⟩

end Json

namespace Document

open Json (itemLine fieldLine prettyAt)

variable {c : Cursor} {rest blanks : List Char} {fuel deeper levels depth : Nat}
  {v w : Json} {vs ws : List Json} {k : String} {fields gs : Fields}

/-- The text of a value is read as another, whatever stands behind it. -/
def ReadsBack (levels : Nat) (v w : Json) : Prop :=
  ∀ ⦃depth : Nat⦄ (fuel : Nat) ⦃deeper : Nat⦄ ⦃c : Cursor⦄ ⦃rest : List Char⦄,
    c.skipBlanks.rest = (prettyAt depth v).toList ++ rest → Ends rest → levels < deeper →
      4 * c.skipBlanks.rest.length ≤ fuel + 2 →
        ∃ doc stop, readValue fuel deeper c = (doc, stop) ∧ doc.StandsFor w ∧ stop.rest = rest

/-- The texts of further elements of a list are read as values. -/
def ItemsReadBack (levels : Nat) (vs ws : List Json) : Prop :=
  ∀ ⦃depth : Nat⦄ (fuel : Nat) ⦃deeper : Nat⦄ ⦃c : Cursor⦄ ⦃blanks rest : List Char⦄,
    c.rest = (vs.flatMap fun v => ',' :: itemLine depth v) ++ (blanks ++ ']' :: rest) →
      (∀ ch ∈ blanks, Cursor.isBlank ch = true) → levels < deeper → 4 * c.rest.length ≤ fuel →
        ∃ items place stop, readItems fuel deeper false c = (items, .closed place, stop) ∧
          ItemsStandFor items ws ∧ stop.rest = rest

/-- The texts of further fields of an object are read as fields. -/
def FieldsReadBack (levels : Nat) (fields gs : Fields) : Prop :=
  ∀ ⦃depth : Nat⦄ (fuel : Nat) ⦃deeper : Nat⦄ ⦃c : Cursor⦄ ⦃blanks rest : List Char⦄,
    c.rest = (fields.flatMap fun e => ',' :: fieldLine depth e) ++ (blanks ++ '\x7d' :: rest) →
      (∀ ch ∈ blanks, Cursor.isBlank ch = true) → levels < deeper → 4 * c.rest.length ≤ fuel →
        ∃ entries place stop, readEntries fuel deeper false c = (entries, .closed place, stop) ∧
          EntriesStandFor entries gs ∧ stop.rest = rest

/-- What follows an element or a field does not go on with a number. -/
theorem ends_lines {α : Type} (line : α → List Char) (as : List α) {close : Char}
    (hclose : Ends [close]) (hblanks : ∀ ch ∈ blanks, Cursor.isBlank ch = true) :
    Ends ((as.flatMap fun a => ',' :: line a) ++ (blanks ++ close :: rest)) := by
  intro ch hch
  cases as with
  | cons a as =>
    cases hch
    decide
  | nil =>
    cases blanks with
    | nil =>
      cases hch
      exact hclose _ rfl
    | cons b blanks =>
      cases hch
      have hblank := hblanks _ List.mem_cons_self
      simp only [Cursor.isBlank, Bool.or_eq_true, beq_iff_eq] at hblank
      rcases hblank with ((rfl | rfl) | rfl) | rfl <;> decide

/-- An element and the elements after it are read. -/
theorem readItem_eq (hv : ReadsBack levels v w) (hvs : ItemsReadBack levels vs ws)
    (h : c.skipBlanks.rest = (prettyAt depth v).toList ++
      ((vs.flatMap fun v => ',' :: itemLine depth v) ++ (blanks ++ ']' :: rest)))
    (hne : (prettyAt depth v).toList ≠ []) (hblanks : ∀ ch ∈ blanks, Cursor.isBlank ch = true)
    (hdeeper : levels < deeper) (hfuel : 4 * c.skipBlanks.rest.length ≤ fuel + 1) :
    ∃ items place stop, readItem fuel deeper c = (items, .closed place, stop) ∧
      ItemsStandFor items (w :: ws) ∧ stop.rest = rest := by
  have hlength := congrArg List.length h
  rw [List.length_append] at hlength
  have hpos := List.length_pos_iff.2 hne
  obtain ⟨fuel, rfl⟩ : ∃ f, fuel = f + 1 := ⟨fuel - 1, by omega⟩
  obtain ⟨doc, c', hread, hdoc, hc'⟩ :=
    hv fuel h (ends_lines (itemLine depth) vs (Cursor.ends_cons (by decide) _) hblanks) hdeeper
      (by omega)
  obtain ⟨items, place, stop, hitems, hstand, hstop⟩ :=
    hvs fuel hc' hblanks hdeeper (by rw [hc']; omega)
  refine ⟨(some c.peeked, doc) :: items, place, stop, ?_, .cons hdoc hstand, hstop⟩
  rw [readItem, hread]
  dsimp only
  rw [hitems]

/-- An entry and the entries after it are read. -/
theorem readEntry_eq (hv : ReadsBack levels v w) (hfields : FieldsReadBack levels fields gs)
    (hhead : ∃ ch tail, (prettyAt depth v).toList = ch :: tail ∧ Cursor.isBlank ch = false)
    (h : c.rest = (Json.quote k).toList ++ (':' :: ' ' :: ((prettyAt depth v).toList ++
      ((fields.flatMap fun e => ',' :: fieldLine depth e) ++ (blanks ++ '\x7d' :: rest)))))
    (hblanks : ∀ ch ∈ blanks, Cursor.isBlank ch = true)
    (hdeeper : levels < deeper) (hfuel : 4 * c.rest.length ≤ fuel + 1) :
    ∃ entries place stop, readEntry fuel deeper c = (entries, .closed place, stop) ∧
      EntriesStandFor entries ((k, w) :: gs) ∧ stop.rest = rest := by
  obtain ⟨ch, tail, htext, hch⟩ := hhead
  have hlength := congrArg List.length h
  simp only [List.length_append, List.length_cons] at hlength
  obtain ⟨fuel, rfl⟩ : ∃ f, fuel = f + 1 := ⟨fuel - 1, by omega⟩
  obtain ⟨hkey, hafter⟩ := Cursor.string_quote h
  have hcolon := Cursor.rest_skipBlanks_self hafter rfl
  have hspace : c.string.2.skipBlanks.next.rest = [' '] ++ ((prettyAt depth v).toList ++
      ((fields.flatMap fun e => ',' :: fieldLine depth e) ++ (blanks ++ '\x7d' :: rest))) :=
    Cursor.rest_next hcolon
  have hvalue : c.string.2.skipBlanks.next.skipBlanks.rest = (prettyAt depth v).toList ++
      ((fields.flatMap fun e => ',' :: fieldLine depth e) ++ (blanks ++ '\x7d' :: rest)) :=
    Cursor.rest_skipBlanks hspace (List.forall_mem_singleton.2 rfl)
      (by rw [htext]; simpa using hch)
  have hlonger := congrArg List.length hvalue
  simp only [List.length_append, List.length_cons] at hlonger
  obtain ⟨doc, c', hread, hdoc, hc'⟩ :=
    hv fuel hvalue
      (ends_lines (fieldLine depth) fields (Cursor.ends_cons (by decide) _) hblanks) hdeeper
      (by omega)
  obtain ⟨entries, place, stop, hentries, hstand, hstop⟩ :=
    hfields fuel hc' hblanks hdeeper (by
      rw [hc']
      simp only [List.length_append, List.length_cons]
      omega)
  refine ⟨⟨c.string.1, some (placeAfterKey c.string.2), doc⟩ :: entries, place, stop, ?_,
    .cons hkey hdoc hstand, hstop⟩
  simp only [readEntry, hcolon, hread, hentries]

theorem readItems_nil (h : c.rest = blanks ++ ']' :: rest)
    (hblanks : ∀ ch ∈ blanks, Cursor.isBlank ch = true) (first : Bool) :
    ∃ place stop, readItems (fuel + 1) deeper first c = ([], .closed place, stop) ∧
      stop.rest = rest := by
  have hclose := Cursor.rest_skipBlanks h hblanks (by simp; decide)
  refine ⟨some c.skipBlanks.next.position, c.skipBlanks.next, ?_, Cursor.rest_next hclose⟩
  simp only [readItems, hclose]

theorem readEntries_nil (h : c.rest = blanks ++ '\x7d' :: rest)
    (hblanks : ∀ ch ∈ blanks, Cursor.isBlank ch = true) (first : Bool) :
    ∃ place stop, readEntries (fuel + 1) deeper first c = ([], .closed place, stop) ∧
      stop.rest = rest := by
  have hclose := Cursor.rest_skipBlanks h hblanks (by simp; decide)
  refine ⟨some c.skipBlanks.next.position, c.skipBlanks.next, ?_, Cursor.rest_next hclose⟩
  simp only [readEntries, hclose]

/-- The first element of a list stands behind the bracket. -/
theorem readItems_first {ch : Char} {tail : List Char} (h : c.rest = blanks ++ ch :: tail)
    (hblanks : ∀ ch ∈ blanks, Cursor.isBlank ch = true) (hch : Cursor.isBlank ch = false)
    (hne : ch ≠ ']') :
    readItems (fuel + 1) deeper true c = readItem fuel deeper c.skipBlanks := by
  have hrest := Cursor.rest_skipBlanks h hblanks (by simpa using hch)
  simp [readItems, hrest]

/-- A further element stands behind a comma. -/
theorem readItems_comma {ch : Char} {tail : List Char} (h : c.rest = ',' :: (blanks ++ ch :: tail))
    (hblanks : ∀ ch ∈ blanks, Cursor.isBlank ch = true) (hch : Cursor.isBlank ch = false)
    (hne : ch ≠ ']') :
    readItems (fuel + 1) deeper false c =
      readItem fuel deeper c.skipBlanks.next.skipBlanks := by
  have hcomma := Cursor.rest_skipBlanks_self h rfl
  have hrest := Cursor.rest_skipBlanks (Cursor.rest_next hcomma) hblanks (by simpa using hch)
  simp [readItems, hcomma, hrest, hne]

theorem readEntries_first {tail : List Char} (h : c.rest = blanks ++ '"' :: tail)
    (hblanks : ∀ ch ∈ blanks, Cursor.isBlank ch = true) :
    readEntries (fuel + 1) deeper true c = readEntry fuel deeper c.skipBlanks := by
  have hrest := Cursor.rest_skipBlanks h hblanks (by simp; decide)
  simp [readEntries, hrest]

theorem readEntries_comma {tail : List Char} (h : c.rest = ',' :: (blanks ++ '"' :: tail))
    (hblanks : ∀ ch ∈ blanks, Cursor.isBlank ch = true) :
    readEntries (fuel + 1) deeper false c =
      readEntry fuel deeper c.skipBlanks.next.skipBlanks := by
  have hcomma := Cursor.rest_skipBlanks_self h rfl
  have hrest := Cursor.rest_skipBlanks (Cursor.rest_next hcomma) hblanks (by simp; decide)
  simp [readEntries, hcomma, hrest]

/-! ### One value -/

/-- Where a value stands, there is fuel left to read it. -/
theorem exists_fuel {ch : Char} {tail : List Char} (h : c.rest = ch :: tail)
    (hfuel : 4 * c.rest.length ≤ fuel + 2) : ∃ f, fuel = f + 1 := by
  rw [h, List.length_cons] at hfuel
  exact ⟨fuel - 1, by omega⟩

theorem readsBack_null : ReadsBack levels .null .null := by
  intro depth fuel deeper c rest h hrest hdeeper hfuel
  rw [prettyAt] at h
  have hfirst : c.skipBlanks.rest = 'n' :: (['u', 'l', 'l'] ++ rest) := h
  obtain ⟨fuel, rfl⟩ := exists_fuel hfirst hfuel
  obtain ⟨extent, stop, hread, hstop⟩ := readValue_null h
  exact ⟨_, stop, hread, .null, hstop⟩

theorem readsBack_bool (b : Bool) : ReadsBack levels (.bool b) (.bool b) := by
  intro depth fuel deeper c rest h hrest hdeeper hfuel
  have hreread : (Json.bool b).reread? 0 = some (.bool b) := by rw [Json.reread?]
  obtain ⟨ch, tail, htext, -⟩ := Json.exists_prettyAt hreread depth
  obtain ⟨fuel, rfl⟩ := exists_fuel (h.trans (by rw [htext]; rfl)) hfuel
  obtain ⟨extent, stop, hread, hstop⟩ :=
    readValue_bool (b := b) (by rw [h, prettyAt, prettyAt])
  exact ⟨_, stop, hread, .bool, hstop⟩

theorem readsBack_number {n m : JsonNumber} (hn : n.reread? = some m) :
    ReadsBack levels (.number n) (.number m) := by
  intro depth fuel deeper c rest h hrest hdeeper hfuel
  have hreread : (Json.number n).reread? 0 = some (.number m) := by
    rw [Json.reread?, hn]
    rfl
  obtain ⟨ch, tail, htext, -⟩ := Json.exists_prettyAt hreread depth
  obtain ⟨fuel, rfl⟩ := exists_fuel (h.trans (by rw [htext]; rfl)) hfuel
  exact readValue_number hn (by rw [h, prettyAt]) hrest

theorem readsBack_string (s : String) : ReadsBack levels (.string s) (.string s) := by
  intro depth fuel deeper c rest h hrest hdeeper hfuel
  rw [prettyAt] at h
  have hquote : c.skipBlanks.rest = '"' :: (s.toList.flatMap Json.escapeChar ++ ['"'] ++ rest) := by
    rw [h, Json.quote, String.toList_ofList]
    rfl
  obtain ⟨fuel, rfl⟩ := exists_fuel hquote hfuel
  obtain ⟨hvalue, hstop⟩ := Cursor.string_quote h
  refine ⟨.string c.skipBlanks.string.1 (extent c.skipBlanks c.skipBlanks.string.2),
    c.skipBlanks.string.2, ?_, .string hvalue, hstop⟩
  simp only [readValue, hquote]

/-- A list is read if its elements are. -/
theorem readValue_array {tail : List Char} {items : List (Place × Document)} {place : Place}
    {stop : Cursor} (h : c.skipBlanks.rest = '[' :: tail) (hdeeper : levels + 1 < deeper)
    (hitems : readItems fuel (deeper - 1) true c.skipBlanks.next = (items, .closed place, stop)) :
    readValue (fuel + 1) deeper c =
      (.array (some c.skipBlanks.position) none items (.closed place), stop) := by
  have hdeep : depthFault deeper c.skipBlanks = none := if_neg (by omega)
  simp only [readValue, h, hitems, hdeep]

theorem readValue_object {tail : List Char} {entries : List (Entry Document)} {place : Place}
    {stop : Cursor} (h : c.skipBlanks.rest = '\x7b' :: tail) (hdeeper : levels + 1 < deeper)
    (hentries : readEntries fuel (deeper - 1) true c.skipBlanks.next =
      (entries, .closed place, stop)) :
    readValue (fuel + 1) deeper c =
      (.object (some c.skipBlanks.position) none entries (.closed place), stop) := by
  have hdeep : depthFault deeper c.skipBlanks = none := if_neg (by omega)
  simp only [readValue, h, hentries, hdeep]

theorem readsBack_array_nil : ReadsBack (levels + 1) (.array []) (.array []) := by
  intro depth fuel deeper c rest h hrest hdeeper hfuel
  rw [prettyAt] at h
  have h : c.skipBlanks.rest = '[' :: ']' :: rest := h
  obtain ⟨fuel, rfl⟩ := exists_fuel h hfuel
  rw [h, List.length_cons, List.length_cons] at hfuel
  obtain ⟨fuel, rfl⟩ : ∃ f, fuel = f + 1 := ⟨fuel - 1, by omega⟩
  have hnone : c.skipBlanks.next.rest = [] ++ ']' :: rest := Cursor.rest_next h
  obtain ⟨place, stop, hitems, hstop⟩ := readItems_nil hnone (by simp) true
  exact ⟨_, stop, readValue_array h hdeeper hitems, .array .nil, hstop⟩

theorem readsBack_array_cons (hreread : v.reread? levels = some w) (hv : ReadsBack levels v w)
    (hvs : ItemsReadBack levels vs ws) :
    ReadsBack (levels + 1) (.array (v :: vs)) (.array (w :: ws)) := by
  intro depth fuel deeper c rest h hrest hdeeper hfuel
  rw [Json.toList_array] at h
  obtain ⟨fuel, rfl⟩ := exists_fuel h hfuel
  obtain ⟨ch, tail, htext, hch, hne⟩ := Json.exists_prettyAt hreread (depth + 1)
  have hnext := Cursor.rest_next h
  rw [htext, List.cons_append] at hnext
  have hitem := Cursor.rest_skipBlanks_self
    (Cursor.rest_skipBlanks hnext (fun _ => Json.isBlank_of_mem_indent) (by simpa using hch)) hch
  rw [← List.cons_append, ← htext] at hitem
  have hlength := congrArg List.length h
  have hshorter := congrArg List.length hitem
  simp only [List.length_append, List.length_cons] at hlength hshorter
  obtain ⟨fuel, rfl⟩ : ∃ f, fuel = f + 1 := ⟨fuel - 1, by omega⟩
  have hdeep : levels < deeper - 1 := by omega
  have henough : 4 * c.skipBlanks.next.skipBlanks.skipBlanks.rest.length ≤ fuel + 1 := by omega
  obtain ⟨items, place, stop, hitems, hstand, hstop⟩ :=
    readItem_eq hv hvs hitem (by rw [htext]; simp) (fun _ => Json.isBlank_of_mem_indent) hdeep
      henough
  rw [← readItems_first hnext (fun _ => Json.isBlank_of_mem_indent) hch hne] at hitems
  exact ⟨_, stop, readValue_array h hdeeper hitems, .array hstand, hstop⟩

theorem readsBack_object_nil : ReadsBack (levels + 1) (.object []) (.object []) := by
  intro depth fuel deeper c rest h hrest hdeeper hfuel
  rw [prettyAt] at h
  have h : c.skipBlanks.rest = '\x7b' :: '\x7d' :: rest := h
  obtain ⟨fuel, rfl⟩ := exists_fuel h hfuel
  rw [h, List.length_cons, List.length_cons] at hfuel
  obtain ⟨fuel, rfl⟩ : ∃ f, fuel = f + 1 := ⟨fuel - 1, by omega⟩
  have hnone : c.skipBlanks.next.rest = [] ++ '\x7d' :: rest := Cursor.rest_next h
  obtain ⟨place, stop, hentries, hstop⟩ := readEntries_nil hnone (by simp) true
  exact ⟨_, stop, readValue_object h hdeeper hentries, .object .nil, hstop⟩

theorem readsBack_object_cons (hreread : v.reread? levels = some w) (hv : ReadsBack levels v w)
    (hfields : FieldsReadBack levels fields gs) :
    ReadsBack (levels + 1) (.object ((k, v) :: fields)) (.object ((k, w) :: gs)) := by
  intro depth fuel deeper c rest h hrest hdeeper hfuel
  rw [Json.toList_object] at h
  obtain ⟨fuel, rfl⟩ := exists_fuel h hfuel
  obtain ⟨ch, tail, htext, hch, -⟩ := Json.exists_prettyAt hreread (depth + 1)
  obtain ⟨chars, hquote⟩ : ∃ chars, (Json.quote k).toList = '"' :: chars :=
    ⟨_, String.toList_ofList⟩
  have hnext := Cursor.rest_next h
  rw [hquote, List.cons_append] at hnext
  have hentry := Cursor.rest_skipBlanks hnext (fun _ => Json.isBlank_of_mem_indent)
    (by simp; decide)
  rw [← List.cons_append, ← hquote] at hentry
  have hlength := congrArg List.length h
  have hshorter := congrArg List.length hentry
  simp only [List.length_append, List.length_cons] at hlength hshorter
  obtain ⟨fuel, rfl⟩ : ∃ f, fuel = f + 1 := ⟨fuel - 1, by omega⟩
  have hdeep : levels < deeper - 1 := by omega
  have henough : 4 * c.skipBlanks.next.skipBlanks.rest.length ≤ fuel + 1 := by omega
  obtain ⟨entries, place, stop, hentries, hstand, hstop⟩ :=
    readEntry_eq hv hfields ⟨ch, tail, htext, hch⟩ hentry
      (fun _ => Json.isBlank_of_mem_indent) hdeep henough
  rw [← readEntries_first hnext fun _ => Json.isBlank_of_mem_indent] at hentries
  exact ⟨_, stop, readValue_object h hdeeper hentries, .object hstand, hstop⟩

/-! ### Further elements and fields -/

theorem itemsReadBack_nil : ItemsReadBack levels [] [] := by
  intro depth fuel deeper c blanks rest h hblanks hdeeper hfuel
  have hlength := congrArg List.length h
  simp only [List.length_append, List.length_cons] at hlength
  obtain ⟨fuel, rfl⟩ : ∃ f, fuel = f + 1 := ⟨fuel - 1, by omega⟩
  obtain ⟨place, stop, hitems, hstop⟩ := readItems_nil h hblanks false
  exact ⟨[], place, stop, hitems, .nil, hstop⟩

theorem itemsReadBack_cons (hreread : v.reread? levels = some w) (hv : ReadsBack levels v w)
    (hvs : ItemsReadBack levels vs ws) : ItemsReadBack levels (v :: vs) (w :: ws) := by
  intro depth fuel deeper c blanks rest h hblanks hdeeper hfuel
  rw [List.flatMap_cons, itemLine, List.cons_append, List.cons_append, List.append_assoc,
    List.append_assoc] at h
  obtain ⟨ch, tail, htext, hch, hne⟩ := Json.exists_prettyAt hreread depth
  rw [htext, List.cons_append] at h
  have hcomma := Cursor.rest_skipBlanks_self h rfl
  have hitem := Cursor.rest_skipBlanks_self (Cursor.rest_skipBlanks (Cursor.rest_next hcomma)
    (fun _ => Json.isBlank_of_mem_indent) (by simpa using hch)) hch
  have hlength := congrArg List.length h
  have hshorter := congrArg List.length hitem
  simp only [List.length_append, List.length_cons] at hlength hshorter
  obtain ⟨fuel, rfl⟩ : ∃ f, fuel = f + 1 := ⟨fuel - 1, by omega⟩
  rw [← List.cons_append, ← htext] at hitem
  rw [readItems_comma h (fun _ => Json.isBlank_of_mem_indent) hch hne]
  exact readItem_eq hv hvs hitem (by rw [htext]; simp) hblanks hdeeper (by omega)

theorem fieldsReadBack_nil : FieldsReadBack levels [] [] := by
  intro depth fuel deeper c blanks rest h hblanks hdeeper hfuel
  have hlength := congrArg List.length h
  simp only [List.length_append, List.length_cons] at hlength
  obtain ⟨fuel, rfl⟩ : ∃ f, fuel = f + 1 := ⟨fuel - 1, by omega⟩
  obtain ⟨place, stop, hentries, hstop⟩ := readEntries_nil h hblanks false
  exact ⟨[], place, stop, hentries, .nil, hstop⟩

theorem fieldsReadBack_cons (hreread : v.reread? levels = some w) (hv : ReadsBack levels v w)
    (hfields : FieldsReadBack levels fields gs) :
    FieldsReadBack levels ((k, v) :: fields) ((k, w) :: gs) := by
  intro depth fuel deeper c blanks rest h hblanks hdeeper hfuel
  simp only [List.flatMap_cons, fieldLine, List.cons_append, List.append_assoc] at h
  obtain ⟨ch, tail, htext, hch, -⟩ := Json.exists_prettyAt hreread depth
  obtain ⟨chars, hquote⟩ : ∃ chars, (Json.quote k).toList = '"' :: chars :=
    ⟨_, String.toList_ofList⟩
  rw [hquote, List.cons_append] at h
  have hcomma := Cursor.rest_skipBlanks_self h rfl
  have hentry := Cursor.rest_skipBlanks (Cursor.rest_next hcomma)
    (fun _ => Json.isBlank_of_mem_indent) (by simp; decide)
  have hlength := congrArg List.length h
  have hshorter := congrArg List.length hentry
  simp only [List.length_append, List.length_cons] at hlength hshorter
  obtain ⟨fuel, rfl⟩ : ∃ f, fuel = f + 1 := ⟨fuel - 1, by omega⟩
  rw [← List.cons_append, ← hquote] at hentry
  rw [readEntries_comma h fun _ => Json.isBlank_of_mem_indent]
  exact readEntry_eq hv hfields ⟨ch, tail, htext, hch⟩ hentry hblanks hdeeper (by omega)

mutual

/-- What a value is read back as is read from its text. -/
theorem readsBack : ∀ {v w : Json} {levels : Nat}, v.reread? levels = some w →
    ReadsBack levels v w
  | .null, _, _, h => by
    cases h
    exact readsBack_null
  | .bool b, _, _, h => by
    cases h
    exact readsBack_bool b
  | .number _, _, _, h => by
    obtain ⟨m, hm, rfl⟩ := Option.map_eq_some_iff.1 h
    exact readsBack_number hm
  | .string s, _, _, h => by
    cases h
    exact readsBack_string s
  | .array _, _, 0, h => by cases h
  | .array [], _, levels + 1, h => by
    cases h
    exact readsBack_array_nil
  | .array (v :: vs), _, levels + 1, h => by
    obtain ⟨_, hitems, rfl⟩ := Option.map_eq_some_iff.1 h
    obtain ⟨w, hw, hitems⟩ := Option.bind_eq_some_iff.1 hitems
    obtain ⟨ws, hws, hitems⟩ := Option.bind_eq_some_iff.1 hitems
    cases hitems
    exact readsBack_array_cons hw (readsBack hw) (itemsReadBack hws)
  | .object _, _, 0, h => by cases h
  | .object [], _, levels + 1, h => by
    cases h
    exact readsBack_object_nil
  | .object ((k, v) :: fields), _, levels + 1, h => by
    obtain ⟨_, hfields, rfl⟩ := Option.map_eq_some_iff.1 h
    obtain ⟨w, hw, hfields⟩ := Option.bind_eq_some_iff.1 hfields
    obtain ⟨gs, hgs, hfields⟩ := Option.bind_eq_some_iff.1 hfields
    cases hfields
    exact readsBack_object_cons hw (readsBack hw) (fieldsReadBack hgs)

theorem itemsReadBack : ∀ {vs ws : List Json} {levels : Nat},
    Json.rereadItems? levels vs = some ws → ItemsReadBack levels vs ws
  | [], _, _, h => by
    cases h
    exact itemsReadBack_nil
  | v :: vs, _, levels, h => by
    obtain ⟨w, hw, h⟩ := Option.bind_eq_some_iff.1 h
    obtain ⟨ws, hws, h⟩ := Option.bind_eq_some_iff.1 h
    cases h
    exact itemsReadBack_cons hw (readsBack hw) (itemsReadBack hws)

theorem fieldsReadBack : ∀ {fields gs : Fields} {levels : Nat},
    Json.rereadFields? levels fields = some gs → FieldsReadBack levels fields gs
  | [], _, _, h => by
    cases h
    exact fieldsReadBack_nil
  | (k, v) :: fields, _, levels, h => by
    obtain ⟨w, hw, h⟩ := Option.bind_eq_some_iff.1 h
    obtain ⟨gs, hgs, h⟩ := Option.bind_eq_some_iff.1 h
    cases h
    exact fieldsReadBack_cons hw (readsBack hw) (fieldsReadBack hgs)

end

end Document

/-- A decoder reads the text of a value as it reads what the value is read back as. -/
theorem Decoder.ofText_pretty {α : Type} {d : Decoder α} {v w : Json} {a : α} (h : d.Reads w a)
    (hreread : v.reread? 127 = some w) : Decoder.ofText d v.pretty = .ok a := by
  obtain ⟨ch, tail, htext, hch, -⟩ := Json.exists_prettyAt hreread 0
  have hstart : (Cursor.ofText v.pretty).skipBlanks.rest = (Json.prettyAt 0 v).toList ++ [] := by
    rw [List.append_nil, htext]
    exact Cursor.rest_skipBlanks_self htext hch
  have hlength : (Cursor.ofText v.pretty).skipBlanks.rest.length = v.pretty.toList.length := by
    rw [hstart, List.append_nil]
    rfl
  have hlimit : 127 < Document.depthLimit := by decide
  obtain ⟨doc, stop, hread, hdoc, hstop⟩ :=
    Document.readsBack hreread (4 * v.pretty.toList.length + 4) hstart (by simp [Ends]) hlimit
      (by rw [hlength]; omega)
  rw [Document.ofText_eq d hread hstop]
  exact h hdoc

/-! ## Bytes -/

theorem Document.strayPlaces_map_some (p : Position) (cs : List Char) :
    strayPlaces p (cs.map some) = [] := by
  induction cs generalizing p with
  | nil => rfl
  | cons ch cs ih => exact ih _

/-- Bytes that spell a text are read as the text is. -/
theorem Document.ofBytes_toUTF8 (s : String) : ofBytes s.toUTF8.toList = ofText s := by
  have hchars : (s.toList.map some).map (·.getD standIn) = s.toList := by
    rw [List.map_map]
    exact List.map_id _
  rw [ofBytes, Text.characters_toUTF8, ofCharacters, hchars, strayPlaces_map_some]
  rfl

theorem Decoder.ofBytes_toUTF8 {α : Type} (d : Decoder α) (s : String) :
    ofBytes d s.toUTF8.toList = ofText d s := by
  rw [ofBytes, Document.ofBytes_toUTF8, ofText]

/-! ## Options and lists -/

section

variable {α β : Type} {d : Decoder β} {f : α → Json} {levels : Nat}

theorem Json.reread?_ofOption_string (s : Option String) :
    (ofOption .string s).reread? levels = some (ofOption .string s) := by
  cases s <;> rfl

/-- Values that are read back one by one are read back together. -/
theorem Decoder.exists_rereadItems {as : List α} {bs : List β}
    (h : List.Forall₂ (fun a b => ∃ v, (f a).reread? levels = some v ∧ d.Reads v b) as bs) :
    ∃ vs, Json.rereadItems? levels (as.map f) = some vs ∧ List.Forall₂ d.Reads vs bs := by
  induction h with
  | nil => exact ⟨[], rfl, .nil⟩
  | cons hab _ ih =>
    obtain ⟨v, hv, hread⟩ := hab
    obtain ⟨vs, hvs, hreads⟩ := ih
    refine ⟨v :: vs, ?_, .cons hread hreads⟩
    rw [List.map_cons, Json.rereadItems?, hv, hvs]
    rfl

/-- A list is read back from its text if its elements are read back. -/
theorem Decoder.ofText_list {as : List α} {bs : List β}
    (h : List.Forall₂ (fun a b => ∃ v, (f a).reread? 126 = some v ∧ d.Reads v b) as bs) :
    Decoder.ofText (.list d) (Json.array (as.map f)).pretty = .ok bs := by
  obtain ⟨vs, hvs, hreads⟩ := exists_rereadItems h
  refine Decoder.ofText_pretty (Decoder.reads_list hreads) ?_
  rw [Json.reread?, hvs]
  rfl

end

end KitchenFlow
