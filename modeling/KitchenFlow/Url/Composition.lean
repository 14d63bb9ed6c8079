import KitchenFlow.Url.CompositionTable

/-!
# Composed texts

The same text can be written with a letter and an accent, or with one character for both. A text is
composed if it is as it comes out when all characters are taken apart, the accents of each letter
are put in order, and what can be put together is put together again.
-/

namespace KitchenFlow.Url.Composition

open CompositionTable

/-- The class of a character. Characters of the class 0 start anew, all others are combining. -/
def classOf (c : Char) : Nat :=
  ((classes.find? fun r => r.1 ≤ c.toNat && c.toNat ≤ r.2.1).map (·.2.2)).getD 0

/-! ### Syllables

The syllables of Hangul are not listed. They are numbered by their two or three parts. -/

/-- The first syllable, and the first of the leading, the middle and the closing parts. There is no
closing part of this number. -/
def firstSyllable : Nat := 0xAC00
def firstLead : Nat := 0x1100
def firstVowel : Nat := 0x1161
def firstTail : Nat := 0x11A7

/-- How many parts there are of each kind, no closing part being one. -/
def leads : Nat := 19
def vowels : Nat := 21
def tails : Nat := 28

/-- The parts of a syllable. -/
def syllableParts? (n : Nat) : Option (List Nat) :=
  if firstSyllable ≤ n ∧ n < firstSyllable + leads * vowels * tails then
    let i := n - firstSyllable
    let pair := [firstLead + i / (vowels * tails), firstVowel + i / tails % vowels]
    some (if i % tails = 0 then pair else pair ++ [firstTail + i % tails])
  else none

/-- The syllable of two parts, the first of which may be a syllable that is still open. -/
def syllable? (a b : Nat) : Option Nat :=
  if firstLead ≤ a ∧ a < firstLead + leads ∧ firstVowel ≤ b ∧ b < firstVowel + vowels then
    some (firstSyllable + ((a - firstLead) * vowels + (b - firstVowel)) * tails)
  else if firstSyllable ≤ a ∧ a < firstSyllable + leads * vowels * tails ∧
      (a - firstSyllable) % tails = 0 ∧ firstTail < b ∧ b < firstTail + tails then
    some (a + (b - firstTail))
  else none

/-! ### Taking apart -/

/-- The characters that a character is made of. What it is made of may be made of others in turn,
which is not the case more than a few times over. -/
def parts : Nat → Nat → List Nat
  | 0, n => [n]
  | depth + 1, n =>
    match syllableParts? n, composites.lookup n with
    | some ps, _ => ps
    | none, some (a, b) => parts depth a ++ parts depth b
    | none, none => [n]

/-- Puts a combining character behind those that it does not come before; the last character comes
first in the list. -/
def arrange (c : Char) : List Char → List Char
  | [] => [c]
  | d :: before =>
    if classOf c ≠ 0 ∧ classOf c < classOf d then d :: arrange c before else c :: d :: before

/-- The characters of a text, taken apart and with combining characters in order. -/
def decompose (cs : List Char) : List Char :=
  ((cs.flatMap fun c => (parts 4 c.toNat).map Char.ofNat).foldl (fun l c => arrange c l) []).reverse

/-! ### Putting together -/

/-- The character that two characters make. -/
def pair? (a b : Char) : Option Char :=
  let listed := (composites.find? fun r => r.2.1 == a.toNat && r.2.2 == b.toNat).map (·.1)
  ((syllable? a.toNat b.toNat).or listed).map Char.ofNat

/-- Puts together what follows a character: `marks` are the combining characters since then that
could not be put together with it, the last one first. One of the same class stands in the way. -/
def composeAfter (start : Char) (marks : List Char) : List Char → List Char
  | [] => start :: marks.reverse
  | c :: rest =>
    let free := marks.head?.all fun d => classOf d < classOf c
    match if free then pair? start c else none with
    | some s => composeAfter s marks rest
    | none =>
      if classOf c = 0 then start :: marks.reverse ++ composeAfter c [] rest
      else composeAfter start (c :: marks) rest

/-- Puts together what can be put together. -/
def compose (cs : List Char) : List Char :=
  match cs.dropWhile (classOf · ≠ 0) with
  | [] => cs
  | start :: rest => cs.takeWhile (classOf · ≠ 0) ++ composeAfter start [] rest

/-- Whether a text is composed. -/
def isComposed (cs : List Char) : Bool := compose (decompose cs) == cs

end KitchenFlow.Url.Composition
