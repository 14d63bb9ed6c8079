/-!
# Splitting text at a separator

`splitAt c` cuts a text at every occurrence of the character `c`; joining the pieces with `c` gives
the text back. `cutFirst? c` cuts at the first occurrence only and `cutLast? c` at the last.
`stripStart?` removes a known beginning.
-/

namespace KitchenFlow.Text

/-- The pieces between the occurrences of `c`, empty ones included; there is always at least
one. -/
def splitChars (c : Char) : List Char → List (List Char)
  | [] => [[]]
  | x :: xs =>
    if x = c then [] :: splitChars c xs
    else
      match splitChars c xs with
      | [] => [[x]]
      | piece :: rest => (x :: piece) :: rest

/-- The pieces of a text between the occurrences of `c`. -/
def splitAt (c : Char) (s : String) : List String :=
  (splitChars c s.toList).map String.ofList

/-- What stands before and after the first occurrence of `c`, if there is one. -/
def cutFirst? (c : Char) (s : String) : Option (String × String) :=
  let cs := s.toList
  match cs.dropWhile (· ≠ c) with
  | [] => none
  | _ :: after => some (String.ofList (cs.takeWhile (· ≠ c)), String.ofList after)

/-- What stands before and after the last occurrence of `c`, if there is one. -/
def cutLast? (c : Char) (s : String) : Option (String × String) :=
  let cs := s.toList.reverse
  match cs.dropWhile (· ≠ c) with
  | [] => none
  | _ :: before =>
    some (String.ofList before.reverse, String.ofList (cs.takeWhile (· ≠ c)).reverse)

/-- A text without the occurrences of `c` at its end. -/
def dropTrailing (c : Char) (s : String) : String :=
  String.ofList (s.toList.reverse.dropWhile (· = c)).reverse

/-- What follows `start` in a list of characters that begins with it. -/
def stripChars? : List Char → List Char → Option (List Char)
  | [], rest => some rest
  | _ :: _, [] => none
  | p :: ps, c :: cs => if p = c then stripChars? ps cs else none

/-- What follows `start` in a text that begins with it. -/
def stripStart? (start s : String) : Option String :=
  (stripChars? start.toList s.toList).map String.ofList

/-- Pieces joined by a separator. -/
def join (separator : String) : List String → String
  | [] => ""
  | [s] => s
  | s :: t :: rest => s ++ separator ++ join separator (t :: rest)

theorem splitChars_ne_nil (c : Char) (l : List Char) : splitChars c l ≠ [] := by
  cases l with
  | nil => simp [splitChars]
  | cons x xs =>
    rw [splitChars]
    split
    · simp
    · split <;> simp

end KitchenFlow.Text
