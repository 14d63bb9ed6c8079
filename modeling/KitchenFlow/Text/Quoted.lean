import KitchenFlow.Text.Printable
import KitchenFlow.Text.Split

/-!
# Quoted text

In messages a text is shown in double quotes. Quotes, backslashes and the usual control characters
are written as two-character escapes, and every other character that is not printable as its code
point in hexadecimal.
-/

namespace KitchenFlow.Text

/-- One character of a quoted text. -/
def quotedChar (c : Char) : List Char :=
  if c.toNat = 0 then ['\\', '0']
  else if c = '\t' then ['\\', 't']
  else if c = '\r' then ['\\', 'r']
  else if c = '\n' then ['\\', 'n']
  else if c = '"' then ['\\', '"']
  else if c = '\\' then ['\\', '\\']
  else if isPrintable c then [c]
  else ['\\', 'u', '\x7b'] ++ Nat.toDigits 16 c.toNat ++ ['\x7d']

/-- A text in quotes. -/
def quoted (s : String) : String :=
  String.ofList ('"' :: s.toList.flatMap quotedChar ++ ['"'])

/-- A character in single quotes. -/
def quotedLetter (c : Char) : String :=
  String.ofList <|
    '\'' :: (if c = '\'' then ['\\', '\''] else if c = '"' then [c] else quotedChar c)
    ++ ['\'']

/-- Several texts in quotes, as a list in brackets. -/
def quotedList (ss : List String) : String :=
  "[" ++ join ", " (ss.map quoted) ++ "]"

end KitchenFlow.Text
