/-!
# Tokens

A token is a word of a message head: letters, digits and some signs, all of them ASCII. Methods and
the parts of media types are tokens. The rest of a head is header text, which may hold anything but
control characters.
-/

namespace KitchenFlow.Text

/-- The signs that a token may hold besides letters and digits. -/
def tokenSigns : List Char := "!#$%&'*+-.^_\x60|~".toList

/-- Whether a character may stand in a token. -/
def isTokenChar (c : Char) : Bool := c.isAlphanum || tokenSigns.contains c

/-- Whether a text is a token. -/
def isToken (s : String) : Bool := s != "" && s.toList.all isTokenChar

/-- Whether a character may stand in the value of a header. -/
def isHeaderChar (c : Char) : Bool := c == '\t' || (0x20 ≤ c.toNat && c.toNat != 0x7F)

/-- Whether a text may be the value of a header. -/
def isHeaderText (s : String) : Bool := s.toList.all isHeaderChar

end KitchenFlow.Text
