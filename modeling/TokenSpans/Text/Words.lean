import TokenSpans.Text.Alphabetic
import TokenSpans.Text.Numeric

/-!
# Classes built from the tables

A word is made of alphanumeric characters and underscores. Punctuation is that of ASCII: the four
gaps between its digits and letters.

Both classes are used by the standard rules, and they overlap in one character: the
underscore is a mark of punctuation and may stand in a word. It is left to the order of the
rules which of the two takes it.
-/

namespace TokenSpans.Text

/-- Whether a character is alphabetic or numeric. -/
def isAlphanumeric (c : Char) : Bool :=
  isAlphabetic c || isNumeric c

/-- Whether a character may stand in a word: alphanumeric, or an underscore. -/
def isWordChar (c : Char) : Bool :=
  isAlphanumeric c || c == '_'

/-- Whether a character is a punctuation mark or symbol of ASCII. Marks outside ASCII, such
as a typographic quotation mark, are none of these. -/
def isPunctuation (c : Char) : Bool :=
  (0x21 ≤ c.toNat && c.toNat ≤ 0x2F) || (0x3A ≤ c.toNat && c.toNat ≤ 0x40) ||
    (0x5B ≤ c.toNat && c.toNat ≤ 0x60) || (0x7B ≤ c.toNat && c.toNat ≤ 0x7E)

end TokenSpans.Text
