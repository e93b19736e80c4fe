import TokenSpans.Text.Ranges

/-!
# Blank characters

The characters with the Unicode property White_Space. A newline is one of them; the separators
0x1C to 0x1F of ASCII and the zero width space are not.

The table is short enough to be read: the controls from tab to carriage return and the space
are what ASCII has of them, 0x85 and 0xA0 come from Latin-1, and the rest are the spaces and
separators of the typographic blocks.
-/

namespace TokenSpans.Text

/-- The ranges of the property White_Space. -/
def blankRanges : List (Nat × Nat) :=
  [(0x09, 0x0D), (0x20, 0x20), (0x85, 0x85), (0xA0, 0xA0), (0x1680, 0x1680), (0x2000, 0x200A),
   (0x2028, 0x2029), (0x202F, 0x202F), (0x205F, 0x205F), (0x3000, 0x3000)]

/-- Whether a character is white space. -/
def isBlank (c : Char) : Bool :=
  covers blankRanges c.toNat

end TokenSpans.Text
