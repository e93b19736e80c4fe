/-!
# Padding to a width

Text is set in columns by adding spaces until it has a given number of characters. A text
that is longer is left whole.

Widths are numbers of characters, not of columns on a screen, so a wide character counts
once. Padding never cuts: by truncated subtraction no space is added where the text is at
least as long as the width. This is why a row made of padded columns can be taken apart even
where a name does not fit its column (`Proofs/CommandLine/Listing.lean`).
-/

namespace TokenSpans.Text

/-- The text followed by spaces up to `width` characters. -/
def padEnd (width : Nat) (s : List Char) : List Char :=
  s ++ List.replicate (width - s.length) ' '

/-- The text with spaces before it up to `width` characters. -/
def padStart (width : Nat) (s : List Char) : List Char :=
  List.replicate (width - s.length) ' ' ++ s

/-- A number in decimal digits, without leading zeros. -/
def decimal (n : Nat) : List Char :=
  Nat.toDigits 10 n

end TokenSpans.Text
