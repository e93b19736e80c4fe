import TokenSpans.Text.LowerCase

/-!
# Where numbering starts

Lines and columns are counted from zero or from one. Offsets are not concerned: they count the
characters read so far and always start at zero.

The number is the only thing on which the two ways of counting differ, so a cursor keeps the
number and not the choice (`first`), and results about cursors hold for every number.
-/

namespace TokenSpans

/-- The number given to the first line and to the first column. -/
inductive Numbering
  | zero
  | one
  deriving DecidableEq, Repr, Inhabited

namespace Numbering

/-- The first line or column as a number. -/
def first : Numbering → Nat
  | zero => 0
  | one => 1

/-- The name in configuration files. -/
def name : Numbering → String
  | zero => "zero"
  | one => "one"

/-- Reads a numeral or a name; ASCII capitals count as small letters. -/
def parse? (s : String) : Option Numbering :=
  let small := String.ofList (Text.lowerAscii s.toList)
  if small = "0" ∨ small = "zero" then some zero
  else if small = "1" ∨ small = "one" then some one
  else none

end Numbering

end TokenSpans
