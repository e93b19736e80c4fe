/-!
# Words of 64 bits

Counts are kept as natural numbers. This is how they would be kept in words: the largest
one, and the operations that tell when a result has no room in a word.

Cursors and spans do not compute in words. That this makes no difference for any text that
fits into memory is a theorem about `Cursor/Bytes.lean`, which does (`Proofs/Checked.lean`),
and not an assumption of the model. Where a number comes from outside it is compared with
`max` when it is read (`Json/Numeral.lean`).

The sum comes in two forms because a count may run over in two ways: `add?` has no result,
as for a sum that nobody guards, and `addCapped` stays at the largest number, as for a
length that is going to be cut to the length of the text anyway.
-/

namespace TokenSpans.Word

/-- The largest number that a word holds: 64 ones. -/
def max : Nat :=
  0xFFFFFFFFFFFFFFFF

/-- The sum, if a word holds it. -/
def add? (a b : Nat) : Option Nat :=
  if a + b ≤ max then some (a + b) else none

/-- The sum, or the largest number where a word does not hold it. -/
def addCapped (a b : Nat) : Nat :=
  if a + b ≤ max then a + b else max

/-- The difference, if it is not negative. -/
def sub? (a b : Nat) : Option Nat :=
  if b ≤ a then some (a - b) else none

end TokenSpans.Word
