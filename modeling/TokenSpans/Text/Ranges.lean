/-!
# Sorted ranges of numbers

A set of character numbers is kept as a list of ranges, both ends included, in increasing
order. Looking a number up stops at the first range that begins above it, so the common
small characters are settled by the first few entries of a table.

The classes of characters are data and not code: `blankRanges`, `numericRanges`,
`casedRanges` and their like are lists that this one function reads, so a new version of the
character tables changes lists and no proof. Nothing in the function needs the order: a list
that is out of order would only be found to hold too little. Where a result depends on what
a table holds, as in `Proofs/Spelling.lean`, it is computed from the table itself.
-/

namespace TokenSpans.Text

/-- Whether a number lies in one of the given ranges, which are listed in increasing order.
The conjunction is what stops the search: behind a range that begins above the number
nothing is looked at. -/
def covers : List (Nat × Nat) → Nat → Bool
  | [], _ => false
  | (low, high) :: rest, n => low ≤ n && (n ≤ high || covers rest n)

end TokenSpans.Text
