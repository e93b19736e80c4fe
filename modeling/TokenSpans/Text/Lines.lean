/-!
# Lines of a text

A newline ends one line and begins the next, so a text with `n` newlines has `n + 1` lines, and the
last one may be empty.

`splitLines` never yields an empty list: the text without characters has one line, which is
empty. The inner `match` has a case for the empty list all the same, since the type of the
recursive call does not say so, and `splitLines_ne_nil` is there to rule it out.

Lines are those that the location of a cursor counts. A carriage return does not end a line
and stays with the line it is in.
-/

namespace TokenSpans.Text

/-- The lines of a text, without the newlines between them. -/
def splitLines : List Char → List (List Char)
  | [] => [[]]
  | c :: rest =>
    if c = '\n' then [] :: splitLines rest
    else
      match splitLines rest with
      | [] => [[c]]
      | line :: more => (c :: line) :: more

/-- What stands after the last newline: the whole text if there is none. -/
def lastLine (s : List Char) : List Char :=
  (s.reverse.takeWhile (fun c => c != '\n')).reverse

/-- A text has a line, even if it has no characters. -/
theorem splitLines_ne_nil (s : List Char) : splitLines s ≠ [] := by
  cases s with
  | nil => simp [splitLines]
  | cons c rest =>
    simp only [splitLines]
    split
    · simp
    · split <;> simp

/-- There is one line more than there are newlines. -/
theorem length_splitLines (s : List Char) : (splitLines s).length = s.count '\n' + 1 := by
  induction s with
  | nil => rfl
  | cons c rest ih =>
    simp only [splitLines]
    by_cases hc : c = '\n'
    · simp [hc, ih]
    · cases hrest : splitLines rest with
      | nil => exact absurd hrest (splitLines_ne_nil rest)
      | cons line more => simp [hc, ← ih, hrest]

end TokenSpans.Text
