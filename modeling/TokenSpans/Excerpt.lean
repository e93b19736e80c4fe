import TokenSpans.Text.Columns
import TokenSpans.Text.Lines

/-!
# Excerpts

An excerpt shows a place in a source: the line it is in with up to two lines on either side, each
behind its number, and a caret below the place. Lines and columns count from one here. There is no
excerpt for a line that the source does not have.

An excerpt is built in two steps: `rows` lays out rows as lists of characters, without any
newline, and `ofRows` joins them. Statements are made about the rows, in which a character
has a column; the text is taken apart into its rows again in `Proofs/Rows.lean`.

The column is not checked. A column beyond the end of its line puts the caret there, to the
right of the text, and a column of zero puts it below the first character.
-/

namespace TokenSpans.Excerpt

/-- How many lines are shown before and after the line in question. -/
def margin : Nat :=
  2

/-- The number of the first line that is shown. -/
def firstLine (line : Nat) : Nat :=
  max (line - margin) 1

/-- The number of the last line that is shown, of a source with `count` lines. -/
def lastLine (count line : Nat) : Nat :=
  min (line + margin) count

/-- The room for line numbers: the digits of the largest one that is shown. It is the same
for all rows of an excerpt, so that the bars stand below each other. -/
def gutter (count line : Nat) : Nat :=
  (Text.decimal (lastLine count line)).length

/-- The row above and below the lines. -/
def border (width : Nat) : List Char :=
  List.replicate (width + 1) '-' ++ ['|', '-', '-']

/-- A line behind its number. -/
def sourceRow (width number : Nat) (line : List Char) : List Char :=
  Text.padStart width (Text.decimal number) ++ [' ', '|', ' '] ++ line

/-- The caret below a column, in a row without a number. -/
def caretRow (width column : Nat) : List Char :=
  Text.padStart width [] ++ [' ', '|', ' '] ++ List.replicate (column - 1) ' ' ++ ['^']

/-- The rows for lines that are numbered from `number` on, with the caret after its line.
The recursion is on the lines shown, and the number counts up with them. -/
def sourceRows (width line column : Nat) : Nat → List (List Char) → List (List Char)
  | _, [] => []
  | number, text :: rest =>
    if number = line then
      sourceRow width number text :: caretRow width column ::
        sourceRows width line column (number + 1) rest
    else sourceRow width number text :: sourceRows width line column (number + 1) rest

/-- All rows of an excerpt of a source, given as its lines. `firstLine` is at least one, so
dropping one less than it drops just the lines above. -/
def rows (lines : List (List Char)) (line column : Nat) : List (List Char) :=
  let first := firstLine line
  let last := lastLine lines.length line
  let width := gutter lines.length line
  let shown := (lines.drop (first - 1)).take (last + 1 - first)
  border width :: sourceRows width line column first shown ++ [border width]

/-- Rows as a text, each ended by a newline. -/
def ofRows (rows : List (List Char)) : List Char :=
  rows.flatMap (fun row => row ++ ['\n'])

/-- The excerpt of a source at a line and column, if the source has the line. -/
def render? (source : List Char) (line column : Nat) : Option (List Char) :=
  let lines := Text.splitLines source
  if line = 0 ∨ lines.length < line then none
  else some (ofRows (rows lines line column))

end TokenSpans.Excerpt
