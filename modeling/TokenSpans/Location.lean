import TokenSpans.Text.Columns
import TokenSpans.Text.Lines

/-!
# Locations

A location is a place between two characters of a text, in two coordinate systems at once: the
number of characters before it, and its line and column. Reading a text moves a location: every
newline begins a line, and the column starts again after the last one.

Locations are written in two ways. `advance` goes from one place to the next and is what a
cursor does; `after` looks at all text read so far and says where its end is. That the two
agree when a text is read in pieces (`Proofs/Place.lean`) is what makes a location a
property of a place in the text, and not of how the reader came there.

The first line and column have a number of their own, `first`, and the offset has not: it
always counts from zero.
-/

namespace TokenSpans

/-- A place in a text. -/
structure Location where
  /-- The number of characters before it. -/
  offset : Nat
  line : Nat
  column : Nat
  deriving DecidableEq, Repr, Inhabited

namespace Location

/-- The place before the first character, where lines and columns count from `first`. -/
def origin (first : Nat) : Location :=
  ⟨0, first, first⟩

/-- The place reached from `l` by reading `text`, where columns count from `first`. A text
with a newline sets the column anew, whatever it was, and one without adds to it. -/
def advance (first : Nat) (l : Location) (text : List Char) : Location where
  offset := l.offset + text.length
  line := l.line + text.count '\n'
  column :=
    if '\n' ∈ text then first + (Text.lastLine text).length else l.column + text.length

/-- The place after `text` when it is read from the origin, computed from the text as a
whole. Nothing here is accumulated, so it serves as the specification of `advance`. -/
def after (first : Nat) (text : List Char) : Location where
  offset := text.length
  line := first + text.count '\n'
  column := first + (Text.lastLine text).length

/-- The place `offset` characters and `lines` lines further on, in the same column. -/
def shift (offset lines : Nat) (l : Location) : Location :=
  { l with offset := l.offset + offset, line := l.line + lines }

/-- Line before column: the order in which a reader meets two places. For places in one text
this is the order of their offsets; the column alone does not grow along a text. -/
def Before (l m : Location) : Prop :=
  l.line < m.line ∨ l.line = m.line ∧ l.column < m.column

instance (l m : Location) : Decidable (Before l m) :=
  inferInstanceAs (Decidable (_ ∨ _))

/-- Line and column with a colon between them. -/
def display (l : Location) : String :=
  String.ofList (Text.decimal l.line ++ ':' :: Text.decimal l.column)

/-- All three numbers with their names. -/
def dump (l : Location) : String :=
  s!"Location \x7b offset: {l.offset}, line: {l.line}, column: {l.column} \x7d"

end Location

end TokenSpans
