import TokenSpans.Fault

/-!
# Spans

A span is what lies between two locations of one text, with the label of the text it comes from. It
holds the offsets from its start up to, but not including, its end. A span built from two samples
never runs backwards; one that is written down field by field may, and then holds no offset.

The two ways of making a span are kept apart on purpose. `between` is the checked one, which
all marking goes through, so every span that a run attaches goes forward. The fields are
open to everyone else, and a span read from a file may run backwards: `length` and
`contains` then treat it as holding nothing, while `isEmpty` compares the two offsets and
does not call it empty. What the accessors say of each other in either case is proved in
`Proofs/Spans.lean`.
-/

namespace TokenSpans

/-- A stretch of a text. -/
structure Span where
  start : Location
  stop : Location
  /-- The label of the text, if it has one. -/
  source : Option String
  deriving DecidableEq, Repr, Inhabited

namespace Span

/-- The span between two samples; it is a fault if the second has the smaller offset. Lines
and columns are taken as they are: only the offsets are compared. -/
def between (start stop : Location) (source : Option String) : Except Fault Span :=
  if start.offset ≤ stop.offset then .ok ⟨start, stop, source⟩
  else .error (.backwards start.offset stop.offset)

/-- The number of characters in the span, by truncated subtraction: zero for a span that
runs backwards. -/
def length (s : Span) : Nat :=
  s.stop.offset - s.start.offset

/-- Whether the span holds no character: it is not said to be empty when it runs backwards. -/
def isEmpty (s : Span) : Bool :=
  s.start.offset == s.stop.offset

/-- Whether the character at `offset` lies in the span. The end belongs to what comes after.
-/
def contains (s : Span) (offset : Nat) : Bool :=
  s.start.offset ≤ offset && offset < s.stop.offset

/-- Both ends moved on by the same amounts, as where a text is read behind another one that
ends with a newline: columns stay as they are. -/
def shift (offset lines : Nat) (s : Span) : Span :=
  { s with start := s.start.shift offset lines, stop := s.stop.shift offset lines }

/-- The two places with a dash between them, after the label and a colon if there is a label. -/
def display (s : Span) : String :=
  match s.source with
  | some label => label ++ ":" ++ s.start.display ++ "-" ++ s.stop.display
  | none => s.start.display ++ "-" ++ s.stop.display

/-- All fields with their names. -/
def dump (s : Span) : String :=
  "PositionRange \x7b start: " ++ s.start.dump ++ ", end: " ++ s.stop.dump ++ ", source: " ++
    Text.quotedOption s.source ++ " \x7d"

end Span

end TokenSpans
