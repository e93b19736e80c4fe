import TokenSpans.Text.Blank
import TokenSpans.Text.Words

/-!
# Segments

How a text falls into pieces, said by recursion on the text and without any rules: the first
character decides the kind of a piece and how far it goes. Single characters are newlines and
punctuation; white space inside a line, digits and words go as far as they can. The pieces end
before the first character that belongs to no class.

This is the specification against which tokenising with the standard rules is measured: two
mutually unrelated definitions, one by rules and cursors, one by recursion on the
characters, shown to agree for every text (`Proofs/Standard/Segments.lean`). No fuel is
needed: each piece takes at least the character it begins with.
-/

namespace TokenSpans.Standard

/-- White space that does not end the line. It is written the other way round than the class
of the rule, so that the pieces are not tied to how the rule is put. -/
def isInlineBlank (c : Char) : Bool :=
  Text.isBlank c && c != '\n'

/-- A kind and the text of that kind: what is left of a token without its spans. -/
abbrev Segment : Type :=
  String × List Char

/-- The pieces of a text. -/
def segments : List Char → List Segment
  | [] => []
  | c :: rest =>
    if c = '\n' then ("newline", [c]) :: segments rest
    else if Text.isBlank c then
      ("space", c :: rest.takeWhile isInlineBlank) :: segments (rest.dropWhile isInlineBlank)
    else if Text.isDigit c then
      ("number", c :: rest.takeWhile Text.isDigit) :: segments (rest.dropWhile Text.isDigit)
    else if Text.isWordChar c then
      ("text", c :: rest.takeWhile Text.isWordChar) :: segments (rest.dropWhile Text.isWordChar)
    else if Text.isPunctuation c then ("punct", [c]) :: segments rest
    -- no class holds the character, and the pieces end here
    else []
termination_by s => s.length
decreasing_by
  · exact Nat.lt_succ_self _
  · exact Nat.lt_succ_of_le (List.dropWhile_sublist isInlineBlank).length_le
  · exact Nat.lt_succ_of_le (List.dropWhile_sublist Text.isDigit).length_le
  · exact Nat.lt_succ_of_le (List.dropWhile_sublist Text.isWordChar).length_le
  · exact Nat.lt_succ_self _

end TokenSpans.Standard
