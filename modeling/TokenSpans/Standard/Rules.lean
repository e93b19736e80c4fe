import TokenSpans.Lexer
import TokenSpans.Text.Blank
import TokenSpans.Text.Words

/-!
# The standard rules

Five rules for plain text, in the order in which they are tried. The classes of their characters
overlap: a newline is white space, a digit may stand in a word, and an underscore is punctuation.
The order decides between them.

The place of each rule therefore matters: a newline goes before white space, so that every
newline is a token of its own; a number goes before a word, so that a word does not begin
with a digit; and punctuation goes last, so that an underscore belongs to a word. What the
five rules come to for a whole text is said without rules in `Standard/Segments.lean`.
-/

namespace TokenSpans.Standard

/-- White space inside a line. -/
def isSpace (c : Char) : Bool :=
  c != '\n' && Text.isBlank c

/-- Newlines, runs of white space, of digits and of word characters, and single punctuation. -/
def rules : List Rule :=
  [⟨"newline", .single '\n'⟩,
    ⟨"space", .runOf isSpace⟩,
    ⟨"number", .runOf Text.isDigit⟩,
    ⟨"text", .runOf Text.isWordChar⟩,
    ⟨"punct", .oneOf Text.isPunctuation⟩]

/-- Whether some rule takes a text that begins with this character. Each rule decides by the
first character alone whether it takes anything, so this is also when a text can be read on.
-/
def isAccepted (c : Char) : Bool :=
  c == '\n' || Text.isBlank c || Text.isWordChar c || Text.isPunctuation c

/-- A lexer with the standard rules before the first character of a text. The rules are
added to a lexer that has none, which is heard of as five reports. -/
def lexer (settings : CursorSettings) (text : List Char) : Traced Lexer := do
  let l ← Lexer.ofCursor (Cursor.ofText settings text)
  l.addRules rules

end TokenSpans.Standard
