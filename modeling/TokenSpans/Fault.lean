import TokenSpans.Location
import TokenSpans.Text.Quoted

/-!
# What can go wrong

The reasons for which marking or tokenising fails, each with what is needed to explain it.

A fault is data, not text: `message` puts it into words only where it is shown, and `place?`
gives the line and column to whoever draws an excerpt. So a result about a fault speaks of
offsets and snippets and does not have to take a message apart. Of the three, tokenising a
text can end only in `unexpected` (`Proofs/Standard/Acceptance.lean`).
-/

namespace TokenSpans

/-- A reason why a span or a list of tokens cannot be produced. -/
inductive Fault
  /-- A span would end before it starts; the two offsets are given. -/
  | backwards (start stop : Nat)
  /-- Spans were asked of a host that declares no role. -/
  | noRole
  /-- No rule matches the text at this place; its beginning is shown. -/
  | unexpected (place : Location) (snippet : List Char)
  deriving DecidableEq, Repr

namespace Fault

/-- The explanation of a fault in one line; a snippet is shown in its quoted form, so it
stays in the line. -/
def message : Fault → String
  | backwards start stop => s!"position range runs backwards: {start} > {stop}"
  | noRole =>
    "expected a lexer or tokenizer instance; the target declares no capability marker"
  | unexpected place snippet =>
    s!"unexpected input at {place.display}: " ++ Text.quoted (String.ofList snippet)

/-- The line and column a fault points at, if it points into a text. -/
def place? : Fault → Option (Nat × Nat)
  | unexpected place _ => some (place.line, place.column)
  | _ => none

end Fault

end TokenSpans
