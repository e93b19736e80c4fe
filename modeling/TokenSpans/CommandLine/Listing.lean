import TokenSpans.Excerpt
import TokenSpans.Json.Spans

/-!
# What a run prints

Tokens are printed one to a row, or all of them as JSON. A fault that points into the source is
printed with an excerpt, whose lines and columns count from one whatever the settings say.

The excerpt needs lines and columns from one, and a fault has them as the settings count, so
they are converted by adding one and taking the first number away. For a fault that a run
produces the numbers are never below the first one, so nothing is lost by truncated
subtraction. The row of a token puts the variable texts in columns, but the columns may be
overrun: `Proofs/CommandLine/Listing.lean` shows that a row determines its token all the
same.
-/

namespace TokenSpans.CommandLine

/-- The row of a token: kind, quoted value, offsets and span, or the first two without a
span. The value is quoted, so no newline in a token breaks its row. -/
def row (property : String) (t : Token) : List Char :=
  let kind := Text.padEnd 8 t.kind.toList
  let value := Text.quoteChars t.value.toList
  match t.spans.get? property with
  | none => kind ++ ' ' :: value
  | some span =>
    kind ++ ' ' :: Text.padEnd 16 value ++ [' ', '['] ++ Text.decimal span.start.offset ++
      [',', ' '] ++ Text.decimal span.stop.offset ++ [']', ' '] ++ span.display.toList

/-- All rows, each ended by a newline. -/
def listing (l : TokenList) : String :=
  String.ofList (l.tokens.flatMap (fun t => row l.property t ++ ['\n']))

/-- The tokens as JSON in lines. -/
def jsonListing (l : TokenList) : String :=
  String.ofList (l.toValue.lines 0 ++ ['\n'])

/-- The line and column of a fault, counted from one; a fault that points nowhere has none.
-/
def placeFromOne? (numbering : Numbering) (f : Fault) : Option (Nat × Nat) :=
  f.place?.map (fun place => (place.1 + 1 - numbering.first, place.2 + 1 - numbering.first))

/-- The excerpt that goes with a fault, if it points to a line of the source. -/
def faultExcerpt? (numbering : Numbering) (source : List Char) (f : Fault) : Option (List Char) :=
  (placeFromOne? numbering f).bind (fun place => Excerpt.render? source place.1 place.2)

/-- The message of a fault and the excerpt that goes with it. Where there is no excerpt the
message stands alone. -/
def explain (numbering : Numbering) (source : List Char) (f : Fault) : String :=
  "error: " ++ f.message ++ "\n" ++
    String.ofList ((faultExcerpt? numbering source f).getD [])

end TokenSpans.CommandLine
