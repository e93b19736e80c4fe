import TokenSpans.Standard.Tokenise

/-!
# The reports of tokenising

What tokenising says about its work can be told from what it comes to: an opening, four reports for
each token, and an ending that depends on whether all text was taken.

The narration is a function of the tokens and of the outcome alone. It does not look at the
cursor, and the places it names are read off the spans of the tokens: where one token starts
the marker was set, and where it stops the cursor had read to. That this is what is heard,
report by report, is proved in `Proofs/Standard/Narration.lean`.
-/

namespace TokenSpans.Standard

/-- The reports before the first token. -/
def opening (property : String) (source : List Char) : List Report :=
  [.tokenising (Text.byteLength source), .started, .lexerCreated] ++
    rules.map (fun r => .ruleRegistered r.kind) ++ [.installed .lexer property]

/-- The reports of one token, in the order in which it comes about: a marker is set, its
text is read, the token is produced, and the marker is completed. A token without a span
under the property would have none; no token of a run is like this. -/
def tokenReports (property : String) (t : Token) : List Report :=
  match t.spans.get? property with
  | none => []
  | some span =>
    [.marked property span.start,
      .read (Text.byteLength t.value.toList) span.stop,
      .produced t.kind t.value span.stop.line span.stop.column,
      .completed property span.start.offset span.stop.offset]

/-- The reports after the last token. A run that stops early has set one marker more than it
has tokens, and that marker is never completed. -/
def ending (property : String) : Except Fault TokenList → List Report
  | .ok l => [.finished l.tokens.length]
  | .error (.unexpected place snippet) =>
    [.marked property place, .noRuleMatched place, .nothingProduced place.offset,
      .stoppedEarly place.offset snippet]
  | .error _ => []

/-- All reports, given the tokens that were found and what it came to. -/
def narration (property : String) (source : List Char) (tokens : List Token)
    (outcome : Except Fault TokenList) : List Report :=
  opening property source ++ tokens.flatMap (tokenReports property) ++ ending property outcome

end TokenSpans.Standard
