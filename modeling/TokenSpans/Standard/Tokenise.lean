import TokenSpans.Host
import TokenSpans.Standard.Rules

/-!
# Tokenising a source

The standard lexer, tracked under the name that the settings give, run over a whole source. It is a
fault if some of the source is left: the fault tells where, and shows the beginning of the rest.

Everything is put together here and nothing new is added: the lexer, its tracking and the
run are those of `Host`, and `conclude` only looks at where the run stopped. A run that
stops early has yielded tokens, but they are not part of the outcome, only of what was
heard.
-/

namespace TokenSpans

/-- The tokens of a source and the name under which each carries its span. -/
structure TokenList where
  property : String
  tokens : List Token
  deriving DecidableEq, Repr

namespace Standard

/-- How many characters of the rest a fault shows at most. -/
def snippetLength : Nat :=
  16

/-- The beginning of a text that no rule takes. -/
def snippet (rest : List Char) : List Char :=
  rest.take snippetLength

/-- What tokenising comes to, given where the host stopped and what it yielded. The two
cases are told apart by the text that is left and not by the number of tokens: an empty
source has no tokens and is tokenised. -/
def conclude (property : String) (view : View) (tokens : List Token) : Action TokenList :=
  if view.ahead.isEmpty then do
    Traced.report (.finished tokens.length)
    return ⟨property, tokens⟩
  else do
    Traced.report (.stoppedEarly view.location.offset (snippet view.ahead))
    Action.fail (.unexpected view.location (snippet view.ahead))

/-- The tokens of a source, each with its span. -/
def tokenise (settings : Settings) (source : List Char) : Action TokenList := do
  Traced.report (.tokenising (Text.byteLength source))
  Traced.report .started
  let l ← lexer settings.cursor source
  let host ← (Host.lexer l).track settings.span.property
  let (host, tokens) ← host.tokenise
  conclude settings.span.property host.view tokens

end Standard

end TokenSpans
