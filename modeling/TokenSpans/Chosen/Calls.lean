import TokenSpans.Chosen

/-!
# Calls to the settings of a process

Everything that a process can do with its settings, as a list of calls from the beginning.

The replies are kept apart by constructors, one for each kind of call, so that the list of
replies says what a process could have seen and nothing else: what is proved of a history
is proved of it.
-/

namespace TokenSpans.Chosen

/-- One call. Tokenising is among the calls since it uses the settings and thereby chooses
them. -/
inductive Call
  | choose (settings : Settings)
  | current
  | isChosen
  | tokenise (source : List Char)

/-- What a call yields. -/
inductive Reply
  | chosen (outcome : Except Refusal Unit)
  | settings (s : Settings)
  | flag (b : Bool)
  | tokens (work : Action TokenList)

/-- Does one call. -/
def answer (c : Chosen) : Call → Chosen × Reply
  | .choose settings =>
    let done := c.choose settings
    (done.1, .chosen done.2)
  | .current =>
    let done := c.current
    (done.1, .settings done.2)
  | .isChosen => (c, .flag c.isChosen)
  | .tokenise source =>
    let done := c.tokenise source
    (done.1, .tokens done.2)

/-- Does one call after the other, each on the cell that the calls before it left. -/
def answerAll (c : Chosen) : List Call → Chosen × List Reply
  | [] => (c, [])
  | call :: rest =>
    let done := c.answer call
    let more := done.1.answerAll rest
    (more.1, done.2 :: more.2)

end TokenSpans.Chosen
