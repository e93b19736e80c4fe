import TokenSpans.Cursor
import TokenSpans.Rule

/-!
# Lexers

A lexer is a cursor with a list of rules. It tries them in order on the text ahead, and the first
one that takes something yields a token. Since a rule never takes nothing, every token leaves less
text than there was, which is why tokenising ends.

`next` and `tryKind` differ in more than which rules they try. `next` asks first whether the
text is at its end and then reads nothing, while `tryKind` runs the rule of the kind on
whatever is ahead, also on the empty text, where a matcher that answers with a length all
the same yields an empty token (`Proofs/Progress.lean`). `tokenise` is built on `next`
alone, and its recursion is on the length of the text ahead: there is no fuel, and no bound
on the number of tokens beyond that of the characters.

The effects are kept in the order in which they happen. `tokenise` joins those of a step and
those of the rest by hand, since the well-founded recursion has to see the value of the
step.
-/

namespace TokenSpans

/-- A cursor and the rules tried on the text ahead of it, the first one first. -/
structure Lexer where
  cursor : Cursor
  rules : List Rule

namespace Lexer

/-- A lexer without rules that takes the cursor over and declares itself a lexer. -/
def ofCursor (c : Cursor) : Traced Lexer := do
  Traced.report .lexerCreated
  return ⟨c.setRole (some .lexer), []⟩

/-- Adds a rule, to be tried after those there are. A rule of a kind that is taken is added
as well. -/
def addRule (l : Lexer) (r : Rule) : Traced Lexer := do
  Traced.report (.ruleRegistered r.kind)
  return { l with rules := l.rules ++ [r] }

/-- Adds several rules in order. -/
def addRules (l : Lexer) : List Rule → Traced Lexer
  | [] => pure l
  | r :: rest => do
    let l ← l.addRule r
    l.addRules rest

/-- The kinds of the rules in order. -/
def kinds (l : Lexer) : List String :=
  l.rules.map Rule.kind

/-- Reads `bytes` bytes as a token of the rule's kind. The token has what was read as its
value, which is more than `bytes` bytes where these end inside a character. -/
def take (l : Lexer) (r : Rule) (bytes : Nat) : Traced (Lexer × Token) := do
  let (cursor, piece) ← l.cursor.read bytes
  let value := String.ofList piece
  Traced.report (.produced r.kind value cursor.location.line cursor.location.column)
  return ({ l with cursor }, Token.bare r.kind value)

/-- Tries the first rule of a kind and no other: a second rule of the kind is never asked,
even where the first does not match. -/
def tryKind (l : Lexer) (kind : String) : Traced (Lexer × Option Token) :=
  match l.rules.find? (fun r => r.kind == kind) with
  | none => do
    Traced.report (.unknownRule kind)
    return (l, none)
  | some r =>
    match r.matchLength l.cursor.ahead with
    | none => pure (l, none)
    | some bytes => do
      let (next, token) ← l.take r bytes
      return (next, some token)

/-- The next token: what the first rule that matches takes. Where there is none the lexer is
as it was, and the report tells which of the two reasons it has. -/
def next (l : Lexer) : Traced (Lexer × Option Token) :=
  if l.cursor.isDone then do
    Traced.report .endOfInput
    return (l, none)
  else
    match Rule.firstMatch l.rules l.cursor.ahead with
    | none => do
      Traced.report (.noRuleMatched l.cursor.location)
      return (l, none)
    | some (r, bytes) => do
      let (next, token) ← l.take r bytes
      return (next, some token)

/-- A rule that takes at least one byte leaves less text. -/
theorem take_shortens {l : Lexer} {bytes : Nat} (r : Rule) (hpos : 0 < bytes)
    (hne : l.cursor.ahead ≠ []) :
    (l.take r bytes).value.1.cursor.ahead.length < l.cursor.ahead.length :=
  Text.coverBytes_length_lt hpos hne

/-- Every token leaves less text. -/
theorem next_shortens {l reached : Lexer} {token : Token}
    (h : l.next.value = (reached, some token)) :
    reached.cursor.ahead.length < l.cursor.ahead.length := by
  simp only [next] at h
  split at h
  · simp at h
  · rename_i hdone
    split at h
    · simp at h
    · rename_i r bytes hfirst
      simp only [Traced.bind_value, Traced.pure_value, Prod.mk.injEq] at h
      rw [← h.1]
      -- the rule takes something, and there is something to take: otherwise the lexer would
      -- be done
      refine take_shortens r (Rule.firstMatch_pos hfirst) (fun hnil => hdone ?_)
      simp [Cursor.isDone, hnil]

/-- All tokens up to the end, or up to the first place where no rule matches. At the end of
the text it stops without asking for a token, so the end is not heard of. -/
def tokenise (l : Lexer) : Traced (Lexer × List Token) :=
  if l.cursor.isDone then pure (l, [])
  else
    let step := l.next
    match _hstep : step.value with
    | (next, none) => ⟨(next, []), step.effects⟩
    | (next, some token) =>
      let rest := next.tokenise
      ⟨(rest.value.1, token :: rest.value.2), step.effects ++ rest.effects⟩
termination_by l.cursor.ahead.length
decreasing_by exact next_shortens _hstep

/-- The cursor and the kinds of the rules. -/
def dump (l : Lexer) : String :=
  "RuleLexer \x7b cursor: " ++ l.cursor.dump ++ ", rules: [" ++
    String.intercalate ", " (l.rules.map Rule.dump) ++ "] \x7d"

end Lexer

end TokenSpans
