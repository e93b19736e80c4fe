import TokenSpans.Host

/-!
# Requests to hosts

What can be asked of a lexer can be asked of a tracked host in the same words: the next token, the
token of a rule, or all tokens. Each request yields a list, of one token at most in the first two
cases.

This is the vocabulary for comparing the two: the same list of requests is served by a bare
lexer and by the lexer under any number of trackings, and the replies are compared one by
one. A request to a lexer cannot fail, while a request to a host is an `Action`, since
completing a marker may; that it never does along a run is part of the comparison.
-/

namespace TokenSpans

/-- One thing asked of a host. -/
inductive Request
  | next
  | ofKind (kind : String)
  | all
  deriving DecidableEq, Repr

/-- What a lexer does on a request. -/
def Lexer.serve (l : Lexer) : Request → Traced (Lexer × List Token)
  | .next => do
    let (l, token) ← l.next
    return (l, token.toList)
  | .ofKind kind => do
    let (l, token) ← l.tryKind kind
    return (l, token.toList)
  | .all => l.tokenise

/-- What a lexer does on several requests. -/
def Lexer.serveAll (l : Lexer) : List Request → Traced (Lexer × List (List Token))
  | [] => pure (l, [])
  | request :: rest => do
    let (l, tokens) ← l.serve request
    let (l, more) ← l.serveAll rest
    return (l, tokens :: more)

namespace Host

/-- A lexer under trackings with the given names, the first one innermost. -/
def tracking (l : Lexer) (names : List String) : Host :=
  names.foldl tracked (lexer l)

/-- What a host does on a request. -/
def serve (h : Host) : Request → Action (Host × List Token)
  | .next => do
    let (h, token) ← h.next
    return (h, token.toList)
  | .ofKind kind => do
    let (h, token) ← h.tryKind kind
    return (h, token.toList)
  | .all => h.tokenise

/-- What a host does on several requests. -/
def serveAll (h : Host) : List Request → Action (Host × List (List Token))
  | [] => pure (h, [])
  | request :: rest => do
    let (h, tokens) ← h.serve request
    let (h, more) ← h.serveAll rest
    return (h, tokens :: more)

end Host

end TokenSpans
