import TokenSpans.Lexer
import TokenSpans.Marker

/-!
# Hosts

A host yields tokens one by one: a lexer, or a chunker, which knows no rules and cuts the text into
pieces of one size. Any host that declares a role may be tracked under a name, and then every token
it yields carries its span under that name. A tracked host is a host again and may be tracked once
more under another name, to any depth.

Tracking is a constructor and not a change to the host inside: the lexer below keeps its
rules and its cursor, and each tracking adds one marker around what the inside does. So the
definitions are by recursion on the host, with one case for each way it is made, and proofs
about hosts of any depth are inductions with the same three cases.

Two things stop a run: the end of the text, and a host that yields nothing. Lexers and
trackings always leave less text behind a token (`next_shortens`), but a chunker with pieces
of size zero would yield empty tokens for ever. `moves` excludes it from the recursion,
which is on the length of the text.
-/

namespace TokenSpans

/-- A host that cuts the text into pieces of one size, under a role of its own. -/
structure Chunker where
  cursor : Cursor
  role : Option Role
  /-- The size of a piece in bytes. -/
  size : Nat

/-- What others see of a chunker: no label, and nobody to be told. -/
def Chunker.view (c : Chunker) : View where
  location := c.cursor.location
  ahead := c.cursor.ahead
  role := c.role
  source := none
  observer := none

/-- Something that yields tokens from a text. -/
inductive Host
  | lexer (l : Lexer)
  | chunker (c : Chunker)
  /-- The host inside, with every token it yields marked under the name. -/
  | tracked (inner : Host) (name : String)

namespace Host

/-- What can be seen of a host; tracking changes nothing about it. -/
def view : Host → View
  | lexer l => l.cursor.view
  | chunker c => c.view
  | tracked inner _ => inner.view

/-- The cursor inside, however deep. -/
def cursor : Host → Cursor
  | lexer l => l.cursor
  | chunker c => c.cursor
  | tracked inner _ => inner.cursor

/-- The host with another cursor inside, under the same trackings. -/
def withCursor (c : Cursor) : Host → Host
  | lexer l => lexer { l with cursor := c }
  | chunker k => chunker { k with cursor := c }
  | tracked inner name => tracked (inner.withCursor c) name

/-- The lexer inside, if there is one. -/
def lexer? : Host → Option Lexer
  | lexer l => some l
  | chunker _ => none
  | tracked inner _ => inner.lexer?

/-- The host with another lexer in place of the one inside; a chunker is left as it is. -/
def withLexer (l : Lexer) : Host → Host
  | lexer _ => lexer l
  | chunker c => chunker c
  | tracked inner name => tracked (inner.withLexer l) name

/-- The names under which the tokens are marked, the innermost first. -/
def names : Host → List String
  | tracked inner name => inner.names ++ [name]
  | _ => []

/-- Tracks a host under a name; a host that declares no role is refused. A refusal is heard
of and changes nothing: the host is not part of the outcome. -/
def track (h : Host) (name : String) : Action Host :=
  match h.view.role with
  | none => do
    Traced.report .refused
    Action.fail .noRole
  | some role => do
    Traced.report (.installed role name)
    return tracked h name

/-- The next token, marked once for each tracking. -/
def next : Host → Action (Host × Option Token)
  | lexer l => do
    let (l, token) ← l.next
    return (lexer l, token)
  | chunker c => do
    let (cursor, token) ← c.cursor.chunk c.size
    return (chunker { c with cursor }, token)
  | tracked inner name => do
    let (inner, token) ← Marker.around name view inner inner.next
    return (tracked inner name, token)

/-- The token of the first rule of a kind, marked once for each tracking. A chunker has no
rules and yields none, in silence. -/
def tryKind (kind : String) : Host → Action (Host × Option Token)
  | lexer l => do
    let (l, token) ← l.tryKind kind
    return (lexer l, token)
  | chunker c => return (chunker c, none)
  | tracked inner name => do
    let (inner, token) ← Marker.around name view inner (inner.tryKind kind)
    return (tracked inner name, token)

/-- Whether every token takes some text: a chunker with pieces of size zero stays where it is. -/
def moves : Host → Bool
  | lexer _ => true
  | chunker c => 0 < c.size
  | tracked inner _ => inner.moves

/-- A host that moves has less text left after every token. By induction on the host: the
two plain hosts have lemmas of their own, and a tracking yields what the host inside yields.
-/
theorem next_shortens {h next : Host} {token : Token} (hmoves : h.moves = true)
    (hyield : h.next.value = .ok (next, some token)) :
    next.view.ahead.length < h.view.ahead.length := by
  induction h generalizing next token with
  | lexer l =>
    obtain ⟨⟨reached, yielded⟩, hstep, hnext⟩ := Action.of_bind_eq_ok hyield
    simp only [Action.lift_traced_value, Action.pure_value, Except.ok.injEq, Prod.mk.injEq]
      at hstep hnext
    obtain ⟨rfl, rfl⟩ := hnext
    exact Lexer.next_shortens hstep
  | chunker c =>
    obtain ⟨⟨reached, yielded⟩, hstep, hnext⟩ := Action.of_bind_eq_ok hyield
    simp only [Action.lift_traced_value, Action.pure_value, Except.ok.injEq, Prod.mk.injEq]
      at hstep hnext
    obtain ⟨rfl, rfl⟩ := hnext
    exact Cursor.chunk_shortens (by simpa [moves] using hmoves) hstep
  | tracked inner name ih =>
    obtain ⟨⟨reached, yielded⟩, hstep, hnext⟩ := Action.of_bind_eq_ok hyield
    simp only [Action.pure_value, Except.ok.injEq, Prod.mk.injEq] at hnext
    obtain ⟨rfl, rfl⟩ := hnext
    obtain ⟨bare, hbare⟩ := Marker.of_around_eq_some hstep
    have hless := ih hmoves hbare
    exact hless

/--
All tokens up to the end, or up to the first place where none is yielded. A host that does not move
would yield for ever, so it is left after one token.
-/
def tokenise (h : Host) : Action (Host × List Token) :=
  if h.view.ahead.isEmpty then pure (h, [])
  else
    let step := h.next
    match _hstep : step.value with
    | .error fault => ⟨.error fault, step.effects⟩
    | .ok (next, none) => ⟨.ok (next, []), step.effects⟩
    | .ok (next, some token) =>
      if _hmoves : h.moves = true then
        let rest := next.tokenise
        ⟨rest.value.map (fun found => (found.1, token :: found.2)), step.effects ++ rest.effects⟩
      else ⟨.ok (next, [token]), step.effects⟩
termination_by h.view.ahead.length
decreasing_by exact next_shortens _hmoves _hstep

end Host

end TokenSpans
