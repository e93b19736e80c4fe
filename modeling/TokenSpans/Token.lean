import TokenSpans.Spans

/-!
# Tokens

A token is a piece of text with the kind of the rule that took it and the spans attached to it.

Spans are attached to a token after it is made, one for each tracking it passes through, and
neither its kind nor its value depends on them. `strip` forgets them again: what a tracked
host yields is compared with what a bare lexer yields by stripping the tokens of the former.
-/

namespace TokenSpans

/-- A piece of text of a known kind. -/
structure Token where
  kind : String
  /-- The text itself, as it stands in the source. -/
  value : String
  spans : Spans
  deriving DecidableEq, Repr

namespace Token

/-- A token without spans. -/
def bare (kind value : String) : Token :=
  ⟨kind, value, .empty⟩

/-- The token without the spans attached to it. -/
def strip (t : Token) : Token :=
  bare t.kind t.value

/-- The token with its spans moved on. -/
def shift (offset lines : Nat) (t : Token) : Token :=
  { t with spans := t.spans.mapValues (Span.shift offset lines) }

/-- The kind and the quoted value, then the primary span if it has one. -/
def display (t : Token) : String :=
  let head := t.kind ++ " " ++ Text.quoted t.value
  match t.spans.primary? with
  | some span => head ++ " @ " ++ span.display
  | none => head

/-- All fields with their names. -/
def dump (t : Token) : String :=
  "Token \x7b kind: " ++ Text.quoted t.kind ++ ", value: " ++ Text.quoted t.value ++
    ", positions: " ++ t.spans.dump ++ " \x7d"

end Token

instance : HoldsSpans Token where
  spans := Token.spans
  attach t name span := { t with spans := t.spans.insert name span }
  spans_attach _ _ _ := rfl

end TokenSpans
