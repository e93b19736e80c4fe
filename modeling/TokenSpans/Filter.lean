import TokenSpans.Level

/-!
# Which reports are let through

Reports come from four parts of the program, and each part may have a limit of its own. A part
without one follows the global limit. A report is judged by its target, a text that names a part:
the limit of the part whose target begins the text applies, and the global one where there is no
such part. No part's target begins another's, so at most one part is found.

The limits and the filter are two forms of the same choice. `Limits` is how it is made, with
one optional level for each part; `Filter` is how it is looked up, by the longest rule that
begins a target, in a table that knows nothing of parts. That the detour through texts gives
back what `limitFor` says of the parts is proved in `Proofs/Filtering.lean`, and depends on
the targets as they are written.
-/

namespace TokenSpans

/-- The parts of the program that report on their work. -/
inductive Part
  | cursor
  | position
  | lexer
  | cli
  deriving DecidableEq, Repr, Inhabited

namespace Part

/-- All parts in the order in which text flows through them. -/
def all : List Part :=
  [cursor, position, lexer, cli]

/-- The name of a part, which ends its target. -/
def name : Part → String
  | cursor => "cursor"
  | position => "position"
  | lexer => "lexer"
  | cli => "cli"

/-- The target of a part's reports. -/
def target (p : Part) : String :=
  "posmark::" ++ p.name

end Part

/-- The limits for reports: a global one and those of single parts. -/
structure Limits where
  global : Level
  cursor : Option Level
  position : Option Level
  lexer : Option Level
  cli : Option Level
  deriving DecidableEq, Repr

namespace Limits

/-- The same limit for all parts. -/
def uniform (level : Level) : Limits :=
  ⟨level, none, none, none, none⟩

instance : Inhabited Limits :=
  ⟨uniform .info⟩

/-- The limit set for one part alone. -/
def own? (l : Limits) : Part → Option Level
  | .cursor => l.cursor
  | .position => l.position
  | .lexer => l.lexer
  | .cli => l.cli

/-- The limit that holds for a part: its own, or else the global one. -/
def limitFor (l : Limits) (p : Part) : Level :=
  (l.own? p).getD l.global

end Limits

/-- Limits by the beginning of a target, tried in order, and the limit where none applies. -/
structure Filter where
  rules : List (String × Level)
  otherwise : Level

namespace Filter

/-- The filter with a rule for each of the listed parts. A part without a limit of its own
still gets a rule, with the global limit. -/
def ofParts (parts : List Part) (l : Limits) : Filter where
  rules := parts.map (fun p => (p.target, l.limitFor p))
  otherwise := l.global

/-- The filter for all parts. -/
def ofLimits (l : Limits) : Filter :=
  ofParts Part.all l

/-- The longer of two rules, and the first of two that are equally long. -/
def longer (a b : String × Level) : String × Level :=
  if a.1.length < b.1.length then b else a

/-- The limit for a target: that of the longest rule that begins it. Beginning is meant
character by character, so a target may go on in the middle of a word. -/
def limitFor (f : Filter) (target : String) : Level :=
  match f.rules.filter (fun r => r.1.toList.isPrefixOf target.toList) with
  | [] => f.otherwise
  | r :: more => (more.foldl longer r).2

/-- Whether a report of this level with this target is let through. -/
def lets (f : Filter) (target : String) (level : Level) : Bool :=
  level.within (f.limitFor target)

end Filter

end TokenSpans
