import TokenSpans.Spans

/-!
# Calls that store spans

A span is stored under a name in two ways, which differ in what is heard of it: putting it there
yields the span that gives way to it, and attaching it, as to any item that carries spans, yields
nothing.

`givesWay` looks the name up by its own recursion and not with `get?`, so that the statement
about what a call yields does not assume the lookup that is proved from it. Like `get?` it
is a search in an ordered list, and agrees with it on lists that are in order.
-/

namespace TokenSpans

/-- The span that gives way when one is put under a name. The names are in order, so it is not
looked for any further than where the name belongs. -/
def givesWay (name : String) : List (String × Span) → Option Span
  | [] => none
  | (other, held) :: rest =>
    if name < other then none
    else if name = other then some held
    else givesWay name rest

namespace Spans

/-- Puts a span under a name, and yields the one that gives way to it, if the name was
taken. -/
def exchange (spans : Spans) (name : String) (span : Span) : Spans × Option Span :=
  (spans.insert name span, givesWay name spans.entries)

/-- One call that stores a span. There is no call that removes one. -/
inductive Call
  | insert (name : String) (span : Span)
  | attach (name : String) (span : Span)
  deriving DecidableEq, Repr

namespace Call

/-- The name under which the span is stored. -/
def name : Call → String
  | insert name _ => name
  | attach name _ => name

/-- The span that is stored. -/
def span : Call → Span
  | insert _ span => span
  | attach _ span => span

end Call

/-- Does one call. -/
def perform (spans : Spans) : Call → Spans × Option Span
  | .insert name span => spans.exchange name span
  | .attach name span => (HoldsSpans.attach spans name span, none)

/-- Does one call after the other, and tells what each of them yields. -/
def performAll (spans : Spans) : List Call → Spans × List (Option Span)
  | [] => (spans, [])
  | call :: rest =>
    let done := spans.perform call
    let more := done.1.performAll rest
    (more.1, done.2 :: more.2)

end Spans

end TokenSpans
