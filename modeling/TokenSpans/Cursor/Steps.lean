import TokenSpans.Cursor

/-!
# Steps of a cursor

Everything that can be done to a cursor from outside: reading, and changing what it is set to. A
step yields the text it has read, which is none if it only changes a setting.

The list of steps is the whole interface, so a property of `performAll` for every list of
steps is a property of every use of a cursor, whoever makes it. The setters are steps
although they read nothing: that they leave the place and the text ahead alone is part of
what is to be proved.
-/

namespace TokenSpans.Cursor

/-- One thing done to a cursor. There is no step that goes back: what is read is never ahead
again. -/
inductive Step
  /-- Reads so many bytes, rounded up to the end of a character. -/
  | read (bytes : Nat)
  | setSource (source : Option String)
  | setAnnounces (on : Bool)
  | setObserver (observer : Option Observer)
  | setRole (role : Option Role)
  deriving DecidableEq, Repr

/-- Does one thing. -/
def perform (c : Cursor) : Step → Traced (Cursor × List Char)
  | .read bytes => c.read bytes
  | .setSource source => pure (c.setSource source, [])
  | .setAnnounces on => pure (c.setAnnounces on, [])
  | .setObserver observer => pure (c.setObserver observer, [])
  | .setRole role => pure (c.setRole role, [])

/-- Does one thing after the other, and yields all the texts read. -/
def performAll (c : Cursor) : List Step → Traced (Cursor × List (List Char))
  | [] => pure (c, [])
  | step :: rest => do
    let (c, piece) ← c.perform step
    let (c, pieces) ← c.performAll rest
    return (c, piece :: pieces)

end TokenSpans.Cursor
