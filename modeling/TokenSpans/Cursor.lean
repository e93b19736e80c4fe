import TokenSpans.Effect
import TokenSpans.Role
import TokenSpans.Settings
import TokenSpans.Text.Bytes
import TokenSpans.Token

/-!
# Cursors

A cursor stands in a text and only moves on. It keeps the text on both sides of it and the location
it has reached, which each step updates from the piece just read. `View` is what others may see of
a cursor, or of any host that reads a text: they look, and never move it.

The text before the cursor is kept in reverse, with the last character read at the head.
Nothing is computed from it while reading: it is there so that the text as a whole (`text`)
and the position in it can be named in statements, and so that they are the same for the
cursor before and after a step.

Lengths come in bytes and are rounded up to the end of a character by `Text.coverBytes`. The
location is updated with the characters that were taken, so it never falls behind the text,
and `read` with a length of zero leaves everything as it is and is still heard of.
-/

namespace TokenSpans

/-- What can be seen of a host that reads a text. -/
structure View where
  location : Location
  /-- The text that is not read yet. -/
  ahead : List Char
  /-- What the host declares itself to be. -/
  role : Option Role
  /-- The label copied into spans. -/
  source : Option String
  /-- The one to be told of completed spans; none where announcements are off. -/
  observer : Option Observer

/-- A place in a text that can move on. -/
structure Cursor where
  /-- The characters read so far, the last one first. -/
  before : List Char
  /-- The characters not read yet, the next one first. -/
  ahead : List Char
  location : Location
  settings : CursorSettings
  role : Option Role
  /-- The one that was set, whether or not announcements are on. -/
  observer : Option Observer

namespace Cursor

/-- A cursor before the first character of a text. It has no role and no observer; these are
set later. -/
def ofText (settings : CursorSettings) (text : List Char) : Cursor where
  before := []
  ahead := text
  location := .origin settings.numbering.first
  settings := settings
  role := none
  observer := none

/-- The text read so far. -/
def readText (c : Cursor) : List Char :=
  c.before.reverse

/-- The whole text. -/
def text (c : Cursor) : List Char :=
  c.readText ++ c.ahead

/-- Whether all of the text is read. -/
def isDone (c : Cursor) : Bool :=
  c.ahead.isEmpty

/-- What others see: the observer is hidden while announcements are off. -/
def view (c : Cursor) : View where
  location := c.location
  ahead := c.ahead
  role := c.role
  source := c.settings.source
  observer := if c.settings.announces then c.observer else none

/-- The cursor after a piece of the text has been read, with what is left given. It is not
checked that the two make up the text ahead: `read` gives it the two halves of a split. -/
def moved (c : Cursor) (piece rest : List Char) : Cursor :=
  { c with
    before := piece.reverse ++ c.before
    ahead := rest
    location := c.location.advance c.settings.numbering.first piece }

/--
Reads `bytes` bytes and yields them as text. A length beyond the end reads all that is left, and one
that ends inside a character reads that character too.
-/
def read (c : Cursor) (bytes : Nat) : Traced (Cursor × List Char) := do
  let taken := Text.coverBytes bytes c.ahead
  let next := c.moved taken.1 taken.2
  Traced.report (.read (Text.byteLength taken.1) next.location)
  return (next, taken.1)

/-- Changes the label, from the next span on. -/
def setSource (c : Cursor) (source : Option String) : Cursor :=
  { c with settings := { c.settings with source } }

/-- Turns announcements on or off; the observer stays. -/
def setAnnounces (c : Cursor) (announces : Bool) : Cursor :=
  { c with settings := { c.settings with announces } }

/-- Changes who is to be told of completed spans. -/
def setObserver (c : Cursor) (observer : Option Observer) : Cursor :=
  { c with observer }

/-- Changes what the cursor declares itself to be. -/
def setRole (c : Cursor) (role : Option Role) : Cursor :=
  { c with role }

/-- Reads a piece of fixed size as a token; nothing is left to read at the end. -/
def chunk (c : Cursor) (bytes : Nat) : Traced (Cursor × Option Token) := do
  if c.isDone then return (c, none)
  let (next, piece) ← c.read bytes
  return (next, some (Token.bare "chunk" (String.ofList piece)))

/-- A piece of at least one byte leaves less text. -/
theorem chunk_shortens {c next : Cursor} {bytes : Nat} {token : Token} (hpos : 0 < bytes)
    (h : (c.chunk bytes).value = (next, some token)) :
    next.ahead.length < c.ahead.length := by
  simp only [chunk] at h
  split at h
  · simp at h
  · rename_i hdone
    simp only [Traced.bind_value, Traced.pure_value, Prod.mk.injEq] at h
    rw [← h.1]
    refine Text.coverBytes_length_lt hpos (fun hnil => hdone ?_)
    simp [isDone, hnil]

/-- All fields with their names. -/
def dump (c : Cursor) : String :=
  s!"TextCursor \x7b offset: {c.location.offset}, line: {c.location.line}, " ++
    s!"column: {c.location.column}, remaining: " ++ Text.quoted (String.ofList c.ahead) ++
    ", config: " ++ c.settings.dump ++ ", capability: " ++
    (match c.role with
      | some .lexer => "Some(Lexer)"
      | some .tokenizer => "Some(Tokenizer)"
      | none => "None") ++
    s!", has_emitter: {c.observer.isSome} \x7d"

end Cursor

end TokenSpans
