import TokenSpans.Location
import TokenSpans.Text.Bytes
import TokenSpans.Word

/-!
# Reading by byte positions

The way a machine reads: it keeps the whole text with the position in bytes that it has reached, and
all its counts are words. Every sum is checked to fit a word, every place where the text is cut is
checked to lie between two characters, and a length that ends inside a character is rounded up one
byte at a time. If any check fails there is no result.

This is the one definition in which reading may fail to give a result, and all ways of
failing are there on purpose: `Word.add?` where a sum runs over, `cut?` where a text would
be cut inside a character, `roundUp?` where no boundary is found in reach.
`Proofs/Checked.lean` shows that none of them ever happens while the text fits into memory,
and that the pieces and locations are then those of the plain cursor, which does none of
this. So the plain cursor can be used in all other proofs.
-/

namespace TokenSpans

/-- A whole text and a position in it. -/
structure ByteCursor where
  text : List Char
  /-- The bytes before the position. -/
  position : Nat
  location : Location
  /-- The number of the first line and of the first column. -/
  first : Nat
  deriving DecidableEq, Repr

namespace ByteCursor

/-- A cursor before the first character of a text. -/
def ofText (first : Nat) (text : List Char) : ByteCursor :=
  ⟨text, 0, .origin first, first⟩

/-- Cuts a text after so many bytes, if that is between two characters or at an end. The
recursion takes whole characters and gives up where the next one is larger than what is left
to cut. -/
def cut? : Nat → List Char → Option (List Char × List Char)
  | 0, s => some ([], s)
  | _ + 1, [] => none
  | n + 1, c :: rest =>
    if c.utf8Size ≤ n + 1 then
      (cut? (n + 1 - c.utf8Size) rest).map (fun parts => (c :: parts.1, parts.2))
    else none

/-- The text between two positions, if both of them are boundaries and in order. -/
def slice? (s : List Char) (start stop : Nat) : Option (List Char) := do
  let (head, _) ← cut? stop s
  let (_, piece) ← cut? start head
  return piece

/-- The first position from `n` on at which the text may be cut, at most `tries` bytes
further. A character has at most four bytes, so three tries are enough from a position
inside one. -/
def roundUp? (s : List Char) : Nat → Nat → Option Nat
  | 0, n => if (cut? n s).isSome then some n else none
  | tries + 1, n =>
    if (cut? n s).isSome then some n
    else do
      let next ← Word.add? n 1
      roundUp? s tries next

/-- The position of the last newline in a text, in bytes: what is left when all behind it is
dropped ends with the newline, which has one byte. -/
def lastNewline? (s : List Char) : Option Nat :=
  if '\n' ∈ s then some (Text.byteLength (s.reverse.dropWhile (fun c => c != '\n')).reverse - 1)
  else none

/-- The line and column after a piece of text. Both branches check their sums, and the first
also that what follows the newline begins at a boundary. -/
def place? (first line column : Nat) (piece : List Char) : Option (Nat × Nat) :=
  match lastNewline? piece with
  | some index => do
    let line ← Word.add? line (piece.count '\n')
    let start ← Word.add? index 1
    let tail ← slice? piece start (Text.byteLength piece)
    let column ← Word.add? tail.length first
    return (line, column)
  | none => do
    let column ← Word.add? column piece.length
    return (line, column)

/-- Reads `bytes` bytes, or up to the end, and on to the end of a character. The difference
at the end has no use as a number: it is computed for a report, and would fail where the
position had gone back. -/
def read? (c : ByteCursor) (bytes : Nat) : Option (ByteCursor × List Char) := do
  let wanted := min (Word.addCapped c.position bytes) (Text.byteLength c.text)
  let stop ← roundUp? c.text 3 wanted
  let piece ← slice? c.text c.position stop
  let (line, column) ← place? c.first c.location.line c.location.column piece
  let offset ← Word.add? c.location.offset piece.length
  let _ ← Word.sub? stop c.position
  return ({ c with position := stop, location := ⟨offset, line, column⟩ }, piece)

/-- Reads several times, and yields all the pieces. -/
def readAll? (c : ByteCursor) : List Nat → Option (ByteCursor × List (List Char))
  | [] => some (c, [])
  | bytes :: rest => do
    let (c, piece) ← c.read? bytes
    let (c, pieces) ← c.readAll? rest
    return (c, piece :: pieces)

/-- A line or column as a number that counts from one. -/
def fromOne? (first n : Nat) : Option Nat := do
  let next ← Word.add? n 1
  Word.sub? next first

end ByteCursor

end TokenSpans
