import TokenSpans.Cursor.Steps
import TokenSpans.Proofs.Place

/-!
# Reading a text

Whatever is done to a cursor, it moves on by a piece of the text ahead and by nothing else. `Moves`
says so for one step, with the place it leads to; moves compose (`Moves.trans`), so a whole run of
steps is one move by all that was read (`performAll_moves`).

From the beginning of a text such a move says everything about where the cursor stands: its place is
that of the text read so far, whatever the lengths asked for and wherever they cut a character
(`performAll_faithful`).

`Moves` is the invariant on which nearly everything about cursors is built. It relates two
cursors and the text read in between, and leaves open how that text was asked for, so lexers
and hosts, which read in their own ways, are shown to move as well and inherit what follows
from it (`Proofs/Advancing.lean`). Settings other than the numbering may change along a
move, since a setter is a step like any other.
-/

namespace TokenSpans

namespace Text

/-! ## Bytes of a text

Positions are numbers of bytes, and texts are lists of characters. Two facts are enough to
go from the one to the other: only the empty text has no bytes, and a text is not cut in two
ways after the same number of bytes. -/

/-- A text that is not empty has bytes. -/
theorem byteLength_pos_iff (s : List Char) : 0 < byteLength s ↔ s ≠ [] := by
  cases s with
  | nil => simp [byteLength]
  | cons c rest =>
    have hpos := c.utf8Size_pos
    simp only [byteLength, ne_eq, reduceCtorEq, not_false_eq_true, iff_true]
    omega

/-- Two ways to cut one text after the same number of bytes are the same. -/
theorem append_inj_of_byteLength : ∀ {s s' t t' : List Char}, s ++ t = s' ++ t' →
    byteLength s = byteLength s' → s = s' ∧ t = t' := by
  intro s
  induction s with
  | nil =>
    intro s' t t' htext hbytes
    cases s' with
    | nil => exact ⟨rfl, htext⟩
    | cons c rest =>
      have hpos := c.utf8Size_pos
      simp only [byteLength] at hbytes
      omega
  | cons c rest ih =>
    intro s' t t' htext hbytes
    cases s' with
    | nil =>
      have hpos := c.utf8Size_pos
      simp only [byteLength] at hbytes
      omega
    | cons c' rest' =>
      obtain ⟨rfl, hrest⟩ := List.cons.inj htext
      simp only [byteLength, Nat.add_left_cancel_iff] at hbytes
      obtain ⟨rfl, rfl⟩ := ih hrest hbytes
      exact ⟨rfl, rfl⟩

/-- The bytes of several texts in a row are added up. -/
theorem byteLength_flatten (pieces : List (List Char)) :
    byteLength pieces.flatten = pieces.foldr (fun piece n => byteLength piece + n) 0 := by
  induction pieces with
  | nil => rfl
  | cons piece rest ih => rw [List.flatten_cons, byteLength_append, ih, List.foldr_cons]

end Text

namespace Cursor

/-! ## Moves

One lemma for each way to move, and one for going on: a step that changes a setting is a
move by the empty text, reading is a move by the text it yields, and moves are joined end to
end. A run of any steps is then a move by induction on the steps, and no later proof looks
at a step again. -/

/-- The number of bytes before the cursor. -/
def position (c : Cursor) : Nat :=
  Text.byteLength c.readText

/-- `c'` stands where reading `piece` leads from `c`, in the same text and with the same numbering.
The other settings may differ. -/
structure Moves (c : Cursor) (piece : List Char) (c' : Cursor) : Prop where
  /-- the piece stood ahead -/
  ahead : c.ahead = piece ++ c'.ahead
  /-- the piece is read now -/
  readText : c'.readText = c.readText ++ piece
  /-- the place is moved on by the piece -/
  location : c'.location = c.location.advance c.settings.numbering.first piece
  /-- lines and columns are counted as before -/
  numbering : c'.settings.numbering = c.settings.numbering

namespace Moves

variable {c c' c'' : Cursor} {piece piece' : List Char}

/-- Nothing is read where text, place and numbering stay. -/
theorem of_same (hbefore : c'.before = c.before) (hahead : c'.ahead = c.ahead)
    (hlocation : c'.location = c.location)
    (hnumbering : c'.settings.numbering = c.settings.numbering) : Moves c [] c' where
  ahead := hahead.symm
  readText := by rw [Cursor.readText, hbefore, Cursor.readText, List.append_nil]
  location := by rw [hlocation, Location.advance_nil]
  numbering := hnumbering

/-- One move after another is one move by both pieces. -/
theorem trans (h₁ : Moves c piece c') (h₂ : Moves c' piece' c'') :
    Moves c (piece ++ piece') c'' where
  ahead := by rw [h₁.ahead, h₂.ahead, List.append_assoc]
  readText := by rw [h₂.readText, h₁.readText, List.append_assoc]
  location := by rw [h₂.location, h₁.location, h₁.numbering, Location.advance_append]
  numbering := h₂.numbering.trans h₁.numbering

/-- The text as a whole stays. -/
theorem text_eq (h : Moves c piece c') : c'.text = c.text := by
  rw [text, text, h.readText, h.ahead, List.append_assoc]

end Moves

/-- A piece of the text ahead may be read. -/
theorem moves_moved {c : Cursor} {piece rest : List Char} (h : c.ahead = piece ++ rest) :
    Moves c piece (c.moved piece rest) where
  ahead := h
  readText := by simp [moved, readText]
  location := rfl
  numbering := rfl

/-- Reading two pieces in a row is reading both at once. -/
theorem moved_moved (c : Cursor) (p q rest rest' : List Char) :
    (c.moved p rest).moved q rest' = c.moved (p ++ q) rest' := by
  simp only [moved, Location.advance_append, List.reverse_append, List.append_assoc]

/-- Reading moves by the text it yields. -/
theorem read_moves (c : Cursor) (bytes : Nat) :
    Moves c (c.read bytes).value.2 (c.read bytes).value.1 :=
  moves_moved (Text.coverBytes_append bytes c.ahead).symm

/-- Every step moves by the text it yields: a change of settings yields none. -/
theorem perform_moves (c : Cursor) (step : Step) :
    Moves c (c.perform step).value.2 (c.perform step).value.1 := by
  cases step with
  | read bytes => exact read_moves c bytes
  | setSource source => exact Moves.of_same rfl rfl rfl rfl
  | setAnnounces on => exact Moves.of_same rfl rfl rfl rfl
  | setObserver observer => exact Moves.of_same rfl rfl rfl rfl
  | setRole role => exact Moves.of_same rfl rfl rfl rfl

/-- A run of steps moves by all the texts it yields. -/
theorem performAll_moves (c : Cursor) (steps : List Step) :
    Moves c (c.performAll steps).value.2.flatten (c.performAll steps).value.1 := by
  induction steps generalizing c with
  | nil => exact Moves.of_same rfl rfl rfl rfl
  | cons step rest ih =>
    have hfirst := perform_moves c step
    have hrest := ih (c.perform step).value.1
    simp only [performAll, Traced.bind_value, Traced.pure_value, List.flatten_cons]
    exact hfirst.trans hrest

/-! ## From the beginning of a text

At the beginning nothing is read and the place is the origin, so a move from there
determines the cursor as far as text and place go. `Faithful` lists what this means for the
numbers a cursor keeps, and the last theorem adds that they depend on how far the cursor has
come and on nothing else. -/

@[simp] theorem ahead_ofText (settings : CursorSettings) (text : List Char) :
    (ofText settings text).ahead = text := rfl

/-- Where steps lead from the beginning of a text, and the texts they read on the way. -/
def run (settings : CursorSettings) (text : List Char) (steps : List Step) :
    Cursor × List (List Char) :=
  ((ofText settings text).performAll steps).value

/-- The place of a cursor on its way is the place after what it has read. -/
theorem Moves.location_of_ofText {settings : CursorSettings} {text piece : List Char} {c : Cursor}
    (h : Moves (ofText settings text) piece c) :
    c.location = .after settings.numbering.first c.readText := by
  have hread : c.readText = piece := h.readText
  rw [h.location, hread]
  exact Location.advance_origin ..

/-- A run is a move from the beginning of the text by all that it has read. -/
theorem run_moves (settings : CursorSettings) (text : List Char) (steps : List Step) :
    Moves (ofText settings text) (run settings text steps).2.flatten (run settings text steps).1 :=
  performAll_moves ..

/-- What holds of a cursor in `text` by which `pieces` were read one after the other, where lines
and columns count from `first`. -/
structure Faithful (first : Nat) (text : List Char) (pieces : List (List Char)) (c : Cursor) :
    Prop where
  /-- the position is between two characters -/
  boundary : Text.IsBoundary text c.position
  /-- the position is not beyond the end -/
  position_le : c.position ≤ Text.byteLength text
  /-- the position has moved on by the bytes of every piece -/
  position_eq : c.position = pieces.foldr (fun piece n => Text.byteLength piece + n) 0
  /-- the text read and the text ahead are the text -/
  readText_append_ahead : c.readText ++ c.ahead = text
  /-- the text read is what the pieces are cut from -/
  readText_eq : c.readText = pieces.flatten
  /-- offset, line and column follow from the text read -/
  place : Location.MovedBy first c.readText (.origin first) c.location
  /-- the end is reached where nothing is ahead -/
  isDone_iff : c.isDone = true ↔ c.ahead = []
  /-- the end is reached where the position is behind the last byte -/
  isDone_iff_position : c.isDone = true ↔ Text.byteLength text ≤ c.position

/-- A cursor on its way through a text has moved by the pieces it has read. -/
theorem Moves.faithful {settings : CursorSettings} {text : List Char} {pieces : List (List Char)}
    {c : Cursor} (h : Moves (ofText settings text) pieces.flatten c) :
    Faithful settings.numbering.first text pieces c := by
  have hread : c.readText = pieces.flatten := h.readText
  have htext : c.readText ++ c.ahead = text := h.text_eq
  have hbytes : Text.byteLength text = c.position + Text.byteLength c.ahead := by
    rw [← htext, Text.byteLength_append, position]
  have hdone : c.isDone = true ↔ c.ahead = [] := List.isEmpty_iff
  have hempty : c.ahead = [] ↔ Text.byteLength text ≤ c.position := by
    rw [hbytes]
    -- a text that is not empty has bytes
    rcases hahead : c.ahead with _ | ⟨next, rest⟩
    · simp [Text.byteLength]
    · have hpos := next.utf8Size_pos
      simp only [reduceCtorEq, Text.byteLength, false_iff]
      omega
  exact {
    boundary := ⟨c.readText, c.ahead, htext.symm, rfl⟩
    position_le := by omega
    position_eq := by rw [position, hread, Text.byteLength_flatten]
    readText_append_ahead := htext
    readText_eq := hread
    place := by
      rw [h.location_of_ofText, ← Location.advance_origin]
      exact Location.movedBy_advance ..
    isDone_iff := hdone
    isDone_iff_position := hdone.trans hempty }

/-- Two cursors on their way through one text that have come equally far stand in the same place and
have the same text ahead, if they count alike. -/
theorem Moves.location_eq_of_position_eq {settings settings' : CursorSettings}
    {text piece piece' : List Char} {c c' : Cursor} (h : Moves (ofText settings text) piece c)
    (h' : Moves (ofText settings' text) piece' c')
    (hnumbering : settings'.numbering = settings.numbering)
    (hposition : c'.position = c.position) : c'.location = c.location ∧ c'.ahead = c.ahead := by
  have htext : c'.readText ++ c'.ahead = c.readText ++ c.ahead :=
    Eq.trans h'.text_eq h.text_eq.symm
  obtain ⟨hread, hahead⟩ := Text.append_inj_of_byteLength htext hposition
  refine ⟨?_, hahead⟩
  rw [h'.location_of_ofText, h.location_of_ofText, hread, hnumbering]

/-- **A cursor counts faithfully**: after any steps from the beginning of a text it stands between
two characters, its numbers are those of the text read so far, and that text is what the steps have
yielded. How the text was cut has left no trace: any other steps that come equally far lead to the
same place. -/
theorem performAll_faithful (settings : CursorSettings) (text : List Char) (steps : List Step) :
    Faithful settings.numbering.first text (run settings text steps).2
        (run settings text steps).1 ∧
      ∀ (settings' : CursorSettings) (steps' : List Step),
        settings'.numbering = settings.numbering →
        (run settings' text steps').1.position = (run settings text steps).1.position →
        (run settings' text steps').1.location = (run settings text steps).1.location ∧
          (run settings' text steps').1.ahead = (run settings text steps).1.ahead := by
  have hmoves := run_moves settings text steps
  refine ⟨hmoves.faithful, ?_⟩
  intro settings' steps' hnumbering hposition
  exact hmoves.location_eq_of_position_eq (run_moves settings' text steps') hnumbering hposition

end Cursor

end TokenSpans
