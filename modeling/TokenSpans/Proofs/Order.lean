import TokenSpans.Marker
import TokenSpans.Proofs.Reading

/-!
# The order of places

A place has two coordinates that order it, its offset and its line with its column. Neither the line
nor the column alone tells of two places which one is met first: the line stays inside a line, and
the column starts again after it. Together they do, because reading anything at all leads to a place
that comes behind (`Location.before_advance`).

Of two cursors in one text one has moved on from where the other stands (`Moves.total`). So the two
coordinates order all places of a text alike (`offset_and_place_agree`), whatever the cursors were
asked to read.

Nothing is assumed of how the two cursors were used. They may have read in different
lengths, under other labels and with other observers; only the text and the numbering are
the same. What they have in common is that each has moved from the beginning, and of two
beginnings of one text one is a beginning of the other.
-/

namespace TokenSpans

namespace Location

/-! ## Before and behind

`Before` is the strict order of line and column. It is irreflexive and asymmetric, and
reading a text that is not empty leads behind. `NoLater` is the order that a reader may rely
on: both coordinates at once, and equality allowed. -/

/-- Of two places only one is before the other. -/
theorem Before.not_before {l m : Location} (h : l.Before m) : ¬ m.Before l := by
  intro h'
  simp only [Before] at h h'
  omega

/-- Places of which one is before the other differ in line or column. -/
theorem Before.not_same {l m : Location} (h : l.Before m) :
    ¬ (l.line = m.line ∧ l.column = m.column) := by
  intro hsame
  simp only [Before] at h
  omega

/-- No place is before itself. -/
theorem not_before_self (l : Location) : ¬ l.Before l := fun h => h.not_before h

/-- Reading any text leads to a place behind: in a later line, or further on in the same one. -/
theorem before_advance (first : Nat) (l : Location) {piece : List Char} (h : piece ≠ []) :
    l.Before (l.advance first piece) := by
  by_cases hnewline : '\n' ∈ piece
  · have hcount := List.count_pos_iff.mpr hnewline
    left
    simp only [advance]
    omega
  · have hlength := List.length_pos_iff.mpr h
    have hcount := List.count_eq_zero.mpr hnewline
    right
    simp only [advance, if_neg hnewline]
    omega

/-- One place is met no later than another, by the offset and by line and column. -/
structure NoLater (l m : Location) : Prop where
  offset : l.offset ≤ m.offset
  place : l.line < m.line ∨ l.line = m.line ∧ l.column ≤ m.column

namespace NoLater

variable {l m n : Location}

theorem refl (l : Location) : l.NoLater l where
  offset := Nat.le_refl _
  place := .inr ⟨rfl, Nat.le_refl _⟩

theorem trans (h₁ : l.NoLater m) (h₂ : m.NoLater n) : l.NoLater n where
  offset := Nat.le_trans h₁.offset h₂.offset
  place := by
    have hlm := h₁.place
    have hmn := h₂.place
    omega

/-- A later place is in no earlier line. -/
theorem line_le (h : l.NoLater m) : l.line ≤ m.line := by
  have hplace := h.place
  omega

/-- In one line a later place is in no earlier column. -/
theorem column_le (h : l.NoLater m) (hline : l.line = m.line) : l.column ≤ m.column := by
  have hplace := h.place
  omega

end NoLater

/-- Reading leads to no earlier place. -/
theorem noLater_advance (first : Nat) (l : Location) (piece : List Char) :
    l.NoLater (l.advance first piece) := by
  by_cases h : piece = []
  · rw [h, advance_nil]
    exact .refl l
  · exact ⟨offset_le_advance .., (before_advance first l h).imp_right (And.imp_right Nat.le_of_lt)⟩

end Location

namespace Cursor

/-! ## Two cursors in one text

The comparison is made by what lies between the two cursors. If it is empty they agree in
everything that is asked of them, and if it is not, each of the coordinates tells them
apart, and in the same direction. `OrderedAlike` is symmetric in neither of its arguments,
so both directions are proved at once. -/

namespace Moves

variable {c c' : Cursor} {piece : List Char}

/-- Moving on leads to no earlier place. -/
theorem noLater (h : Moves c piece c') : c.location.NoLater c'.location := by
  rw [h.location]
  exact Location.noLater_advance ..

/-- The offset counts the characters in between. -/
theorem offset_eq (h : Moves c piece c') :
    c'.location.offset = c.location.offset + piece.length := by
  rw [h.location]
  rfl

/-- The position counts the bytes in between. -/
theorem position_eq (h : Moves c piece c') :
    c'.position = c.position + Text.byteLength piece := by
  rw [position, h.readText, Text.byteLength_append, position]

/-- Of two cursors on their way through one text that count alike, one has moved on from where the
other stands. -/
theorem total {settings settings' : CursorSettings} {text read read' : List Char}
    (h : Moves (ofText settings text) read c) (h' : Moves (ofText settings' text) read' c')
    (hnumbering : settings'.numbering = settings.numbering) :
    (∃ between, Moves c between c') ∨ ∃ between, Moves c' between c := by
  have hfirst : c.settings.numbering = settings.numbering := h.numbering
  have hfirst' : c'.settings.numbering = settings.numbering := h'.numbering.trans hnumbering
  have hplace := h.location_of_ofText
  have hplace' := h'.location_of_ofText
  have htext : c.readText ++ c.ahead = c'.readText ++ c'.ahead := h.text_eq.trans h'.text_eq.symm
  -- one of the two texts read is the beginning of the other
  rcases List.append_eq_append_iff.mp htext with ⟨between, hread, hahead⟩ | ⟨between, hread, hahead⟩
  · left
    refine ⟨between, hahead, hread, ?_, hfirst'.trans hfirst.symm⟩
    rw [hplace', hplace, hnumbering, hfirst, hread, ← Location.advance_origin,
      ← Location.advance_origin, Location.advance_append]
  · right
    refine ⟨between, hahead, hread, ?_, hfirst.trans hfirst'.symm⟩
    rw [hplace, hplace', hnumbering, hfirst', hread, ← Location.advance_origin,
      ← Location.advance_origin, Location.advance_append]

end Moves

/-- The two coordinates tell the same of two cursors: which of them is further on, or that they
stand in one place. -/
structure OrderedAlike (c c' : Cursor) : Prop where
  /-- the smaller offset has the earlier line and column -/
  offset_lt_iff : c.location.offset < c'.location.offset ↔ c.location.Before c'.location
  /-- one offset has one line and one column -/
  offset_eq_iff : c.location.offset = c'.location.offset ↔
    c.location.line = c'.location.line ∧ c.location.column = c'.location.column
  /-- and one text ahead of it -/
  ahead_eq : c.location.offset = c'.location.offset → c.ahead = c'.ahead
  /-- markers start in one place only where the cursors have read the same bytes -/
  start_eq_iff : ∀ name name' : String,
    (Marker.set c.view name).value.start = (Marker.set c'.view name').value.start ↔
      c.position = c'.position

namespace OrderedAlike

variable {c c' : Cursor}

/-- Cursors that nothing lies between stand in one place. -/
theorem of_same (hlocation : c.location = c'.location) (hahead : c.ahead = c'.ahead)
    (hposition : c.position = c'.position) : OrderedAlike c c' where
  offset_lt_iff := by
    rw [hlocation]
    exact iff_of_false (Nat.lt_irrefl _) (Location.not_before_self _)
  offset_eq_iff := by
    rw [hlocation]
    exact iff_of_true rfl ⟨rfl, rfl⟩
  ahead_eq _ := hahead
  start_eq_iff _ _ := iff_of_true hlocation hposition

/-- Cursors with some text between them are told apart by each coordinate. -/
theorem of_apart (hoffset : c.location.offset ≠ c'.location.offset)
    (hlt : c.location.offset < c'.location.offset ↔ c.location.Before c'.location)
    (hplace : ¬ (c.location.line = c'.location.line ∧ c.location.column = c'.location.column))
    (hposition : c.position ≠ c'.position) : OrderedAlike c c' where
  offset_lt_iff := hlt
  offset_eq_iff := iff_of_false hoffset hplace
  ahead_eq h := absurd h hoffset
  start_eq_iff _ _ := iff_of_false (fun h => hoffset (congrArg Location.offset h)) hposition

end OrderedAlike

/-- A cursor and one that has moved on from it are ordered alike, either way round. -/
theorem Moves.orderedAlike {c c' : Cursor} {piece : List Char} (h : Moves c piece c') :
    OrderedAlike c c' ∧ OrderedAlike c' c := by
  have hoffset := h.offset_eq
  have hposition := h.position_eq
  by_cases hpiece : piece = []
  · subst hpiece
    have hlocation : c'.location = c.location := h.location
    have hahead : c.ahead = c'.ahead := h.ahead
    exact ⟨.of_same hlocation.symm hahead hposition.symm,
      .of_same hlocation hahead.symm hposition⟩
  · have hlength := List.length_pos_iff.mpr hpiece
    have hbytes := (Text.byteLength_pos_iff piece).mpr hpiece
    have hbefore : c.location.Before c'.location := by
      rw [h.location]
      exact Location.before_advance _ _ hpiece
    have hsame := hbefore.not_same
    refine ⟨.of_apart (by omega) (iff_of_true (by omega) hbefore) hsame (by omega),
      .of_apart (by omega) (iff_of_false (by omega) hbefore.not_before) ?_ (by omega)⟩
    exact fun hback => hsame ⟨hback.1.symm, hback.2.symm⟩

/-! ## Along one run

Here the two cursors are one, before and after some further steps. The column is the
coordinate that is not monotone: two steps over a text with a newline show it fall. -/

/-- Steps done after other steps lead on from where those led. -/
theorem performAll_append (c : Cursor) (steps more : List Step) :
    (c.performAll (steps ++ more)).value.1 =
      ((c.performAll steps).value.1.performAll more).value.1 := by
  induction steps generalizing c with
  | nil => rfl
  | cons step rest ih =>
    have hrest := ih (c.perform step).value.1
    simp only [List.cons_append, performAll, Traced.bind_value, Traced.pure_value]
    exact hrest

/-- Further steps move a cursor on. -/
theorem run_append_moves (settings : CursorSettings) (text : List Char) (steps more : List Step) :
    ∃ piece, Moves (run settings text steps).1 piece (run settings text (steps ++ more)).1 := by
  rw [run, run, performAll_append]
  exact ⟨_, performAll_moves _ more⟩

/-- **Offset and place order a text alike**: of two cursors in one text that count lines and columns
alike, whatever each was asked to read, the one with the smaller offset has the earlier line and
column, and they have one offset exactly if they have one line and column. Along a run both only
grow, while the column alone may fall back. -/
theorem offset_and_place_agree (settings settings' : CursorSettings) (text : List Char)
    (steps steps' : List Step) (hnumbering : settings'.numbering = settings.numbering) :
    OrderedAlike (run settings text steps).1 (run settings' text steps').1 ∧
      (∀ more, (run settings text steps).1.location.NoLater
        (run settings text (steps ++ more)).1.location) ∧
      ∃ line before after, (run settings line (before ++ after)).1.location.column <
        (run settings line before).1.location.column := by
  refine ⟨?_, ?_, ?_⟩
  · rcases Moves.total (run_moves settings text steps) (run_moves settings' text steps')
      hnumbering with ⟨between, h⟩ | ⟨between, h⟩
    · exact h.orderedAlike.1
    · exact h.orderedAlike.2
  · intro more
    obtain ⟨piece, h⟩ := run_append_moves settings text steps more
    exact h.noLater
  · -- a line of one character: its end is in the second column, and the next line in the first
    refine ⟨['a', '\n'], [.read 1], [.read 1], ?_⟩
    exact Nat.lt_succ_self _

/-- A text of two lines, read in two ways under two labels. -/
theorem offset_and_place_agree_two_lines :
    OrderedAlike (run ⟨.one, none, true⟩ ['é', '\n', 'b'] [.read 1, .read 1]).1
        (run ⟨.one, some "x", false⟩ ['é', '\n', 'b'] [.read 9]).1 ∧
      (run ⟨.one, none, true⟩ ['é', '\n', 'b'] [.read 1, .read 1]).1.location = ⟨2, 2, 1⟩ ∧
      (run ⟨.one, some "x", false⟩ ['é', '\n', 'b'] [.read 9]).1.location = ⟨3, 2, 2⟩ :=
  ⟨(offset_and_place_agree ⟨.one, none, true⟩ ⟨.one, some "x", false⟩ ['é', '\n', 'b']
      [.read 1, .read 1] [.read 9] rfl).1, by decide, by decide⟩

end Cursor

end TokenSpans
