import Mathlib.Data.List.TakeWhile
import TokenSpans.Location

/-!
# Places reached by reading

A cursor updates its place piece by piece, and `Location.after` computes the same place from the
text as a whole. The two agree, however the text is cut: moving on by one piece and then by another
is moving on by both at once (`advance_append`), and moving on from the origin is the computation
from the whole (`advance_origin`).

What carries this is one fact about the last line of a text (`lastLine_append`): it forgets
everything before a newline, and it grows by whatever has none.

The rule of newlines is also stated by its parts (`Location.MovedBy`), as one would tell it
to somebody who does not know `advance`: what becomes of each of the three numbers, and
when. It is in this form that results about cursors and tokens give the place they lead to.
-/

namespace TokenSpans

namespace Text

/-! ## The last line

The last line is defined by going through a text from behind, while a text is read, and put
together, from the front. The lemmas here turn the one into the other once: after them no
proof has to reverse a text. -/

/-- A text without newlines is read to its end before one is met from behind. -/
theorem forall_reverse_ne_newline {s : List Char} (h : '\n' ∉ s) :
    ∀ c ∈ s.reverse, (c != '\n') = true := by
  intro c hc
  rw [bne_iff_ne]
  rintro rfl
  exact h (List.mem_reverse.mp hc)

/-- The last line of two texts in a row: that of the second if it has a newline, and else the last
line of the first with the second behind it. -/
theorem lastLine_append (s t : List Char) :
    lastLine (s ++ t) = if '\n' ∈ t then lastLine t else lastLine s ++ t := by
  rw [lastLine, List.reverse_append]
  by_cases h : '\n' ∈ t
  · -- read from behind, the second text is not read to its beginning
    have hshort : (t.reverse.takeWhile (· != '\n')).length ≠ t.reverse.length := by
      intro hlength
      have hall := (List.takeWhile_prefix (· != '\n')).eq_of_length hlength
      have hmem : '\n' ∈ t.reverse.takeWhile (· != '\n') := by
        rw [hall]
        exact List.mem_reverse.mpr h
      have hne := List.mem_takeWhile_imp hmem
      simp at hne
    rw [if_pos h, List.takeWhile_append, if_neg hshort, lastLine]
  · rw [if_neg h, List.takeWhile_append_of_pos (forall_reverse_ne_newline h), List.reverse_append,
      List.reverse_reverse, lastLine]

/-- A text without newlines is its own last line. -/
theorem lastLine_of_not_mem {s : List Char} (h : '\n' ∉ s) : lastLine s = s := by
  have happend := lastLine_append [] s
  rw [if_neg h] at happend
  exact happend

/-- The last line begins after the last newline. -/
theorem lastLine_append_newline {s t : List Char} (h : '\n' ∉ t) :
    lastLine (s ++ '\n' :: t) = t := by
  have hline : lastLine ('\n' :: t) = t := by
    have happend := lastLine_append ['\n'] t
    rw [if_neg h] at happend
    exact happend
  rw [lastLine_append, if_pos (List.mem_cons_self ..), hline]

/-- The last line is no longer than the text. -/
theorem length_lastLine_le (s : List Char) : (lastLine s).length ≤ s.length := by
  rw [lastLine, List.length_reverse]
  exact (List.takeWhile_sublist _).length_le.trans_eq List.length_reverse

/-- The last line has no newline in it. -/
theorem newline_not_mem_lastLine (s : List Char) : '\n' ∉ lastLine s := by
  intro h
  have hne := List.mem_takeWhile_imp (List.mem_reverse.mp h)
  simp at hne

end Text

namespace Location

/-! ## Moving on

Of the three numbers only the column does not add up. Where the second text has a newline,
the column after both does not depend on the first one at all, and where it has none it
continues whatever the first one has left. These are the cases of `advance_append`, and the
offset and the line go along by arithmetic. -/

/-- Reading nothing leaves the place as it is. -/
@[simp] theorem advance_nil (first : Nat) (l : Location) : l.advance first [] = l := rfl

/-- Reading two texts in a row moves a place as reading both at once does. -/
theorem advance_append (first : Nat) (l : Location) (s t : List Char) :
    l.advance first (s ++ t) = (l.advance first s).advance first t := by
  have hoffset : l.offset + (s ++ t).length = l.offset + s.length + t.length := by
    rw [List.length_append]
    omega
  have hline : l.line + (s ++ t).count '\n' = l.line + s.count '\n' + t.count '\n' := by
    rw [List.count_append]
    omega
  -- what is left is the column, by where the newlines are
  simp only [advance, hoffset, hline, Text.lastLine_append, List.mem_append]
  by_cases ht : '\n' ∈ t
  · -- the column starts again in the second text
    simp [ht]
  · by_cases hs : '\n' ∈ s
    · simp [ht, hs, Nat.add_assoc]
    · simp [ht, hs, Nat.add_assoc]

/-- The place after a text is where reading the text leads from the origin. -/
theorem advance_origin (first : Nat) (text : List Char) :
    (origin first).advance first text = after first text := by
  by_cases h : '\n' ∈ text
  · simp [advance, origin, after, h]
  · simp [advance, origin, after, h, Text.lastLine_of_not_mem h]

/-- The offset only grows. -/
theorem offset_le_advance (first : Nat) (l : Location) (text : List Char) :
    l.offset ≤ (l.advance first text).offset :=
  Nat.le_add_right ..

/-- The rule of newlines: where reading `text` leads from `l`, with the three numbers one by one. -/
structure MovedBy (first : Nat) (text : List Char) (l m : Location) : Prop where
  /-- every character counts in the offset -/
  offset : m.offset = l.offset + text.length
  /-- every newline begins a line -/
  line : m.line = l.line + text.count '\n'
  /-- inside a line the column goes on -/
  sameLine : '\n' ∉ text → m.column = l.column + text.length
  /-- after the last newline the column starts again -/
  newLine : ∀ before tail, text = before ++ '\n' :: tail → '\n' ∉ tail →
    m.column = first + tail.length

/-- Moving on obeys the rule of newlines. -/
theorem movedBy_advance (first : Nat) (text : List Char) (l : Location) :
    MovedBy first text l (l.advance first text) where
  offset := rfl
  line := rfl
  sameLine h := if_neg h
  newLine before tail htext htail := by
    have hmem : '\n' ∈ text := by
      rw [htext]
      exact List.mem_append_right _ (List.mem_cons_self ..)
    rw [advance, if_pos hmem, htext, Text.lastLine_append_newline htail]

end Location

end TokenSpans
