import Mathlib.Order.Bounds.Defs
import TokenSpans.Proofs.Reading
import TokenSpans.Word

/-!
# What a length covers

A length in bytes need not fall between two characters, and it may go beyond the end of the text.
What is read is the text up to the first place from there on where it may be cut
(`Text.isLeast_coverBytes`). A longer length never covers less, and a length that is counted from
behind some text covers that text and what it covers of the rest (`Text.coverBytes_append_add`).

So a reading does not depend on how the readings before it were cut, but on the bytes that they
have really taken: readings in a row are one reading of all their bytes (`Cursor.readings_add_up`).
Of the lengths that were asked for this would be wrong, since a length that ends inside a character
takes more than it says.

The word in which a machine adds lengths is bounded, and the sum is capped there. This
changes nothing for a text whose bytes a word can count, because a capped length then covers
everything in any case (`Text.coverBytes_addCapped`). Nothing else here
depends on the size of a text.
-/

namespace TokenSpans

namespace Text

variable {s t : List Char} {m n p : Nat}

/-- A beginning of a text has no more bytes than the text. -/
theorem byteLength_le_of_prefix (h : s <+: t) : byteLength s ≤ byteLength t := by
  obtain ⟨rest, rfl⟩ := h
  rw [byteLength_append]
  omega

/-! ## Counting on from some text

The recursion of `coverBytes` takes off one character at a time. The first lemma takes off a
whole text, and the other facts of this section are instances of it: what is asked for may
be exactly the bytes of that text, or go beyond the end. -/

/-- A length that goes beyond a beginning of the text covers the beginning, and then the rest as far
as it goes on. -/
theorem coverBytes_append_add (s t : List Char) (n : Nat) :
    coverBytes (byteLength s + n) (s ++ t) = (s ++ (coverBytes n t).1, (coverBytes n t).2) := by
  induction s with
  | nil => simp [byteLength]
  | cons c rest ih =>
    have hpos := c.utf8Size_pos
    obtain ⟨k, hk⟩ : ∃ k, byteLength (c :: rest) + n = k + 1 :=
      ⟨c.utf8Size + byteLength rest + n - 1, by simp only [byteLength]; omega⟩
    -- what is still asked for behind the first character
    have hrest : k + 1 - c.utf8Size = byteLength rest + n := by
      simp only [byteLength] at hk
      omega
    rw [hk, List.cons_append, coverBytes, hrest, ih]
    rfl

@[simp] theorem coverBytes_nil (n : Nat) : coverBytes n [] = ([], []) := by
  cases n <;> rfl

@[simp] theorem coverBytes_zero (s : List Char) : coverBytes 0 s = ([], s) := by
  cases s <;> rfl

/-- Covering exactly the bytes of a beginning of the text takes that beginning. -/
theorem coverBytes_byteLength (s t : List Char) : coverBytes (byteLength s) (s ++ t) = (s, t) := by
  simpa using coverBytes_append_add s t 0

/-- A length that goes beyond the end covers all of the text. -/
theorem coverBytes_of_byteLength_le (h : byteLength s ≤ n) : coverBytes n s = (s, []) := by
  obtain ⟨k, rfl⟩ := Nat.exists_eq_add_of_le h
  simpa using coverBytes_append_add s [] k

/-! ## The place up to which a length covers

The place is a boundary, it is not before the length asked for, and no boundary in between
was passed over. The last of these is by monotonicity: covering exactly up to a boundary
stops there, and a smaller length covers no more. -/

/-- A longer length covers no less. -/
theorem coverBytes_prefix_of_le (h : m ≤ n) (s : List Char) :
    (coverBytes m s).1 <+: (coverBytes n s).1 := by
  induction s generalizing m n with
  | nil => simp
  | cons c rest ih =>
    rcases m with _ | m
    · simp
    · obtain ⟨n, rfl⟩ : ∃ k, n = k + 1 := ⟨n - 1, by omega⟩
      simp only [coverBytes]
      exact (List.prefix_cons_inj c).mpr (ih (by omega))

/-- As many bytes are covered as were asked for, if there are so many. -/
theorem min_le_byteLength_coverBytes (n : Nat) (s : List Char) :
    min n (byteLength s) ≤ byteLength (coverBytes n s).1 := by
  induction s generalizing n with
  | nil => simp [byteLength]
  | cons c rest ih =>
    rcases n with _ | n
    · simp
    · have hrest := ih (n + 1 - c.utf8Size)
      simp only [coverBytes, byteLength]
      omega

/-- A character has four bytes at most, so no more than three are covered beyond those asked for. -/
theorem byteLength_coverBytes_le (n : Nat) (s : List Char) :
    byteLength (coverBytes n s).1 ≤ n + 3 := by
  induction s generalizing n with
  | nil => simp [byteLength]
  | cons c rest ih =>
    rcases n with _ | n
    · simp [byteLength]
    · have hsize := c.utf8Size_le_four
      simp only [coverBytes, byteLength]
      rcases Nat.eq_zero_or_pos (n + 1 - c.utf8Size) with hend | hmore
      · -- the length ends inside this character
        rw [hend, coverBytes_zero, byteLength]
        omega
      · have hrest := ih (n + 1 - c.utf8Size)
        omega

/-- What is covered ends between two characters. -/
theorem isBoundary_coverBytes (n : Nat) (s : List Char) :
    IsBoundary s (byteLength (coverBytes n s).1) :=
  ⟨(coverBytes n s).1, (coverBytes n s).2, (coverBytes_append n s).symm, rfl⟩

/-- A length that ends between two characters covers just as many bytes. -/
theorem IsBoundary.byteLength_coverBytes (h : IsBoundary s p) :
    byteLength (coverBytes p s).1 = p := by
  obtain ⟨before, after, rfl, rfl⟩ := h
  rw [coverBytes_byteLength]

/-- A boundary is not beyond the end of the text. -/
theorem IsBoundary.le_byteLength (h : IsBoundary s p) : p ≤ byteLength s := by
  obtain ⟨before, after, rfl, rfl⟩ := h
  exact byteLength_le_of_prefix (List.prefix_append before after)

/-- **What a length covers** ends at the first place, from the length on or else at the end, where
the text may be cut. -/
theorem isLeast_coverBytes (n : Nat) (s : List Char) :
    IsLeast {p | IsBoundary s p ∧ min n (byteLength s) ≤ p} (byteLength (coverBytes n s).1) := by
  refine ⟨⟨isBoundary_coverBytes n s, min_le_byteLength_coverBytes n s⟩, ?_⟩
  rintro p ⟨hboundary, hle⟩
  rcases le_total n (byteLength s) with h | h
  · rw [min_eq_left h] at hle
    have hprefix := byteLength_le_of_prefix (coverBytes_prefix_of_le hle s)
    rwa [hboundary.byteLength_coverBytes] at hprefix
  · rw [min_eq_right h] at hle
    exact (isBoundary_coverBytes n s).le_byteLength.trans hle

end Text

/-- A sum that is too large for a word is capped at what covers every text of such a length. -/
theorem Text.coverBytes_addCapped {s : List Char} (h : byteLength s ≤ Word.max) (m n : Nat) :
    coverBytes (Word.addCapped m n) s = coverBytes (m + n) s := by
  rw [Word.addCapped]
  split
  · rfl
  · rw [coverBytes_of_byteLength_le h, coverBytes_of_byteLength_le (by omega)]

namespace Cursor

variable {c : Cursor}

/-! ## Readings

A cursor covers the text ahead, and the place it comes to is counted from the beginning of
the whole text. `coverBytes_text` moves between the two, so that what is known of covering a
text is known of reading from anywhere in it. -/

/-- Reading is covering the text ahead and moving on by what is covered. -/
theorem read_value (c : Cursor) (n : Nat) :
    (c.read n).value = (c.moved (Text.coverBytes n c.ahead).1 (Text.coverBytes n c.ahead).2,
      (Text.coverBytes n c.ahead).1) := rfl

/-- The position moves on by the bytes of what is read. -/
theorem position_read (c : Cursor) (n : Nat) :
    (c.read n).value.1.position = c.position + Text.byteLength (c.read n).value.2 := by
  rw [position, (c.read_moves n).readText, Text.byteLength_append, position]

/-- Reading from where a cursor stands covers the text as counting on from its position does. -/
theorem coverBytes_text (c : Cursor) (n : Nat) :
    Text.coverBytes (c.position + n) c.text =
      (c.readText ++ (c.read n).value.2, (c.read n).value.1.ahead) :=
  Text.coverBytes_append_add c.readText c.ahead n

/-- A reading ends at the first place, from the asked one on or else at the end, where the text may
be cut. -/
theorem isLeast_position_read (c : Cursor) (n : Nat) :
    IsLeast {p | Text.IsBoundary c.text p ∧ min (c.position + n) (Text.byteLength c.text) ≤ p}
      (c.read n).value.1.position := by
  have hleast := Text.isLeast_coverBytes (c.position + n) c.text
  rw [coverBytes_text, Text.byteLength_append] at hleast
  rwa [position_read]

/-- Two readings in a row are one, of the bytes that the first one took and those that the second
one asked for. -/
theorem read_read (c : Cursor) (m n : Nat) :
    (c.read (Text.byteLength (c.read m).value.2 + n)).value =
      (((c.read m).value.1.read n).value.1,
        (c.read m).value.2 ++ ((c.read m).value.1.read n).value.2) := by
  have hahead := (c.read_moves m).ahead
  have hcover := Text.coverBytes_append_add (c.read m).value.2 (c.read m).value.1.ahead n
  rw [← hahead] at hcover
  rw [read_value, hcover]
  exact Prod.ext (moved_moved ..).symm rfl

/-- A length that is capped reads what the sum itself would read. -/
theorem read_addCapped (h : Text.byteLength c.text ≤ Word.max) (m n : Nat) :
    (c.read (Word.addCapped m n)).value = (c.read (m + n)).value := by
  have hahead : Text.byteLength c.ahead ≤ Word.max := by
    rw [text, Text.byteLength_append] at h
    omega
  rw [read_value, Text.coverBytes_addCapped hahead, read_value]

/-- Any readings in a row are one, of all the bytes that they took. -/
theorem read_performAll (c : Cursor) (lengths : List Nat) :
    (c.read (Text.byteLength (c.performAll (lengths.map .read)).value.2.flatten)).value =
      ((c.performAll (lengths.map .read)).value.1,
        (c.performAll (lengths.map .read)).value.2.flatten) := by
  induction lengths generalizing c with
  | nil => simp [performAll, read_value, Text.byteLength, moved]
  | cons n rest ih =>
    -- the first reading, and all that follow it as one
    have hfirst := c.read_read n
      (Text.byteLength ((c.read n).value.1.performAll (rest.map .read)).value.2.flatten)
    rw [ih (c.read n).value.1, ← Text.byteLength_append] at hfirst
    exact hfirst

/-- **Readings add up.** A reading takes the text ahead up to the first place from the asked one
on, or up to the end, where the text may be cut. A longer one takes no less. Two readings in a row
lead to the same cursor as one of the bytes that the first one took and those that the second one
asked for, also where their sum is capped at the largest word, and their texts are the text of this
one; and so any readings in a row are one of all the bytes that they took. -/
theorem readings_add_up (c : Cursor) (h : Text.byteLength c.text ≤ Word.max) :
    (∀ n, (c.read n).value.2 <+: c.ahead ∧
        (c.read n).value.1.position = c.position + Text.byteLength (c.read n).value.2 ∧
        IsLeast {p | Text.IsBoundary c.text p ∧ min (c.position + n) (Text.byteLength c.text) ≤ p}
          (c.read n).value.1.position) ∧
      (∀ m n, m ≤ n → (c.read m).value.2 <+: (c.read n).value.2) ∧
      (∀ m n, (c.read (Word.addCapped (Text.byteLength (c.read m).value.2) n)).value =
        (((c.read m).value.1.read n).value.1,
          (c.read m).value.2 ++ ((c.read m).value.1.read n).value.2)) ∧
      ∀ lengths : List Nat,
        (c.read (Text.byteLength (c.performAll (lengths.map .read)).value.2.flatten)).value =
          ((c.performAll (lengths.map .read)).value.1,
            (c.performAll (lengths.map .read)).value.2.flatten) := by
  refine ⟨fun n => ⟨?_, c.position_read n, c.isLeast_position_read n⟩, fun m n hle => ?_,
    fun m n => ?_, c.read_performAll⟩
  · exact ⟨_, (Text.coverBytes_append n c.ahead)⟩
  · exact Text.coverBytes_prefix_of_le hle c.ahead
  · rw [read_addCapped h, read_read]

/-- One byte ends inside the first character, and the sum of its two bytes and the largest word is
capped. -/
theorem readings_add_up_capped :
    let c : Cursor := ofText .standard ['é', '\n', 'b']
    Text.byteLength c.text ≤ Word.max ∧ 1 ≤ 3 ∧ (c.read 1).value.2 = ['é'] ∧
      (c.read 1).value.2 <+: (c.read 3).value.2 ∧
      (c.read (Word.addCapped 2 Word.max)).value =
        (((c.read 1).value.1.read Word.max).value.1, ['é', '\n', 'b']) := by
  intro c
  have hbytes : Text.byteLength c.text ≤ Word.max := by decide
  obtain ⟨-, hmono, htwo, -⟩ := readings_add_up c hbytes
  exact ⟨hbytes, by decide, rfl, hmono 1 3 (by decide), htwo 1 Word.max⟩

/-- Of the lengths that were asked for the sum would be too small. -/
example :
    let c : Cursor := ofText .standard ['é', 'b']
    ((c.read 1).value.1.read 1).value.2 = ['b'] ∧ (c.read 2).value.2 = ['é'] :=
  ⟨rfl, rfl⟩

end Cursor

end TokenSpans
