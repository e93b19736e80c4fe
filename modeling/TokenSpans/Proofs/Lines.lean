import TokenSpans.Proofs.Place

/-!
# The lines around a place

A place in a text divides it in two, and the line that the place is in has a part on either side:
the last line of the text before it, and the text behind it up to the next newline
(`splitLines_around`). The number of lines above is the number of newlines before the place, and the
characters of these lines and their newlines are those before the line.

The proof does not go through the text from its beginning. The text before the place is
divided by its last newline, the text behind it by its first one, and
`splitLines_append_newline` says that splitting respects a division at a newline. An
induction on the text would have to carry the line that is open along with it.
-/

namespace TokenSpans

namespace Text

/-! ## Splitting at newlines

What can be said of all lines at once: a text without newlines is one line, a newline in a
text divides its lines in two lists, no line has a newline in it, and the lines with their
newlines are the text. These are inductions along the recursion of `splitLines`, whose case
for an empty list of lines never arises. -/

/-- A text without newlines is one line. -/
theorem splitLines_of_not_mem {s : List Char} (h : '\n' ∉ s) : splitLines s = [s] := by
  induction s with
  | nil => rfl
  | cons c rest ih =>
    have hc : c ≠ '\n' := (List.ne_of_not_mem_cons h).symm
    rw [splitLines, if_neg hc, ih (List.not_mem_of_not_mem_cons h)]

/-- A newline ends the last line before it. -/
theorem splitLines_append_newline (s t : List Char) :
    splitLines (s ++ '\n' :: t) = splitLines s ++ splitLines t := by
  induction s with
  | nil => rfl
  | cons c rest ih =>
    rw [List.cons_append, splitLines, splitLines, ih]
    split_ifs with hc
    · rfl
    · cases hrest : splitLines rest with
      | nil => exact absurd hrest (splitLines_ne_nil rest)
      | cons line more => rfl

/-- No line has a newline in it. -/
theorem newline_not_mem_of_mem_splitLines {s line : List Char} (h : line ∈ splitLines s) :
    '\n' ∉ line := by
  induction s generalizing line with
  | nil =>
    obtain rfl := List.mem_singleton.mp h
    exact List.not_mem_nil
  | cons c rest ih =>
    rw [splitLines] at h
    split_ifs at h with hc
    · rcases List.mem_cons.mp h with rfl | h
      · exact List.not_mem_nil
      · exact ih h
    · cases hrest : splitLines rest with
      | nil => exact absurd hrest (splitLines_ne_nil rest)
      | cons first more =>
        rw [hrest] at h ih
        rcases List.mem_cons.mp h with rfl | h
        · -- the first line has one character more, and that is no newline
          exact List.not_mem_cons_of_ne_of_not_mem (Ne.symm hc) (ih (List.mem_cons_self ..))
        · exact ih (List.mem_cons_of_mem _ h)

/-- The lines of a text, each with a newline behind it, are the text with a newline behind it. -/
theorem flatMap_splitLines (s : List Char) :
    (splitLines s).flatMap (fun line => line ++ ['\n']) = s ++ ['\n'] := by
  induction s with
  | nil => rfl
  | cons c rest ih =>
    rw [splitLines]
    split_ifs with hc
    · rw [List.flatMap_cons, ih, hc]
      rfl
    · cases hrest : splitLines rest with
      | nil => exact absurd hrest (splitLines_ne_nil rest)
      | cons first more =>
        rw [hrest, List.flatMap_cons] at ih
        rw [List.flatMap_cons, List.cons_append, List.cons_append, ih]
        rfl

/-! ## The last line before a place, and the first behind it

A place is given by the text before it and the text behind it. The line it is in begins
after the last newline of the one and goes on to the first newline of the other, and either
of these newlines may be missing: then the line begins or ends with the text. -/

/-- The character behind a text is found by the length of the text. -/
theorem getElem?_length_append (s : List Char) (c : Char) (t : List Char) :
    (s ++ c :: t)[s.length]? = some c := by
  rw [List.getElem?_append_right (Nat.le_refl _), Nat.sub_self, List.getElem?_cons_zero]

/-- A text with newlines is divided by the last of them. -/
theorem exists_append_newline_lastLine {s : List Char} (h : '\n' ∈ s) :
    ∃ front, s = front ++ '\n' :: lastLine s := by
  obtain ⟨tail, front, hsplit, htail⟩ := List.eq_append_cons_of_mem (List.mem_reverse.mpr h)
  have hs : s = front.reverse ++ '\n' :: tail.reverse := by
    rw [← List.reverse_reverse s, hsplit]
    simp
  refine ⟨front.reverse, ?_⟩
  rw [hs, lastLine_append_newline (fun hmem => htail (List.mem_reverse.mp hmem)), ← hs]

/-- What begins inside a line goes on with it up to the next newline. -/
theorem exists_splitLines_append {s : List Char} (h : '\n' ∉ s) (t : List Char) :
    ∃ below, splitLines (s ++ t) = (s ++ t.takeWhile (· != '\n')) :: below := by
  have hline : '\n' ∉ s ++ t.takeWhile (· != '\n') := by
    rw [List.mem_append]
    rintro (hmem | hmem)
    · exact h hmem
    · have hne := List.mem_takeWhile_imp hmem
      simp at hne
  have hsplit : s ++ t = (s ++ t.takeWhile (· != '\n')) ++ t.dropWhile (· != '\n') := by
    rw [List.append_assoc, List.takeWhile_append_dropWhile]
  rw [hsplit]
  rcases hrest : t.dropWhile (· != '\n') with _ | ⟨stop, rest⟩
  · rw [List.append_nil, splitLines_of_not_mem hline]
    exact ⟨[], rfl⟩
  · -- the line is ended by a newline
    have hstop := List.head?_dropWhile_not (· != '\n') t
    rw [hrest] at hstop
    obtain rfl : stop = '\n' := by simpa using hstop
    rw [splitLines_append_newline, splitLines_of_not_mem hline]
    exact ⟨splitLines rest, rfl⟩

/-- `line` is the line of the text with this number, counted from one, and begins at the offset
`start`: behind the lines above it and their newlines. -/
def IsLine (s : List Char) (number start : Nat) (line : List Char) : Prop :=
  ∃ above below, splitLines s = above ++ line :: below ∧ above.length + 1 = number ∧
    (above.flatMap fun l => l ++ ['\n']).length = start

/-- **The line around a place**: the last line before it and what is behind it up to the next
newline. The newlines before the place count the lines above. -/
theorem splitLines_around (s t : List Char) :
    IsLine (s ++ t) (s.count '\n' + 1) (s.length - (lastLine s).length)
      (lastLine s ++ t.takeWhile (· != '\n')) := by
  by_cases h : '\n' ∈ s
  · obtain ⟨front, hfront⟩ := exists_append_newline_lastLine h
    have htail := newline_not_mem_lastLine s
    -- the last line is only known by where it stands and that it has no newline
    generalize lastLine s = tail at hfront htail ⊢
    subst hfront
    obtain ⟨below, hbelow⟩ := exists_splitLines_append htail t
    refine ⟨splitLines front, below, ?_, ?_, ?_⟩
    · rw [List.append_assoc, List.cons_append, splitLines_append_newline, hbelow]
    · rw [length_splitLines, List.count_append, List.count_cons_self, List.count_eq_zero.mpr htail]
    · simp only [flatMap_splitLines, List.length_append, List.length_cons, List.length_nil]
      omega
  · obtain ⟨below, hbelow⟩ := exists_splitLines_append h t
    rw [lastLine_of_not_mem h, List.count_eq_zero.mpr h, Nat.sub_self]
    exact ⟨[], below, hbelow, rfl, rfl⟩

end Text

end TokenSpans
