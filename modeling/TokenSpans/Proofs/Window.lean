import Mathlib.Data.List.Intervals
import Mathlib.Data.List.Perm.Subperm
import TokenSpans.Proofs.Rows

/-!
# The window of an excerpt

Which lines an excerpt shows and how its rows look is said here by itself (`IsWindow`, `layout`),
for a list of line numbers and a width. The rows of every excerpt are such a layout
(`rows_eq_layout`), where the numbers are those of the lines at most two away, cut off at both ends
of the source.

The window is never empty, since the line in question is in it, and it has at most five lines. As
the width is that of its largest number, every number is shown whole.

The specification does not say how the lines are found. A window is a list of numbers with a
given set of members in increasing order, which determines it, and a width is that of the
largest of them; the rows are then laid out number by number, each looking its line up in
the source. The definition of an excerpt instead drops and takes lines and counts along, and
the two are brought together by one induction over the lines that are shown
(`sourceRows_eq_flatMap`).
-/

namespace TokenSpans.Excerpt

variable {count line width : Nat} {numbers : List Nat}

/-! ## What is to be shown

These definitions use nothing of the module that draws excerpts, not even its margin. A
column of zero is treated as the first one, explicitly, where the drawing gets it by
truncated subtraction. -/

/-- The numbers of the lines at most two away from a line, of a source with `count` lines. -/
structure IsWindow (count line : Nat) (numbers : List Nat) : Prop where
  /-- each number is there once, in the order of the lines -/
  increasing : numbers.Pairwise (· < ·)
  /-- the lines at most two away that the source has -/
  mem_iff (number : Nat) :
    number ∈ numbers ↔ max 1 (line - 2) ≤ number ∧ number ≤ min count (line + 2)

/-- A width is that of the largest of some numbers. -/
def IsWidest (numbers : List Nat) (width : Nat) : Prop :=
  ∃ largest ∈ numbers, (∀ number ∈ numbers, number ≤ largest) ∧
    width = (Text.decimal largest).length

/-- A number at the right of its room. -/
def numberCell (width number : Nat) : List Char :=
  List.replicate (width - (Text.decimal number).length) ' ' ++ Text.decimal number

/-- What is to be seen of the line with a number: the number and the line, and if this is the line
in question, a row with the caret. -/
def lineRows (lines : List (List Char)) (width line column number : Nat) : List (List Char) :=
  (numberCell width number ++ [' ', '|', ' '] ++ lines.getD (number - 1) []) ::
    if number = line then
      [List.replicate width ' ' ++ [' ', '|', ' '] ++
        List.replicate (max column 1 - 1) ' ' ++ ['^']]
    else []

/-- The lines with some numbers, between borders. -/
def layout (lines : List (List Char)) (numbers : List Nat) (width line column : Nat) :
    List (List Char) :=
  let edge := List.replicate (width + 1) '-' ++ ['|', '-', '-']
  edge :: numbers.flatMap (lineRows lines width line column) ++ [edge]

/-! ## The numbers in a window

The window that is drawn is an interval, from the first line shown to the last one. That
there are five numbers at most follows from the specification alone: they are different and
lie among five. -/

/-- A line of the source is in its own window. -/
theorem IsWindow.mem_self (h : IsWindow count line numbers) (hfirst : 1 ≤ line)
    (hlast : line ≤ count) : line ∈ numbers := by
  refine (h.mem_iff line).mpr ⟨?_, ?_⟩
  · omega
  · omega

/-- There are two lines on either side at most. -/
theorem IsWindow.length_le (h : IsWindow count line numbers) : numbers.length ≤ 5 := by
  have hnodup : numbers.Nodup := h.increasing.imp Nat.ne_of_lt
  have hsubset : numbers ⊆ List.Ico (line - 2) (line + 3) := by
    intro number hnumber
    obtain ⟨hfirst, hlast⟩ := (h.mem_iff number).mp hnumber
    refine List.Ico.mem.mpr ⟨?_, ?_⟩
    · omega
    · omega
  have hlength := (List.subperm_of_subset hnodup hsubset).length_le
  rw [List.Ico.length] at hlength
  omega

/-- The numbers from the first line that is shown to the last one. -/
theorem isWindow_Ico (count line : Nat) :
    IsWindow count line (List.Ico (firstLine line) (lastLine count line + 1)) := by
  refine ⟨List.Ico.pairwise_lt _ _, ?_⟩
  intro number
  rw [List.Ico.mem, firstLine, lastLine, margin]
  omega

/-- The room for numbers is made for the largest in the window. -/
theorem isWidest_gutter (hfirst : 1 ≤ line) (hlast : line ≤ count) :
    IsWidest (List.Ico (firstLine line) (lastLine count line + 1)) (gutter count line) := by
  refine ⟨lastLine count line, ?_, ?_, rfl⟩
  · rw [List.Ico.mem, firstLine, lastLine]
    omega
  · intro number hnumber
    exact Nat.le_of_lt_succ (List.Ico.mem.mp hnumber).2

/-- No number needs more room than the largest. -/
theorem IsWidest.length_numberCell (h : IsWidest numbers width) {number : Nat}
    (hnumber : number ∈ numbers) : (numberCell width number).length = width := by
  obtain ⟨largest, -, hlargest, rfl⟩ := h
  exact Text.length_padStart (Text.length_decimal_le (hlargest number hnumber))

/-! ## The rows of the window

Drawing keeps a counter and a rest of the lines, and the two fit together as long as the
rest is a beginning of the source from that number on. This is the invariant of the
induction; the counter in the statement is one ahead of the number of lines that are passed
over. -/

/-- The rows of a source line are those of its number. -/
theorem lineRows_eq (lines : List (List Char)) (width line column number : Nat) :
    lineRows lines width line column number =
      sourceRow width number (lines.getD (number - 1) []) ::
        if number = line then [caretRow width column] else [] := by
  have hcolumn : max column 1 - 1 = column - 1 := by omega
  have hcaret : caretRow width column = List.replicate width ' ' ++ [' ', '|', ' '] ++
      List.replicate (max column 1 - 1) ' ' ++ ['^'] := by
    rw [hcolumn, caretRow, Text.padStart, List.append_nil]
    rfl
  rw [hcaret]
  rfl

/-- Lines that follow each other in a source are shown by their numbers in it. -/
theorem sourceRows_eq_flatMap {lines shown : List (List Char)} {number : Nat}
    (hshown : shown <+: lines.drop number) (width line column : Nat) :
    sourceRows width line column (number + 1) shown =
      (List.Ico (number + 1) (number + 1 + shown.length)).flatMap
        (lineRows lines width line column) := by
  induction shown generalizing number with
  | nil => simp [sourceRows]
  | cons text rest ih =>
    obtain ⟨more, hmore⟩ := hshown
    have htext : lines.getD number [] = text := by
      rw [List.getD_eq_getElem?_getD, ← List.head?_drop, ← hmore]
      rfl
    have hrest : rest <+: lines.drop (number + 1) := by
      rw [← List.tail_drop, ← hmore]
      exact List.prefix_append rest more
    have hrows : sourceRows width line column (number + 1) (text :: rest) =
        lineRows lines width line column (number + 1) ++
          sourceRows width line column (number + 2) rest := by
      rw [lineRows_eq, Nat.add_sub_cancel, htext, sourceRows]
      split_ifs <;> rfl
    have hlength : number + 1 + (text :: rest).length = number + 2 + rest.length := by
      rw [List.length_cons]
      omega
    rw [hrows, ih hrest, hlength, List.Ico.eq_cons (by omega : number + 1 < _), List.flatMap_cons]

/-- **The rows of an excerpt are the layout of its window.** -/
theorem rows_eq_layout {lines : List (List Char)} (hfirst : 1 ≤ line) (hlast : line ≤ lines.length)
    (column : Nat) :
    rows lines line column =
      layout lines (List.Ico (firstLine line) (lastLine lines.length line + 1))
        (gutter lines.length line) line column := by
  have hbefore : firstLine line - 1 + 1 = firstLine line := by
    rw [firstLine]
    omega
  have hlength : firstLine line +
      ((lines.drop (firstLine line - 1)).take
        (lastLine lines.length line + 1 - firstLine line)).length =
      lastLine lines.length line + 1 := by
    rw [List.length_take, List.length_drop, firstLine, lastLine]
    omega
  have hrows := sourceRows_eq_flatMap (List.take_prefix
    (lastLine lines.length line + 1 - firstLine line) (lines.drop (firstLine line - 1)))
    (gutter lines.length line) line column
  rw [hbefore, hlength] at hrows
  simp only [rows]
  rw [hrows]
  rfl

/-! ## Excerpts

Whether there is an excerpt depends on the line alone. What it looks like is given by some
numbers and some width with the properties of a window, so nothing about how they are
computed shows in the statement. -/

/-- There is an excerpt for the lines of the source and for no others. -/
theorem render?_eq_some_iff {source excerpt : List Char} {column : Nat} :
    render? source line column = some excerpt ↔
      (1 ≤ line ∧ line ≤ (Text.splitLines source).length) ∧
        ofRows (rows (Text.splitLines source) line column) = excerpt := by
  have hnone : (line = 0 ∨ (Text.splitLines source).length < line) ↔
      ¬ (1 ≤ line ∧ line ≤ (Text.splitLines source).length) := by omega
  simp only [render?, hnone]
  split_ifs with h
  · simp [h]
  · constructor
    · intro hsome
      cases hsome
    · rintro ⟨hline, -⟩
      exact absurd hline h

/-- **What an excerpt shows.** There is one exactly for the lines of the source, and its rows are
the lines around the one in question, each behind its number, with the caret in one place only. -/
theorem excerpt_shows_window (source : List Char) (line column : Nat) :
    ((render? source line column).isSome ↔
      1 ≤ line ∧ line ≤ (Text.splitLines source).length) ∧
    ∀ excerpt ∈ render? source line column, ∃ numbers width,
      IsWindow (Text.splitLines source).length line numbers ∧
      line ∈ numbers ∧ 1 ≤ numbers.length ∧ numbers.length ≤ 5 ∧
      IsWidest numbers width ∧ (∀ number ∈ numbers, (numberCell width number).length = width) ∧
      excerpt = ofRows (layout (Text.splitLines source) numbers width line column) ∧
      ∀ row ∈ layout (Text.splitLines source) numbers width line column, '\n' ∉ row := by
  constructor
  · rw [Option.isSome_iff_exists]
    simp only [render?_eq_some_iff, exists_and_left, exists_eq', and_true]
  · intro excerpt hexcerpt
    obtain ⟨⟨hfirst, hlast⟩, rfl⟩ := render?_eq_some_iff.mp hexcerpt
    have hwindow := isWindow_Ico (Text.splitLines source).length line
    have hwidest := isWidest_gutter hfirst hlast
    have hself := hwindow.mem_self hfirst hlast
    have hrows := rows_eq_layout hfirst hlast column
    refine ⟨_, _, hwindow, hself, List.length_pos_of_mem hself, hwindow.length_le, hwidest,
      fun _ => hwidest.length_numberCell, congrArg ofRows hrows, ?_⟩
    rw [← hrows]
    exact newline_not_mem_rows (fun _ => Text.newline_not_mem_of_mem_splitLines) line column

/-- Of eleven lines the window around the ninth ends with the last, and the number nine is moved. -/
example : render? "a\nb\nc\nd\ne\nf\ng\n\ni\nj\n".toList 9 0 =
    some ("---|--\n 7 | g\n 8 | \n 9 | i\n   | ^\n10 | j\n11 | \n---|--\n".toList) := by
  decide +kernel

end TokenSpans.Excerpt
