import TokenSpans.Excerpt
import TokenSpans.Proofs.Lines

/-!
# The rows of an excerpt

An excerpt is taken from the lines around one of them: some of those above it, the line itself with
the caret below it, and some of those that follow, all between two borders (`rows_around`). Every
line number fits the room that the largest one takes (`length_label`), so the texts of the lines
begin in one column, and the caret can be placed by counting characters.

No row has a newline in it, so that the text of an excerpt falls into its rows again
(`splitLines_ofRows`).

The result to be used by others is `exists_excerpt`: given a line of the source, by number
and text, the excerpt has two rows that follow each other, the line behind its label and the
caret behind its margin, and label and margin are equally wide up to the column. Everything
else about the rows is left unnamed there, by existence.
-/

namespace TokenSpans

namespace Text

/-! ## Numbers and padding

All numbers of an excerpt are written to one width, that of the largest. Hence the digits
have to be monotone in the number, which for decimal digits is a matter of powers of ten. -/

/-- A larger number has no fewer digits. -/
theorem length_decimal_le {m n : Nat} (h : m ≤ n) : (decimal m).length ≤ (decimal n).length := by
  have hpos : 0 < (Nat.toDigits 10 n).length := Nat.length_toDigits_pos
  have hn : n < 10 ^ (Nat.toDigits 10 n).length :=
    (Nat.length_toDigits_le_iff (by decide) hpos).mp (Nat.le_refl _)
  exact (Nat.length_toDigits_le_iff (by decide) hpos).mpr (Nat.lt_of_le_of_lt h hn)

/-- Digits are no newlines. -/
theorem newline_not_mem_decimal (n : Nat) : '\n' ∉ decimal n := by
  intro h
  have hdigit := Nat.isDigit_of_mem_toDigits (by decide) (by decide) h
  revert hdigit
  decide

/-- A text that fits is padded to the width. -/
theorem length_padStart {width : Nat} {s : List Char} (h : s.length ≤ width) :
    (padStart width s).length = width := by
  rw [padStart, List.length_append, List.length_replicate]
  omega

/-- Padding adds spaces only. -/
theorem mem_padStart {width : Nat} {s : List Char} {c : Char} (h : c ∈ padStart width s) :
    c = ' ' ∨ c ∈ s :=
  (List.mem_append.mp h).imp_left List.eq_of_mem_replicate

end Text

namespace Excerpt

/-! ## Lines behind their numbers

The rows are drawn by one recursion over the lines that are shown, which puts the caret in
where the counter meets the line in question. Here they are divided at this line: above and
below it nothing happens but numbering. -/

/-- Lines behind their numbers, which count on from `number`. -/
def numbered (width number : Nat) (lines : List (List Char)) : List (List Char) :=
  (lines.zipIdx number).map fun line => sourceRow width line.2 line.1

/-- Rows of lines that follow others are numbered on from them. -/
theorem sourceRows_append (width line column number : Nat) (lines more : List (List Char)) :
    sourceRows width line column number (lines ++ more) =
      sourceRows width line column number lines ++
        sourceRows width line column (number + lines.length) more := by
  induction lines generalizing number with
  | nil => rfl
  | cons text rest ih =>
    have hnumber : number + 1 + rest.length = number + (text :: rest).length := by
      rw [List.length_cons]
      omega
    rw [List.cons_append, sourceRows, sourceRows, ih, hnumber]
    split_ifs <;> rfl

/-- Lines without the one in question are shown without a caret. -/
theorem sourceRows_of_outside {width line column number : Nat} {lines : List (List Char)}
    (h : line < number ∨ number + lines.length ≤ line) :
    sourceRows width line column number lines = numbered width number lines := by
  induction lines generalizing number with
  | nil => rfl
  | cons text rest ih =>
    rw [List.length_cons] at h
    have hne : number ≠ line := by omega
    rw [sourceRows, if_neg hne, ih (by omega)]
    rfl

/-- The caret stands behind the line in question and nowhere else. -/
theorem sourceRows_around (width column number : Nat) (above below : List (List Char))
    (text : List Char) :
    sourceRows width (number + above.length) column number (above ++ text :: below) =
      numbered width number above ++ sourceRow width (number + above.length) text ::
        caretRow width column :: numbered width (number + above.length + 1) below := by
  rw [sourceRows_append, sourceRows_of_outside (.inr (Nat.le_refl _)), sourceRows, if_pos rfl,
    sourceRows_of_outside (.inl (Nat.lt_succ_self _))]

/-- Of the lines around one of them, those are shown whose numbers lie in the margin. -/
theorem shown_around (above below : List (List Char)) (text : List Char) :
    let line := above.length + 1
    let count := above.length + 1 + below.length
    ((above ++ text :: below).drop (firstLine line - 1)).take
        (lastLine count line + 1 - firstLine line) =
      above.drop (firstLine line - 1) ++ text :: below.take (lastLine count line - line) := by
  intro line count
  have hline : line = above.length + 1 := rfl
  have hcount : count = above.length + 1 + below.length := rfl
  have hfirst : 1 ≤ firstLine line := Nat.le_max_right ..
  have hfirst' : firstLine line ≤ line := by
    rw [firstLine]
    omega
  have hlast : line ≤ lastLine count line := by
    rw [lastLine]
    omega
  have htake : lastLine count line + 1 - firstLine line =
      (above.drop (firstLine line - 1)).length + (lastLine count line - line + 1) := by
    rw [List.length_drop]
    omega
  rw [List.drop_append_of_le_length (by omega), htake, List.take_length_add_append,
    List.take_succ_cons]

/-- **The rows of an excerpt**: up to two lines above, the line in question and the caret below it,
and up to two lines that follow, between borders. -/
theorem rows_around (above below : List (List Char)) (text : List Char) (column : Nat) :
    let line := above.length + 1
    let count := above.length + 1 + below.length
    let width := gutter count line
    rows (above ++ text :: below) line column =
      border width ::
        (numbered width (firstLine line) (above.drop (firstLine line - 1)) ++
          sourceRow width line text :: caretRow width column ::
            numbered width (line + 1) (below.take (lastLine count line - line))) ++
      [border width] := by
  intro line count width
  have hcount : (above ++ text :: below).length = count := by
    rw [List.length_append, List.length_cons]
    omega
  have hnumber : firstLine line + (above.drop (firstLine line - 1)).length = line := by
    rw [List.length_drop, firstLine]
    omega
  -- of the lines shown those above the line in question make its number what it is
  have hrows := sourceRows_around width column (firstLine line)
    (above.drop (firstLine line - 1)) (below.take (lastLine count line - line)) text
  rw [hnumber] at hrows
  simp only [rows, hcount]
  rw [shown_around, hrows]

/-! ## The place of the caret

A row begins with a label and the row of the caret with a margin. Both are taken as texts of
a known length, so that the place of the caret below a character is an equation between
lengths. -/

/-- What stands before the text of a line: its number, and a bar. -/
def label (width number : Nat) : List Char :=
  Text.padStart width (Text.decimal number) ++ [' ', '|', ' ']

/-- What stands before the caret. -/
def caretMargin (width column : Nat) : List Char :=
  Text.padStart width [] ++ [' ', '|', ' '] ++ List.replicate (column - 1) ' '

/-- A row is its label and the text of its line. -/
theorem sourceRow_eq (width number : Nat) (text : List Char) :
    sourceRow width number text = label width number ++ text := rfl

/-- The row of the caret is its margin and the caret. -/
theorem caretRow_eq (width column : Nat) :
    caretRow width column = caretMargin width column ++ ['^'] := rfl

/-- There is room for the number of every line that is shown. -/
theorem length_label {count line number : Nat} (h : number ≤ lastLine count line) :
    (label (gutter count line) number).length = gutter count line + 3 := by
  have hfits : (Text.decimal number).length ≤ gutter count line := Text.length_decimal_le h
  rw [label, List.length_append, Text.length_padStart hfits]
  rfl

/-- The margin is as wide as a label and the columns before the caret. -/
theorem length_caretMargin (width column : Nat) :
    (caretMargin width column).length = width + 3 + (column - 1) := by
  rw [caretMargin, List.length_append, List.length_append,
    Text.length_padStart (Nat.zero_le width), List.length_replicate]
  rfl

/-- Before the caret there are spaces and the bar. -/
theorem mem_caretMargin {width column : Nat} {c : Char} (h : c ∈ caretMargin width column) :
    c = ' ' ∨ c = '|' := by
  rcases List.mem_append.mp h with h | h
  · rcases List.mem_append.mp h with h | h
    · rcases Text.mem_padStart h with h | h
      · exact .inl h
      · cases h
    · simp only [List.mem_cons, List.not_mem_nil, or_false] at h
      rcases h with h | h | h
      · exact .inl h
      · exact .inr h
      · exact .inl h
  · exact .inl (List.eq_of_mem_replicate h)

/-! ## Rows in the text of an excerpt

Rows are joined by ending each with a newline. They can be told from the text again because
none of them has a newline itself, and this has to be shown of every kind of row: the
borders and labels have fixed characters, and the lines come from splitting a source at its
newlines. -/

/-- Rows ended by newlines are the lines of their text, before a last line that is empty. -/
theorem splitLines_ofRows {rows : List (List Char)} (h : ∀ row ∈ rows, '\n' ∉ row) :
    Text.splitLines (ofRows rows) = rows ++ [[]] := by
  induction rows with
  | nil => rfl
  | cons row rest ih =>
    have hrow := Text.splitLines_of_not_mem (h row (List.mem_cons_self ..))
    have hrest := ih fun r hr => h r (List.mem_cons_of_mem row hr)
    have htext : ofRows (row :: rest) = row ++ '\n' :: ofRows rest := by
      rw [ofRows, List.flatMap_cons, List.append_assoc, List.singleton_append, ofRows]
    rw [htext, Text.splitLines_append_newline, hrow, hrest]
    rfl

/-- A row has no newline if its line has none. -/
theorem newline_not_mem_sourceRow {width number : Nat} {text : List Char} (h : '\n' ∉ text) :
    '\n' ∉ sourceRow width number text := by
  simp only [sourceRow, List.mem_append]
  rintro ((hmem | hmem) | hmem)
  · rcases Text.mem_padStart hmem with hspace | hdigit
    · cases hspace
    · exact Text.newline_not_mem_decimal number hdigit
  · revert hmem
    decide
  · exact h hmem

/-- The row of the caret has no newline. -/
theorem newline_not_mem_caretRow (width column : Nat) : '\n' ∉ caretRow width column := by
  rw [caretRow_eq, List.mem_append]
  rintro (hmem | hmem)
  · rcases mem_caretMargin hmem with h | h <;> cases h
  · revert hmem
    decide

/-- A border has no newline. -/
theorem newline_not_mem_border (width : Nat) : '\n' ∉ border width := by
  rw [border, List.mem_append]
  rintro (hmem | hmem)
  · cases List.eq_of_mem_replicate hmem
  · revert hmem
    decide

/-- The rows of lines have no newline if the lines have none. -/
theorem newline_not_mem_sourceRows {width line column number : Nat} {lines : List (List Char)}
    (h : ∀ text ∈ lines, '\n' ∉ text) :
    ∀ row ∈ sourceRows width line column number lines, '\n' ∉ row := by
  induction lines generalizing number with
  | nil =>
    intro row hrow
    cases hrow
  | cons text rest ih =>
    have htext : '\n' ∉ sourceRow width number text :=
      newline_not_mem_sourceRow (h text (List.mem_cons_self ..))
    have hrest : ∀ row ∈ sourceRows width line column (number + 1) rest, '\n' ∉ row :=
      ih fun t ht => h t (List.mem_cons_of_mem text ht)
    intro row hrow
    rw [sourceRows] at hrow
    split_ifs at hrow
    · rcases List.mem_cons.mp hrow with rfl | hrow
      · exact htext
      · rcases List.mem_cons.mp hrow with rfl | hrow
        · exact newline_not_mem_caretRow width column
        · exact hrest row hrow
    · rcases List.mem_cons.mp hrow with rfl | hrow
      · exact htext
      · exact hrest row hrow

/-- No row of an excerpt has a newline. -/
theorem newline_not_mem_rows {lines : List (List Char)} (h : ∀ text ∈ lines, '\n' ∉ text)
    (line column : Nat) : ∀ row ∈ rows lines line column, '\n' ∉ row := by
  intro row hrow
  simp only [rows, List.cons_append, List.mem_cons, List.mem_append, List.not_mem_nil,
    or_false] at hrow
  rcases hrow with rfl | hrow | rfl
  · exact newline_not_mem_border _
  · refine newline_not_mem_sourceRows (fun text htext => h text ?_) row hrow
    exact List.mem_of_mem_drop (List.mem_of_mem_take htext)
  · exact newline_not_mem_border _

/-! ## The excerpt of a line

Put together for the text of an excerpt, which is what is printed. The hypothesis is about
the source alone, and the line in question may be any of its lines, also an empty one. -/

/-- **There is an excerpt for every line of a source**, and it shows the line behind its number
with the caret in the row below. The room before the line is as wide as that before the caret's
column. -/
theorem exists_excerpt {source line : List Char} {number start : Nat}
    (hline : Text.IsLine source number start line) (column : Nat) :
    ∃ excerpt width above below, render? source number column = some excerpt ∧
      Text.splitLines excerpt = above ++ (label width number ++ line) ::
        (caretMargin width column ++ ['^']) :: below ∧
      (label width number).length = width + 3 := by
  obtain ⟨before, behind, hsplit, rfl, -⟩ := hline
  have hexists : ¬ (before.length + 1 = 0 ∨
      (Text.splitLines source).length < before.length + 1) := by
    rw [hsplit, List.length_append, List.length_cons]
    omega
  have hfits : before.length + 1 ≤
      lastLine (before.length + 1 + behind.length) (before.length + 1) := by
    rw [lastLine]
    omega
  have hnewline : ∀ row ∈ rows (Text.splitLines source) (before.length + 1) column, '\n' ∉ row :=
    newline_not_mem_rows (fun _ => Text.newline_not_mem_of_mem_splitLines) _ column
  obtain ⟨above, below, hrows⟩ : ∃ above below,
      Text.splitLines (ofRows (rows (Text.splitLines source) (before.length + 1) column)) =
        above ++ (label (gutter (before.length + 1 + behind.length) (before.length + 1))
            (before.length + 1) ++ line) ::
          (caretMargin (gutter (before.length + 1 + behind.length) (before.length + 1)) column ++
            ['^']) :: below := by
    rw [splitLines_ofRows hnewline, hsplit, rows_around, sourceRow_eq, caretRow_eq]
    simp only [List.append_assoc, List.cons_append]
    exact ⟨_, _, (List.cons_append ..).symm⟩
  exact ⟨_, _, above, below, if_neg hexists, hrows, length_label hfits⟩

end Excerpt

end TokenSpans
