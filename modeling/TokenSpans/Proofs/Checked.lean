import TokenSpans.Cursor.Bytes
import TokenSpans.Proofs.Covering
import TokenSpans.Proofs.Lines

/-!
# Reading with checks

A cursor that keeps a position in bytes and counts in words checks each of its steps, and has no
result where one of them fails. On a text that memory can hold none of them does: the end that is
asked for is not beyond the text and is rounded up in three steps at most, the text is only cut
between two characters, and what is counted is never more than the bytes of the text and one
(`Location.Within`).

So a reading with checks has a result on every cursor on its way through such a text, and it is the
reading without them (`Cursor.readsTo_inBytes`). From one reading to the next the cursor stays on
its way, which makes it all readings (`ByteCursor.no_check_fails`).

The two cursors are related by a function (`Cursor.inBytes`) and not by a relation: the
whole text and the position in bytes can be read off the plain cursor. What has to be
carried from one reading to the next is only `Cursor.Placed`, that the place is the one the
text read so far leads to, for it is what bounds the numbers by the size of the text.

The bound on the text is that of memory, half of what a word can count. So lines, columns and
rounded positions have room in a word, with one to spare, and the only sum that may run over, that
of a position and the length asked for, is capped beyond the end of the text.
-/

namespace TokenSpans

namespace Word

/-- A sum that fits a word is there. -/
theorem add?_eq {a b : Nat} (h : a + b ≤ max) : add? a b = some (a + b) :=
  if_pos h

/-- A difference that is not negative is there. -/
theorem sub?_eq {a b : Nat} (h : b ≤ a) : sub? a b = some (a - b) :=
  if_pos h

/-- A sum that is capped by a word and by a bound which fits a word is capped by the bound. -/
theorem min_addCapped {bound : Nat} (h : bound ≤ max) (a b : Nat) :
    min (addCapped a b) bound = min (a + b) bound := by
  rw [addCapped]
  split
  · rfl
  · omega

end Word

namespace Text

/-- The largest number of bytes that a text has in memory: all but the highest bit of a word. -/
def maxBytes : Nat :=
  0x7FFFFFFFFFFFFFFF

/-- A text has at least as many bytes as characters. -/
theorem length_le_byteLength (s : List Char) : s.length ≤ byteLength s := by
  induction s with
  | nil => simp
  | cons c rest ih =>
    have hpos := c.utf8Size_pos
    simp only [List.length_cons, byteLength]
    omega

end Text

namespace Location

/-- All three numbers are bounded, by one and the same number. -/
structure Within (bound : Nat) (l : Location) : Prop where
  offset_le : l.offset ≤ bound
  line_le : l.line ≤ bound
  column_le : l.column ≤ bound

/-- None of the numbers after a text is more than its bytes and the number of the first line. -/
theorem within_after (first : Nat) (s : List Char) :
    (after first s).Within (first + Text.byteLength s) := by
  have hlength := Text.length_le_byteLength s
  have hcount : s.count '\n' ≤ s.length := List.count_le_length
  have hlast := Text.length_lastLine_le s
  constructor
  · simp only [after]
    omega
  · simp only [after]
    omega
  · simp only [after]
    omega

end Location

namespace ByteCursor

/-! ## Cutting a text

`cut?` has a result just at the boundaries of a text, and there the two parts that one
expects. With this, slicing and rounding up need no recursion of their own to be understood:
a slice is two cuts, and rounding up is the search for the least boundary. -/

/-- A text may be cut behind any beginning of it. -/
theorem cut?_append (s t : List Char) : cut? (Text.byteLength s) (s ++ t) = some (s, t) := by
  induction s with
  | nil => simp [Text.byteLength, cut?]
  | cons c rest ih =>
    have hpos := c.utf8Size_pos
    -- the definition cuts by cases on the number, so the number has to be a successor
    obtain ⟨k, hk⟩ : ∃ k, Text.byteLength (c :: rest) = k + 1 :=
      ⟨c.utf8Size + Text.byteLength rest - 1, by simp only [Text.byteLength]; omega⟩
    have hsize : c.utf8Size ≤ k + 1 := by
      simp only [Text.byteLength] at hk
      omega
    have hrest : k + 1 - c.utf8Size = Text.byteLength rest := by
      simp only [Text.byteLength] at hk
      omega
    rw [hk, List.cons_append, cut?, if_pos hsize, hrest, ih]
    rfl

/-- Inversion for `cut?`: the text is only cut between two characters. -/
theorem of_cut?_eq_some {n : Nat} {s : List Char} {parts : List Char × List Char}
    (h : cut? n s = some parts) : s = parts.1 ++ parts.2 ∧ Text.byteLength parts.1 = n := by
  induction s generalizing n parts with
  | nil =>
    cases n with
    | zero =>
      simp only [cut?, Option.some.injEq] at h
      simp [← h, Text.byteLength]
    | succ n => simp [cut?] at h
  | cons c rest ih =>
    cases n with
    | zero =>
      simp only [cut?, Option.some.injEq] at h
      simp [← h, Text.byteLength]
    | succ n =>
      rw [cut?] at h
      split at h
      · rename_i hsize
        obtain ⟨inner, hinner, rfl⟩ := Option.map_eq_some_iff.mp h
        obtain ⟨hrest, hbytes⟩ := ih hinner
        refine ⟨by rw [hrest]; rfl, ?_⟩
        simp only [Text.byteLength]
        omega
      · cases h

/-- **A text may be cut just where two characters meet**, or at its ends. -/
theorem isSome_cut?_iff {n : Nat} {s : List Char} :
    (cut? n s).isSome = true ↔ Text.IsBoundary s n := by
  constructor
  · intro h
    obtain ⟨parts, hparts⟩ := Option.isSome_iff_exists.mp h
    obtain ⟨htext, hbytes⟩ := of_cut?_eq_some hparts
    exact ⟨parts.1, parts.2, htext, hbytes⟩
  · rintro ⟨before, after, rfl, rfl⟩
    rw [cut?_append]
    rfl

/-- A part of a text lies between the bytes before it and those up to its end. -/
theorem slice?_append (before piece after : List Char) :
    slice? (before ++ piece ++ after) (Text.byteLength before)
      (Text.byteLength (before ++ piece)) = some piece := by
  rw [slice?, cut?_append, Option.bind_eq_bind, Option.bind_some]
  dsimp only
  rw [cut?_append]
  rfl

/-- Going on byte by byte leads to the first place where the text may be cut, if it is near enough.
-/
theorem roundUp?_eq {s : List Char} {stop n tries : Nat}
    (h : IsLeast {p | Text.IsBoundary s p ∧ n ≤ p} stop) (hnear : stop ≤ n + tries)
    (hmax : stop ≤ Word.max) : roundUp? s tries n = some stop := by
  have hstop : (cut? stop s).isSome = true := isSome_cut?_iff.mpr h.1.1
  induction tries generalizing n with
  | zero =>
    obtain rfl : stop = n := le_antisymm hnear h.1.2
    rw [roundUp?, if_pos hstop]
  | succ tries ih =>
    by_cases hhere : n = stop
    · rw [roundUp?, hhere, if_pos hstop]
    · -- the text may not be cut here, since this comes before the first place where it may
      have hnext : n + 1 ≤ stop := lt_of_le_of_ne h.1.2 hhere
      have hcut : ¬ (cut? n s).isSome = true := by
        intro hcut
        have hle := h.2 ⟨isSome_cut?_iff.mp hcut, le_refl n⟩
        omega
      have hleast : IsLeast {p | Text.IsBoundary s p ∧ n + 1 ≤ p} stop := by
        refine ⟨⟨h.1.1, hnext⟩, ?_⟩
        rintro p ⟨hp, hle⟩
        exact h.2 ⟨hp, by omega⟩
      rw [roundUp?, if_neg hcut, Word.add?_eq (hnext.trans hmax), Option.bind_eq_bind,
        Option.bind_some]
      exact ih hleast (by omega)

/-! ## The place after a piece

The machine looks for the last newline from behind and counts the characters after it. It
therefore cuts the piece once more, at a place that is certainly a boundary: behind a
newline, which has one byte. -/

/-- The last newline is found behind what stands before it. -/
theorem lastNewline?_append {tail : List Char} (h : '\n' ∉ tail) (front : List Char) :
    lastNewline? (front ++ '\n' :: tail) = some (Text.byteLength front) := by
  have hmem : '\n' ∈ front ++ '\n' :: tail := by simp
  have hbehind : ((front ++ '\n' :: tail).reverse.dropWhile (· != '\n')).reverse =
      front ++ ['\n'] := by
    have hreverse : (front ++ '\n' :: tail).reverse = tail.reverse ++ '\n' :: front.reverse := by
      simp
    rw [hreverse, List.dropWhile_append_of_pos (Text.forall_reverse_ne_newline h)]
    simp
  have hbytes : Text.byteLength ['\n'] = 1 := rfl
  rw [lastNewline?, if_pos hmem, hbehind, Text.byteLength_append, hbytes, Nat.add_sub_cancel]

/-- A piece without newlines has no last one. -/
theorem lastNewline?_of_not_mem {s : List Char} (h : '\n' ∉ s) : lastNewline? s = none :=
  if_neg h

/-- What follows the last newline of a piece is cut from it between two characters. -/
theorem slice?_lastLine {piece : List Char} {index : Nat} (h : lastNewline? piece = some index) :
    index + 1 ≤ Text.byteLength piece ∧
      slice? piece (index + 1) (Text.byteLength piece) = some (Text.lastLine piece) := by
  by_cases hmem : '\n' ∈ piece
  · obtain ⟨front, hfront⟩ := Text.exists_append_newline_lastLine hmem
    have htail := Text.newline_not_mem_lastLine piece
    generalize Text.lastLine piece = tail at hfront htail ⊢
    subst hfront
    rw [lastNewline?_append htail, Option.some.injEq] at h
    subst h
    have hbytes : Text.byteLength (front ++ ['\n']) = Text.byteLength front + 1 := by
      rw [Text.byteLength_append]
      rfl
    have hslice := slice?_append (front ++ ['\n']) tail []
    simp only [List.append_nil, List.append_assoc, List.singleton_append, hbytes] at hslice
    refine ⟨?_, hslice⟩
    rw [← hbytes]
    exact Text.byteLength_le_of_prefix ⟨tail, by simp⟩
  · rw [lastNewline?_of_not_mem hmem] at h
    cases h

/-- Line and column are moved on by a piece, if they fit a word then. -/
theorem place?_eq {first : Nat} {l : Location} {piece : List Char}
    (h : (l.advance first piece).Within Word.max) (hbytes : Text.byteLength piece ≤ Word.max) :
    place? first l.line l.column piece =
      some ((l.advance first piece).line, (l.advance first piece).column) := by
  have hline := h.line_le
  have hcolumn := h.column_le
  rw [place?]
  cases hnewline : lastNewline? piece with
  | some index =>
    obtain ⟨hindex, hslice⟩ := slice?_lastLine hnewline
    have hmem : '\n' ∈ piece := by
      by_contra hmem
      rw [lastNewline?_of_not_mem hmem] at hnewline
      cases hnewline
    simp only [Location.advance, if_pos hmem, Nat.add_comm first] at hline hcolumn ⊢
    simp [Word.add?_eq hline, Word.add?_eq (hindex.trans hbytes), hslice, Word.add?_eq hcolumn]
  | none =>
    have hmem : '\n' ∉ piece := by
      intro hmem
      simp [lastNewline?, hmem] at hnewline
    simp only [Location.advance, if_neg hmem, List.count_eq_zero.mpr hmem] at hcolumn ⊢
    simp [Word.add?_eq hcolumn]

/-! ## A reading

One lemma puts the checks together, with the result of each as a hypothesis, so that the
order in which they are made is opened here and nowhere else. `ReadsTo` then records what
has been checked on the way, besides that there is a result. -/

/-- Where a reading is asked to end: no further on than the text goes. -/
def askedEnd (c : ByteCursor) (bytes : Nat) : Nat :=
  min (Word.addCapped c.position bytes) (Text.byteLength c.text)

/-- A reading has a result where each of its checks has one. -/
theorem read?_eq {c : ByteCursor} {bytes stop : Nat} {piece : List Char} {next : Location}
    (hrounded : roundUp? c.text 3 (c.askedEnd bytes) = some stop)
    (hslice : slice? c.text c.position stop = some piece)
    (hplace : place? c.first c.location.line c.location.column piece =
      some (next.line, next.column))
    (hoffset : Word.add? c.location.offset piece.length = some next.offset)
    (hle : c.position ≤ stop) :
    c.read? bytes = some ({ c with position := stop, location := next }, piece) := by
  rw [askedEnd] at hrounded
  simp [read?, hrounded, hslice, hplace, hoffset, Word.sub?_eq hle]

/-- A reading that has passed all its checks, and what has been checked. -/
structure ReadsTo (c : ByteCursor) (bytes : Nat) (next : ByteCursor) (piece : List Char) :
    Prop where
  /-- there is a result -/
  read : c.read? bytes = some (next, piece)
  /-- the end is rounded up to where the text may be cut, in three steps at most -/
  rounded : roundUp? c.text 3 (c.askedEnd bytes) = some next.position
  /-- it is a boundary of the text -/
  boundary : Text.IsBoundary c.text next.position
  /-- and at most three bytes further on than was asked -/
  position_le : next.position ≤ c.askedEnd bytes + 3
  /-- neither is the end asked for beyond the text, nor the one that is reached -/
  inside : c.askedEnd bytes ≤ Text.byteLength c.text ∧ next.position ≤ Text.byteLength c.text
  /-- the piece is cut out of the text between two characters -/
  piece_cut : slice? c.text c.position next.position = some piece
  /-- and so is what follows the last newline in it -/
  tail_cut : ∀ index, lastNewline? piece = some index →
    slice? piece (index + 1) (Text.byteLength piece) = some (Text.lastLine piece)
  /-- the three numbers are the plain sums -/
  location : next.location = c.location.advance c.first piece
  /-- and fit a word -/
  within : next.location.Within Word.max

end ByteCursor

namespace Cursor

variable {c c' : Cursor} {piece : List Char}

/-- A cursor as a whole text with a position in bytes. -/
def inBytes (c : Cursor) : ByteCursor :=
  ⟨c.text, c.position, c.location, c.settings.numbering.first⟩

/-- A cursor stands where the text that it has read leads from the beginning. -/
def Placed (c : Cursor) : Prop :=
  c.location = .after c.settings.numbering.first c.readText

/-- At the beginning of a text a cursor is placed. -/
theorem placed_ofText (settings : CursorSettings) (text : List Char) :
    (ofText settings text).Placed := rfl

/-- A cursor that was placed stays so wherever it moves. -/
theorem Moves.placed (h : Moves c piece c') (hc : c.Placed) : c'.Placed := by
  rw [Placed, h.location, hc, h.readText, h.numbering, ← Location.advance_origin,
    ← Location.advance_append, Location.advance_origin]

/-- The numbers of a cursor are bounded by the bytes of the text, and one. -/
theorem Placed.within (h : c.Placed) :
    c.location.Within (c.settings.numbering.first + Text.byteLength c.text) := by
  have hwithin := Location.within_after c.settings.numbering.first c.readText
  have hread : Text.byteLength c.readText ≤ Text.byteLength c.text :=
    Text.byteLength_le_of_prefix ⟨c.ahead, rfl⟩
  rw [← h] at hwithin
  obtain ⟨hoffset, hline, hcolumn⟩ := hwithin
  constructor <;> omega

/-- No line and no column comes before the first one. -/
theorem Placed.first_le (h : c.Placed) :
    c.settings.numbering.first ≤ c.location.line ∧
      c.settings.numbering.first ≤ c.location.column := by
  rw [h]
  simp [Location.after]

/-- Where a text fits memory, the numbers of a cursor fit a word, and there is room for one more. -/
theorem Placed.lt_max (h : c.Placed) (hbytes : Text.byteLength c.text ≤ Text.maxBytes) :
    c.location.Within (Word.max - 1) := by
  have hfirst : c.settings.numbering.first ≤ 1 := by
    cases c.settings.numbering <;> decide
  obtain ⟨hoffset, hline, hcolumn⟩ := h.within
  -- half a word and one is far below a word
  have hroom : c.settings.numbering.first + Text.byteLength c.text ≤ Word.max - 1 := by
    rw [Text.maxBytes] at hbytes
    rw [Word.max]
    omega
  exact ⟨hoffset.trans hroom, hline.trans hroom, hcolumn.trans hroom⟩

/-! ## No check fails

From here on the text fits memory. Each check is shown to have a result by what the plain
cursor does: the end of a reading is the least boundary from the asked one on, it is at most
three bytes further, and the piece is what lies between the two positions. -/

variable (hbytes : Text.byteLength c.text ≤ Text.maxBytes) (n : Nat)

include hbytes

/-- A text that fits memory has no more bytes than a word counts. -/
theorem byteLength_le_max : Text.byteLength c.text ≤ Word.max :=
  hbytes.trans (by decide)

/-- A sum that is more than a word can count would be beyond the text as well. -/
theorem askedEnd_inBytes :
    c.inBytes.askedEnd n = min (c.position + n) (Text.byteLength c.text) :=
  Word.min_addCapped (byteLength_le_max hbytes) c.position n

/-- The end of a reading is within the text, and three steps at most behind the one asked for. -/
theorem position_read_le :
    (c.read n).value.1.position ≤ Text.byteLength c.text ∧
      (c.read n).value.1.position ≤ c.inBytes.askedEnd n + 3 := by
  have hinside := (c.isLeast_position_read n).1.1.le_byteLength
  have hcover := Text.byteLength_coverBytes_le (c.position + n) c.text
  rw [coverBytes_text, Text.byteLength_append, ← position, ← position_read] at hcover
  refine ⟨hinside, ?_⟩
  rw [askedEnd_inBytes hbytes]
  omega

/-- The end asked for is rounded up to where the plain cursor comes to stand. -/
theorem roundUp?_inBytes :
    ByteCursor.roundUp? c.text 3 (c.inBytes.askedEnd n) = some (c.read n).value.1.position := by
  obtain ⟨hinside, hnear⟩ := position_read_le hbytes n
  have hleast := c.isLeast_position_read n
  rw [← askedEnd_inBytes hbytes] at hleast
  exact ByteCursor.roundUp?_eq hleast hnear (hinside.trans (byteLength_le_max hbytes))

omit hbytes in
/-- The piece that is read lies between the place before the reading and the one behind it. -/
theorem slice?_inBytes :
    ByteCursor.slice? c.text c.position (c.read n).value.1.position = some (c.read n).value.2 := by
  have hmoves := c.read_moves n
  have hslice := ByteCursor.slice?_append c.readText (c.read n).value.2 (c.read n).value.1.ahead
  rwa [← hmoves.readText, ← text, hmoves.text_eq] at hslice

/-- **A reading with checks is the reading without them**: on a text that fits memory none of the
checks fails. -/
theorem readsTo_inBytes (hplaced : c.Placed) :
    c.inBytes.ReadsTo n (c.read n).value.1.inBytes (c.read n).value.2 := by
  have hmoves := c.read_moves n
  obtain ⟨hinside, hnear⟩ := position_read_le hbytes n
  have hposition := c.position_read n
  have hwithin : (c.read n).value.1.location.Within Word.max := by
    obtain ⟨hoffset, hline, hcolumn⟩ :=
      (hmoves.placed hplaced).lt_max (by rwa [hmoves.text_eq])
    constructor <;> omega
  have hpiece : Text.byteLength (c.read n).value.2 ≤ Word.max := by
    have hmax := byteLength_le_max hbytes
    omega
  have hplace := ByteCursor.place?_eq (hmoves.location ▸ hwithin) hpiece
  rw [← hmoves.location] at hplace
  -- all five checks, in the order in which they are made
  have hread := ByteCursor.read?_eq (c := c.inBytes) (roundUp?_inBytes hbytes n) (slice?_inBytes n)
    hplace (Word.add?_eq hwithin.offset_le) (Nat.le.intro hposition.symm)
  have hnext : (c.read n).value.1.inBytes =
      { c.inBytes with
        position := (c.read n).value.1.position
        location := (c.read n).value.1.location } := by
    rw [inBytes, hmoves.text_eq, hmoves.numbering]
    rfl
  exact {
    read := by rw [hread, hnext]
    rounded := roundUp?_inBytes hbytes n
    boundary := (c.isLeast_position_read n).1.1
    position_le := hnear
    inside := ⟨Nat.min_le_right .., hinside⟩
    piece_cut := slice?_inBytes n
    tail_cut := fun index h => (ByteCursor.slice?_lastLine h).2
    location := hmoves.location
    within := hwithin }

/-- Readings in a row do not fail either. -/
theorem readAll?_inBytes (hplaced : c.Placed) (lengths : List Nat) :
    c.inBytes.readAll? lengths = some ((c.performAll (lengths.map .read)).value.1.inBytes,
      (c.performAll (lengths.map .read)).value.2) := by
  induction lengths generalizing c with
  | nil => rfl
  | cons n rest ih =>
    have hmoves := c.read_moves n
    have hfirst := (readsTo_inBytes hbytes n hplaced).read
    have hrest := ih (by rwa [hmoves.text_eq]) (hmoves.placed hplaced)
    rw [ByteCursor.readAll?, hfirst, Option.bind_eq_bind, Option.bind_some]
    dsimp only
    rw [hrest]
    rfl

end Cursor

namespace ByteCursor

/-- A line or column that fits a word with room for one more is counted from one. -/
theorem fromOne?_eq {first n : Nat} (hle : first ≤ n) (hmax : n ≤ Word.max - 1) :
    fromOne? first n = some (n + 1 - first) ∧ 1 ≤ n + 1 - first := by
  have hnext : n + 1 ≤ Word.max := by
    rw [Word.max] at hmax ⊢
    omega
  refine ⟨?_, by omega⟩
  rw [fromOne?, Word.add?_eq hnext, Option.bind_eq_bind, Option.bind_some,
    Word.sub?_eq (hle.trans (Nat.le_succ n))]

/-- **No check fails.** On a text that fits memory, readings of whatever lengths have a result,
which is what the plain cursor comes to. On every cursor on the way any reading passes its checks,
the text may be cut where the cursor stands, and line and column may be counted from one. -/
theorem no_check_fails (settings : CursorSettings) (text : List Char)
    (hbytes : Text.byteLength text ≤ Text.maxBytes) (lengths : List Nat) :
    ∃ c, (ofText settings.numbering.first text).readAll? lengths =
        some (c, (Cursor.run settings text (lengths.map .read)).2) ∧
      c = (Cursor.run settings text (lengths.map .read)).1.inBytes ∧
      cut? c.position text = some ((Cursor.run settings text (lengths.map .read)).1.readText,
        (Cursor.run settings text (lengths.map .read)).1.ahead) ∧
      (∀ bytes, ∃ next piece, c.ReadsTo bytes next piece) ∧
      (fromOne? c.first c.location.line = some (c.location.line + 1 - c.first) ∧
        1 ≤ c.location.line + 1 - c.first) ∧
      fromOne? c.first c.location.column = some (c.location.column + 1 - c.first) ∧
        1 ≤ c.location.column + 1 - c.first := by
  have hmoves := Cursor.run_moves settings text (lengths.map .read)
  have hplaced := hmoves.placed (Cursor.placed_ofText settings text)
  have htext : (Cursor.run settings text (lengths.map .read)).1.text = text := hmoves.text_eq
  have hreached : Text.byteLength (Cursor.run settings text (lengths.map .read)).1.text ≤
      Text.maxBytes := by rwa [htext]
  obtain ⟨-, hline, hcolumn⟩ := hplaced.lt_max hreached
  obtain ⟨hfirstLine, hfirstColumn⟩ := hplaced.first_le
  refine ⟨_, ?_, rfl, ?_, ?_, fromOne?_eq hfirstLine hline, fromOne?_eq hfirstColumn hcolumn⟩
  · exact Cursor.readAll?_inBytes (c := .ofText settings text) hbytes
      (Cursor.placed_ofText settings text) lengths
  · have hcut := cut?_append (Cursor.run settings text (lengths.map .read)).1.readText
      (Cursor.run settings text (lengths.map .read)).1.ahead
    rwa [← Cursor.text, htext] at hcut
  · intro bytes
    exact ⟨_, _, Cursor.readsTo_inBytes hreached bytes hplaced⟩

/-- The first length ends inside a character, and the second one goes further than a word can count
from there. -/
theorem no_check_fails_capped :
    Text.byteLength ['é', '\n', 'b'] ≤ Text.maxBytes ∧
      ∃ c, (ofText 1 ['é', '\n', 'b']).readAll? [1, Word.max] = some (c, [['é'], ['\n', 'b']]) ∧
        c.position = 4 ∧ c.location = ⟨3, 2, 2⟩ ∧ fromOne? 1 2 = some 2 := by
  have hbytes : Text.byteLength ['é', '\n', 'b'] ≤ Text.maxBytes := by decide
  obtain ⟨c, hread, rfl, -, -, ⟨hline, -⟩, -⟩ :=
    no_check_fails .standard ['é', '\n', 'b'] hbytes [1, Word.max]
  exact ⟨hbytes, _, hread, rfl, rfl, hline⟩

end ByteCursor

end TokenSpans
