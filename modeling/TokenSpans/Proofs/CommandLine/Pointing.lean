import TokenSpans.CommandLine.Listing
import TokenSpans.Proofs.Rows
import TokenSpans.Proofs.Standard.Acceptance

/-!
# Excerpts that point at faults

A fault tells its place as a cursor has counted it, and an excerpt finds the place again in the
lines of the source. The two meet in the line around the place: the newlines read so far are the
lines above it, and the characters read behind the last newline are those to the left of the caret.
So the caret stands below the character that was not accepted (`explain_points_at_fault`), whether
lines and columns are counted from zero or from one.

The excerpt is computed from the source and two numbers, and knows nothing of the run. So
that it is the right line is shown from the text before the character alone
(`Excerpt.exists_pointsAt`), and the run comes in only to say what that text is.

The character at fault is never a newline, since newlines are accepted. Otherwise the caret
would stand behind the end of its line, and there would be nothing above it.
-/

namespace TokenSpans

namespace Excerpt

/-- An excerpt points at a character of the source: one of its rows is the line of that character
behind its number, and in the row below there is a caret behind some margin. -/
structure PointsAt (source : List Char) (offset number : Nat)
    (excerpt label line margin : List Char) : Prop where
  /-- the two rows stand one below the other -/
  rows : ∃ above below, Text.splitLines excerpt =
    above ++ (label ++ line) :: (margin ++ ['^']) :: below
  /-- the line has its number before it -/
  label_eq : ∃ width, label = Excerpt.label width number
  /-- the line is whole, it holds the character, and the margin ends before the character -/
  line_at : ∃ start, Text.IsLine source number start line ∧ start ≤ offset ∧
    offset < start + line.length ∧ margin.length = label.length + (offset - start)
  /-- the row has no other caret -/
  caret : '^' ∉ margin
  /-- above the caret stands the character -/
  above_caret : (label ++ line)[margin.length]? = source[offset]?

/-- There is an excerpt for every place before a character that is no newline, and it points at that
character. -/
theorem exists_pointsAt (before rest : List Char) {c : Char} (hc : c ≠ '\n') :
    ∃ excerpt label line margin,
      render? (before ++ c :: rest) (before.count '\n' + 1) ((Text.lastLine before).length + 1) =
          some excerpt ∧
        PointsAt (before ++ c :: rest) before.length (before.count '\n' + 1)
          excerpt label line margin := by
  have hline := Text.splitLines_around before (c :: rest)
  -- the character is in the line, since the line goes on to the next newline
  have hgoes : (c :: rest).takeWhile (· != '\n') = c :: rest.takeWhile (· != '\n') :=
    List.takeWhile_cons_of_pos (bne_iff_ne.mpr hc)
  rw [hgoes] at hline
  have hlast := Text.length_lastLine_le before
  obtain ⟨excerpt, width, above, below, hexcerpt, hrows, hlabel⟩ :=
    exists_excerpt hline ((Text.lastLine before).length + 1)
  have hmargin : (caretMargin width ((Text.lastLine before).length + 1)).length =
      (label width (before.count '\n' + 1)).length + (Text.lastLine before).length := by
    rw [length_caretMargin, hlabel, Nat.add_sub_cancel]
  refine ⟨excerpt, label width (before.count '\n' + 1),
    Text.lastLine before ++ c :: rest.takeWhile (· != '\n'),
    caretMargin width ((Text.lastLine before).length + 1), hexcerpt, ?_⟩
  exact {
    rows := ⟨above, below, hrows⟩
    label_eq := ⟨width, rfl⟩
    line_at := by
      refine ⟨_, hline, Nat.sub_le .., ?_, ?_⟩
      · rw [List.length_append, List.length_cons]
        omega
      · omega
    caret := by
      intro hmem
      rcases mem_caretMargin hmem with h | h <;> cases h
    above_caret := by
      rw [hmargin, List.getElem?_append_right (Nat.le_add_right ..), Nat.add_sub_cancel_left,
        Text.getElem?_length_append, Text.getElem?_length_append] }

end Excerpt

namespace CommandLine

/-- **The excerpt of a fault points at the character that was not accepted**: where a source is
refused, its place counted from one is one that has an excerpt, this excerpt is printed behind the
message, and the caret in it stands below the first character that the fault shows. -/
theorem explain_points_at_fault (settings : Settings) (source : List Char) (fault : Fault)
    (h : (Standard.tokenise settings source).value = .error fault) :
    ∃ place shown excerpt label line margin,
      fault = .unexpected place shown ∧
        Excerpt.render? source (place.line + 1 - settings.cursor.numbering.first)
          (place.column + 1 - settings.cursor.numbering.first) = some excerpt ∧
        explain settings.cursor.numbering source fault =
          "error: " ++ fault.message ++ "\n" ++ String.ofList excerpt ∧
        Excerpt.PointsAt source place.offset (place.line + 1 - settings.cursor.numbering.first)
          excerpt label line margin ∧
        ∃ c, source[place.offset]? = some c ∧ shown.head? = some c := by
  obtain ⟨before, c, rest, rfl, -, hc, rfl⟩ := Standard.of_tokenise_eq_error h
  have hnewline : c ≠ '\n' := by
    rintro rfl
    cases hc
  obtain ⟨excerpt, label, line, margin, hexcerpt, hpoints⟩ :=
    Excerpt.exists_pointsAt before rest hnewline
  -- counted from one, the place is the same whatever the first line and column are called
  have hline : (Location.after settings.cursor.numbering.first before).line + 1 -
      settings.cursor.numbering.first = before.count '\n' + 1 := by
    simp only [Location.after]
    omega
  have hcolumn : (Location.after settings.cursor.numbering.first before).column + 1 -
      settings.cursor.numbering.first = (Text.lastLine before).length + 1 := by
    simp only [Location.after]
    omega
  refine ⟨_, _, excerpt, label, line, margin, rfl, ?_, ?_, ?_, c, ?_, rfl⟩
  · rw [hline, hcolumn, hexcerpt]
  · have hprinted : faultExcerpt? settings.cursor.numbering (before ++ c :: rest)
        (.unexpected (.after settings.cursor.numbering.first before)
          (Standard.snippet (c :: rest))) = some excerpt := by
      rw [← hexcerpt, ← hline, ← hcolumn]
      rfl
    rw [explain, hprinted, Option.getD_some]
  · rw [hline]
    exact hpoints
  · exact Text.getElem?_length_append before c rest

/-- The second line of a text has a sign in its second column that no rule takes. -/
theorem explain_points_at_fault_second_line :
    ∃ excerpt label line margin,
      Excerpt.render? ['a', '\n', ' ', '§', 'b'] 2 2 = some excerpt ∧
        Excerpt.PointsAt ['a', '\n', ' ', '§', 'b'] 3 2 excerpt label line margin := by
  have hsource : ['a', '\n', ' ', '§', 'b'] = ['a', '\n', ' '] ++ '§' :: ['b'] := rfl
  have hfault : (Standard.tokenise ⟨Limits.uniform .info, ⟨.zero, none, true⟩, .standard⟩
      ['a', '\n', ' ', '§', 'b']).value = .error (.unexpected ⟨3, 1, 1⟩ ['§', 'b']) :=
    Standard.tokenise_of_not_accepted hsource (List.all_eq_true.mp (by decide)) (by decide)
  obtain ⟨place, shown, excerpt, label, line, margin, hplace, hrender, -, hpoints, -⟩ :=
    explain_points_at_fault _ _ _ hfault
  cases hplace
  exact ⟨excerpt, label, line, margin, hrender, hpoints⟩

end CommandLine

end TokenSpans
