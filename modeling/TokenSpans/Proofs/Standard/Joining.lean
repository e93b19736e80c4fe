import TokenSpans.Proofs.Shifting
import TokenSpans.Proofs.Standard.Acceptance

/-!
# Texts joined by a newline

No piece reaches across a newline, since no class of characters with which a piece goes on has it.
So a text of several lines is cut into the pieces of its lines with a newline between them
(`segments_append_newline`), and what a run comes to on two texts joined by a newline is put
together from what it comes to on either (`tokenise_append_newline`).

The newline matters twice. It ends every piece, so the first text is split as it would be by
itself; and it ends the line, so the columns of the second text are what they would be by
themselves. Another character could do the first but not the second: behind a comma the
second text would not begin in the first column. That is why spans can be shifted, by the
characters and lines of the first text and one each for the newline, with columns as they
were.
-/

namespace TokenSpans

namespace Text

/-- A run over a text is not changed by what stands behind a character that ends it. -/
theorem takeWhile_append_cons {p : Char → Bool} {stop : Char} (h : p stop = false)
    (s t : List Char) :
    (s ++ stop :: t).takeWhile p = s.takeWhile p ∧
      (s ++ stop :: t).dropWhile p = s.dropWhile p ++ stop :: t := by
  have hstop : ¬ p stop = true := Bool.eq_false_iff.mp h
  induction s with
  | nil =>
    exact ⟨List.takeWhile_cons_of_neg hstop, List.dropWhile_cons_of_neg hstop⟩
  | cons c rest ih =>
    obtain ⟨htake, hdrop⟩ := ih
    by_cases hc : p c = true
    · rw [List.cons_append, List.takeWhile_cons_of_pos hc, List.takeWhile_cons_of_pos hc,
        List.dropWhile_cons_of_pos hc, List.dropWhile_cons_of_pos hc, htake, hdrop]
      exact ⟨rfl, rfl⟩
    · rw [List.cons_append, List.takeWhile_cons_of_neg hc, List.takeWhile_cons_of_neg hc,
        List.dropWhile_cons_of_neg hc, List.dropWhile_cons_of_neg hc]
      exact ⟨rfl, rfl⟩

end Text

namespace Standard

/-! ## Pieces

The induction is along the segments of the first text. In each step the first piece ends
inside that text or with it, because the newline behind it is not a character with which it
goes on. -/

/-- No piece goes on with a newline. -/
theorem goesOn_eq_false_of_newline (kind : String) : goesOn kind '\n' = false := by
  rw [goesOn]
  split_ifs
  · decide
  · decide
  · decide
  · rfl

/-- A newline is of a kind of its own. -/
theorem kindOf?_newline : kindOf? '\n' = some "newline" := rfl

/-- Texts that are accepted may be joined. -/
theorem accepted_append_newline {s t : List Char} (hs : ∀ c ∈ s, isAccepted c = true)
    (ht : ∀ c ∈ t, isAccepted c = true) : ∀ c ∈ s ++ '\n' :: t, isAccepted c = true := by
  have hnewline : isAccepted '\n' = true := rfl
  intro c hc
  rcases List.mem_append.mp hc with hc | hc
  · exact hs c hc
  · rcases List.mem_cons.mp hc with rfl | hc
    · exact hnewline
    · exact ht c hc

/-- A newline is a piece by itself. -/
theorem segments_newline_cons (t : List Char) :
    segments ('\n' :: t) = ("newline", ['\n']) :: segments t := by
  rw [segments_of_some kindOf?_newline, goesOn_newline, Text.takeWhile_false,
    Text.dropWhile_false]

/-- **The pieces of two texts joined by a newline**: those of the first, the newline, and those of
the second. -/
theorem segments_append_newline {s : List Char} (h : ∀ c ∈ s, isAccepted c = true)
    (t : List Char) :
    segments (s ++ '\n' :: t) = segments s ++ ("newline", ['\n']) :: segments t := by
  induction s using segments_induction with
  | nil => rw [List.nil_append, segments_newline_cons, segments_nil, List.nil_append]
  | none c rest hkind =>
    obtain ⟨kind, hkind'⟩ := (isAccepted_iff c).mp (h c (List.mem_cons_self ..))
    rw [hkind] at hkind'
    cases hkind'
  | some c rest kind hkind ih =>
    -- the first piece ends inside the first text, or with it
    obtain ⟨htake, hdrop⟩ :=
      Text.takeWhile_append_cons (goesOn_eq_false_of_newline kind) rest t
    have hrest : ∀ d ∈ rest.dropWhile (goesOn kind), isAccepted d = true :=
      fun d hd => h d (List.mem_cons_of_mem c ((List.dropWhile_sublist _).subset hd))
    rw [List.cons_append, segments_of_some hkind, segments_of_some hkind, htake, hdrop, ih hrest,
      List.cons_append]

/-! ## Tokens

Laying out goes through the three parts one after the other, each from where the one before
has ended. The place where the second text begins is the origin shifted, and laying out
commutes with shifting. -/

/-- The newline behind a text, as a token with its span. -/
def lineBreak (settings : Settings) (s : List Char) : Token where
  kind := "newline"
  value := "\n"
  spans := .ofList [(settings.span.property,
    ⟨.after settings.cursor.numbering.first s,
      .after settings.cursor.numbering.first (s ++ ['\n']), settings.cursor.source⟩)]

/-- The tokens of two texts joined by a newline: those of the second are shifted. -/
theorem marked_append_newline (settings : Settings) {s : List Char}
    (h : ∀ c ∈ s, isAccepted c = true) (t : List Char) :
    marked settings (s ++ '\n' :: t) = marked settings s ++ lineBreak settings s ::
      (marked settings t).map (Token.shift (s.length + 1) (s.count '\n' + 1)) := by
  have hvalues : ((segments s).map Piece.token).flatMap (fun token => token.value.toList) = s := by
    rw [Token.flatMap_value, Piece.map_piece_token, texts_segments,
      List.takeWhile_eq_self_iff.mpr h]
  -- the second text begins in the first column, as a text by itself does
  have hbegin : Location.after settings.cursor.numbering.first (s ++ ['\n']) =
      (Location.origin settings.cursor.numbering.first).shift (s.length + 1) (s.count '\n' + 1) :=
    Location.after_append_newline s []
  have hbreak : (Location.after settings.cursor.numbering.first s).advance
      settings.cursor.numbering.first ['\n'] =
        .after settings.cursor.numbering.first (s ++ ['\n']) := by
    rw [← Location.advance_origin, ← Location.advance_append, Location.advance_origin]
  simp only [marked]
  rw [segments_append_newline h, List.map_append, Token.layOut_append, hvalues,
    Location.advance_origin, List.map_cons, Token.layOut, Piece.value_token, hbreak, hbegin,
    Token.layOut_shift, ← hbegin]
  rfl

/-! ## Outcomes

A fault in the first text is met before the newline, so its place stays, but what is shown
of the text ahead may now go beyond the newline. A fault in the second text is in another
place and shows the same, since nothing was put behind it. -/

/-- A fault shows as much of the source as the offset of its place leaves, up to sixteen
characters. -/
theorem snippet_eq_drop (first : Nat) (before rest : List Char) :
    snippet rest = ((before ++ rest).drop (Location.after first before).offset).take 16 := by
  have hoffset : (Location.after first before).offset = before.length := rfl
  rw [hoffset, List.drop_left, snippet, snippetLength]

/-- **Tokenising goes line by line**: on two texts joined by a newline it comes to the tokens of the
first, the newline, and those of the second with their spans shifted. Where the first text is not
accepted the fault is in the same place and shows what is ahead there by now; where only the second
is not, the fault is that of the second, shifted. -/
theorem tokenise_append_newline (settings : Settings) (s t : List Char) :
    (∀ found found', (tokenise settings s).value = .ok found →
        (tokenise settings t).value = .ok found' →
        (tokenise settings (s ++ '\n' :: t)).value = .ok ⟨settings.span.property,
          found.tokens ++ lineBreak settings s ::
            found'.tokens.map (Token.shift (s.length + 1) (s.count '\n' + 1))⟩) ∧
      (∀ fault, (tokenise settings s).value = .error fault → ∃ place shown,
        fault = .unexpected place shown ∧
          (tokenise settings (s ++ '\n' :: t)).value =
            .error (.unexpected place (((s ++ '\n' :: t).drop place.offset).take 16))) ∧
      ∀ found fault, (tokenise settings s).value = .ok found →
        (tokenise settings t).value = .error fault → ∃ place shown,
        fault = .unexpected place shown ∧
          (tokenise settings (s ++ '\n' :: t)).value =
            .error (.unexpected (place.shift (s.length + 1) (s.count '\n' + 1)) shown) := by
  refine ⟨?_, ?_, ?_⟩
  · intro found found' hfound hfound'
    obtain ⟨hs, rfl⟩ := of_tokenise_eq_ok hfound
    obtain ⟨ht, rfl⟩ := of_tokenise_eq_ok hfound'
    rw [tokenise_of_accepted (accepted_append_newline hs ht), marked_append_newline settings hs]
  · intro fault hfault
    obtain ⟨before, c, rest, rfl, hbefore, hc, rfl⟩ := of_tokenise_eq_error hfault
    -- the fault is met before the newline
    have hsplit : before ++ c :: rest ++ '\n' :: t = before ++ c :: (rest ++ '\n' :: t) := by
      rw [List.append_assoc, List.cons_append]
    refine ⟨_, _, rfl, ?_⟩
    rw [tokenise_of_not_accepted hsplit hbefore hc, hsplit, ← snippet_eq_drop]
  · intro found fault hfound hfault
    obtain ⟨hs, -⟩ := of_tokenise_eq_ok hfound
    obtain ⟨before, c, rest, rfl, hbefore, hc, rfl⟩ := of_tokenise_eq_error hfault
    have hsplit : s ++ '\n' :: (before ++ c :: rest) = (s ++ '\n' :: before) ++ c :: rest := by
      rw [List.append_assoc, List.cons_append]
    refine ⟨_, _, rfl, ?_⟩
    rw [tokenise_of_not_accepted hsplit (accepted_append_newline hs hbefore) hc,
      Location.after_append_newline]

end Standard

end TokenSpans
