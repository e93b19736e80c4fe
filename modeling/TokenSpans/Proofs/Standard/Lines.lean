import TokenSpans.Proofs.Lines
import TokenSpans.Proofs.Standard.Joining

/-!
# Tokens and lines

Three things know what a line is: the rules, which never take a newline together with anything else,
the cursor, which counts the newlines it has read, and the splitting of a source into its lines.
They agree. A piece is a newline or stays inside a line (`StaysInLine`), so pieces that are laid out
along a text begin on the line that their text is part of (`Token.lineText_layOut`), and the tokens
of a source, taken line by line, are its lines (`tokens_keep_lines`).

Two of the three are related already: the line of a place is the number of newlines before
it, and a source has one line more than newlines. What is new here is that no token reaches
over the end of a line except the newline that is that end. Then the tokens can be sorted by
the line on which they begin, and no part of any of them is on another line.
-/

namespace TokenSpans

namespace Text

/-- What has no newline goes before the first line of what follows. -/
theorem splitLines_append_of_not_mem {s : List Char} (h : '\n' ∉ s) (t : List Char) :
    splitLines (s ++ t) = (s ++ (splitLines t).headD []) :: (splitLines t).tail := by
  induction s with
  | nil =>
    cases ht : splitLines t with
    | nil => exact absurd ht (splitLines_ne_nil t)
    | cons line more => simp [ht]
  | cons c rest ih =>
    have hc : c ≠ '\n' := (List.ne_of_not_mem_cons h).symm
    rw [List.cons_append, splitLines, if_neg hc, ih (List.not_mem_of_not_mem_cons h)]
    rfl

end Text

namespace Standard

/-! ## Pieces inside a line

A newline inside a piece could be its first character or one with which it goes on. The
first makes it the newline itself; the second is excluded for every kind. So the newlines of
a text are counted by counting the pieces of that kind. -/

/-- The piece is a newline by itself, or has no newline and is not called one. -/
def StaysInLine (p : Piece) : Prop :=
  p = ("newline", ['\n']) ∨ p.1 ≠ "newline" ∧ '\n' ∉ p.2

/-- Every segment is a newline or stays inside a line. -/
theorem staysInLine_of_mem_segments {s : List Char} {p : Piece} (h : p ∈ segments s) :
    StaysInLine p := by
  obtain ⟨c, run, htext, hkind, hrun⟩ := isWhole_of_mem_segments p h
  obtain ⟨kind, text⟩ := p
  simp only at htext hkind hrun
  subst htext
  -- no piece goes on with a newline
  have hgoes : '\n' ∉ run := by
    intro hmem
    have hnewline := hrun '\n' hmem
    rw [goesOn_eq_false_of_newline] at hnewline
    cases hnewline
  -- the first character is a newline, or it begins a piece of another kind
  cases begins_of_kindOf? hkind with
  | newline hc =>
    subst hc
    cases run with
    | nil => exact Or.inl rfl
    | cons d more =>
      have hd := hrun d (List.mem_cons_self ..)
      simp at hd
  | space hnewline => exact Or.inr ⟨by simp, by simp [hnewline.symm, hgoes]⟩
  | number hnewline => exact Or.inr ⟨by simp, by simp [hnewline.symm, hgoes]⟩
  | text hnewline => exact Or.inr ⟨by simp, by simp [hnewline.symm, hgoes]⟩
  | punct hnewline => exact Or.inr ⟨by simp, by simp [hnewline.symm, hgoes]⟩

/-- The newlines among such pieces are the newlines of their text. -/
theorem countP_newline {pieces : List Piece} (h : ∀ p ∈ pieces, StaysInLine p) :
    pieces.countP (fun p => p.1 == "newline") = (Piece.texts pieces).count '\n' := by
  induction pieces with
  | nil => rfl
  | cons p rest ih =>
    obtain ⟨hp, hrest⟩ := List.forall_mem_cons.mp h
    rw [List.countP_cons, ih hrest, Piece.texts_cons, List.count_append]
    rcases hp with rfl | ⟨hkind, hnewline⟩
    · simp [Nat.add_comm]
    · simp [hkind, List.count_eq_zero.mpr hnewline]

end Standard

/-! ## Tokens on a line

The lines are taken from the front: a piece inside a line goes before the rest of that line,
and a newline begins the next one. The induction is on the pieces, for a place from which
they are laid out, and the number of the line is fixed. So there are three cases in each
step, for a line before, at or behind the place. -/

namespace Token

variable {property : String} {first : Nat} {source : Option String}

/-- Whether the span under a name begins on a line. -/
def beginsOn (property : String) (line : Nat) (t : Token) : Bool :=
  (t.spans.get? property).any fun span => span.start.line == line

/-- The values in a row of the tokens that begin on a line, without the newlines. -/
def lineText (property : String) (line : Nat) (tokens : List Token) : List Char :=
  (tokens.filter fun t => t.kind != "newline" && t.beginsOn property line).flatMap
    fun t => t.value.toList

/-- A marked piece begins on the line of its place. -/
theorem beginsOn_mark (line : Nat) (p : Piece) (span : Span) :
    (p.token.mark [property] span).beginsOn property line = (span.start.line == line) := by
  have hspan : (p.token.mark [property] span).spans.get? property = some span :=
    HoldsSpans.get?_attach p.token property span
  rw [beginsOn, hspan]
  rfl

/-- A token adds its value to its own line, unless it is a newline, and nothing to any
other. -/
theorem lineText_cons (line : Nat) (t : Token) (rest : List Token) :
    lineText property line (t :: rest) =
      (if t.kind ≠ "newline" ∧ t.beginsOn property line = true then t.value.toList else []) ++
        lineText property line rest := by
  rw [lineText, List.filter_cons]
  by_cases h : t.kind ≠ "newline" ∧ t.beginsOn property line = true
  · simp [h, lineText]
  · rw [if_neg h, if_neg (by simpa using h)]
    rfl

/-- **Pieces laid out along a text, taken line by line, are the lines of the text.** The first line
is the one on which the first piece begins. -/
theorem lineText_layOut {pieces : List Piece} (h : ∀ p ∈ pieces, Standard.StaysInLine p)
    (here : Location) (line : Nat) :
    lineText property line (layOut [property] first source here (pieces.map Piece.token)) =
      if line < here.line then []
      else (Text.splitLines (Piece.texts pieces)).getD (line - here.line) [] := by
  induction pieces generalizing here with
  | nil =>
    rw [Piece.texts_nil, Text.splitLines]
    cases line - here.line <;> simp [layOut, lineText]
  | cons p rest ih =>
    obtain ⟨hp, hrest⟩ := List.forall_mem_cons.mp h
    have hkind : ∀ span, (p.token.mark [property] span).kind = p.1 := fun _ => rfl
    have hvalue : ∀ span, (p.token.mark [property] span).value.toList = p.2 :=
      fun _ => Piece.value_token p
    rw [List.map_cons, layOut, Piece.value_token, lineText_cons, ih hrest, beginsOn_mark, hkind,
      hvalue, Piece.texts_cons]
    rcases hp with rfl | ⟨hname, hnewline⟩
    · -- a newline is part of no line, and behind it the next one begins
      have hplace : (here.advance first ['\n']).line = here.line + 1 := rfl
      rw [hplace, if_neg (fun hnot => hnot.1 rfl), List.nil_append, List.singleton_append,
        Text.splitLines, if_pos rfl]
      rcases Nat.lt_trichotomy line here.line with hless | rfl | hless
      · rw [if_pos hless, if_pos (Nat.lt_succ_of_lt hless)]
      · simp
      · obtain ⟨k, rfl⟩ := Nat.exists_eq_add_of_lt hless
        have hbehind : here.line + k + 1 - here.line = k + 1 := by omega
        have hbehind' : here.line + k + 1 - (here.line + 1) = k := by omega
        rw [if_neg (by omega), if_neg (by omega), hbehind, hbehind', List.getD_cons_succ]
    · -- the line goes on behind the piece
      have hplace : (here.advance first p.2).line = here.line := by
        simp [Location.advance, List.count_eq_zero.mpr hnewline]
      rw [hplace, Text.splitLines_append_of_not_mem hnewline]
      cases hlines : Text.splitLines (Piece.texts rest) with
      | nil => exact absurd hlines (Text.splitLines_ne_nil _)
      | cons head more =>
        rcases Nat.lt_trichotomy line here.line with hless | rfl | hless
        · simp [hless, Nat.ne_of_gt hless]
        · simp [hname]
        · obtain ⟨k, rfl⟩ := Nat.exists_eq_add_of_lt hless
          have hbehind : here.line + k + 1 - here.line = k + 1 := by omega
          have hother : ¬ (here.line == here.line + k + 1) = true := by
            rw [beq_iff_eq]
            omega
          have hbefore : ¬ here.line + k + 1 < here.line := by omega
          rw [if_neg hbefore, if_neg hbefore, if_neg (fun hboth => hother hboth.2), hbehind]
          rfl

/-- Where the span of a token lies with respect to the lines of its text: a newline ends its line,
and any other token stays inside one. -/
structure KeepsLine (first : Nat) (t : Token) (span : Span) : Prop where
  /-- behind a newline is the beginning of the next line -/
  newline : t.kind = "newline" →
    t.value = "\n" ∧ span.stop.line = span.start.line + 1 ∧ span.stop.column = first
  /-- behind anything else the line is the same, further to the right by the length of the value -/
  other : t.kind ≠ "newline" →
    span.stop.line = span.start.line ∧ span.start.column ≤ span.stop.column ∧
      span.stop.column - span.start.column = span.length ∧ span.length = t.value.length

/-- A span that fits its token keeps to the lines as the piece does. -/
theorem Fits.keepsLine {t : Token} {span : Span} (hfits : Fits property first source t span)
    (hpiece : Standard.StaysInLine t.piece) : KeepsLine first t span where
  newline hkind := by
    rcases hpiece with hpiece | ⟨hname, -⟩
    · have hvalue : t.value.toList = ['\n'] := congrArg Prod.snd hpiece
      have hline := hfits.movedBy.line
      have hcolumn := hfits.movedBy.newLine [] [] hvalue List.not_mem_nil
      rw [hvalue] at hline
      exact ⟨String.toList_inj.mp hvalue, hline, hcolumn⟩
    · exact absurd hkind hname
  other hkind := by
    rcases hpiece with hpiece | ⟨-, hnewline⟩
    · exact absurd (congrArg Prod.fst hpiece) hkind
    · have hlines : t.value.toList.count '\n' = 0 := List.count_eq_zero.mpr hnewline
      have hline := hfits.movedBy.line
      have hcolumn := hfits.movedBy.sameLine hnewline
      have hlength := hfits.length_eq
      have hchars : t.value.toList.length = t.value.length := String.length_toList
      rw [hlines] at hline
      refine ⟨hline, ?_, ?_, hlength⟩
      · omega
      · omega

end Token

namespace Standard

/-- **Tokens keep to the lines of their source.** Where a source is accepted, a newline token ends a
line, every other token stays inside one, the tokens that begin on a line are that line of the
source, and there is one line more than there are newline tokens. -/
theorem tokens_keep_lines (settings : Settings) (source : List Char) (found : TokenList)
    (h : (tokenise settings source).value = .ok found) :
    (∀ t ∈ found.tokens, ∃ span, t.spans.get? settings.span.property = some span ∧
        t.KeepsLine settings.cursor.numbering.first span) ∧
      (∀ k, Token.lineText settings.span.property (settings.cursor.numbering.first + k)
          found.tokens = (Text.splitLines source).getD k []) ∧
      (found.tokens.filter fun t => t.kind == "newline").length + 1 =
        (Text.splitLines source).length := by
  obtain ⟨haccepted, rfl⟩ := of_tokenise_eq_ok h
  have htexts : Piece.texts (segments source) = source := by
    rw [texts_segments, List.takeWhile_eq_self_iff.mpr haccepted]
  have hpieces : (marked settings source).map Token.piece = segments source :=
    Token.map_piece_layOut_token ..
  refine ⟨?_, ?_, ?_⟩
  · intro t ht
    obtain ⟨span, hfits⟩ := Token.exists_fits_of_mem_layOut ht
    have hpiece : t.piece ∈ segments source := by
      rw [← hpieces]
      exact List.mem_map_of_mem ht
    exact ⟨span, hfits.get?, hfits.keepsLine (staysInLine_of_mem_segments hpiece)⟩
  · intro k
    have horigin : (Location.origin settings.cursor.numbering.first).line =
        settings.cursor.numbering.first := rfl
    rw [marked, Token.lineText_layOut fun p hp => staysInLine_of_mem_segments hp, horigin, htexts,
      if_neg (by omega), Nat.add_sub_cancel_left]
  · have hcount : (marked settings source).countP (fun t => t.kind == "newline") =
        ((marked settings source).map Token.piece).countP (fun p => p.1 == "newline") := by
      rw [List.countP_map]
      rfl
    rw [← List.countP_eq_length_filter, hcount, hpieces,
      countP_newline fun p hp => staysInLine_of_mem_segments hp, htexts, Text.length_splitLines]

/-- A carriage return is white space inside the second line of this source, and the third is
empty. -/
theorem tokens_keep_lines_three :
    ∃ found,
      (tokenise ⟨Limits.uniform .info, ⟨.zero, none, true⟩, .standard⟩
        ['a', '\n', '\r', '7', '\n']).value = .ok found ∧
      Token.lineText "position" 0 found.tokens = ['a'] ∧
      Token.lineText "position" 1 found.tokens = ['\r', '7'] ∧
      Token.lineText "position" 2 found.tokens = [] ∧
      (found.tokens.filter fun t => t.kind == "newline").length = 2 := by
  have hfound : (tokenise ⟨Limits.uniform .info, ⟨.zero, none, true⟩, .standard⟩
      ['a', '\n', '\r', '7', '\n']).value = .ok _ :=
    tokenise_of_accepted (List.all_eq_true.mp (by decide))
  obtain ⟨-, hlines, hcount⟩ := tokens_keep_lines _ _ _ hfound
  exact ⟨_, hfound, hlines 0, hlines 1, hlines 2, Nat.succ.inj hcount⟩

end Standard

end TokenSpans
