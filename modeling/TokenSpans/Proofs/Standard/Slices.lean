import Mathlib.Data.List.Chain
import TokenSpans.Proofs.Partition
import TokenSpans.Proofs.Standard.Segments

/-!
# Slices of segments

Two properties say which lists of pieces are the segments of some text. Every piece begins with a
character of its kind and goes on with characters that may follow it (`IsWhole`); and of two pieces
in a row the second does not begin with a character with which the first would have gone on
(`Apart`). Segments have both properties, and a list of pieces that has them is what its own text is
split into (`segments_texts`).

Both properties pass on to any contiguous slice of a list. So a slice of the tokens of a text, put
together and tokenised again, gives the same tokens (`tokens_eq_segments`).

That there are two such properties, one about single pieces and one about neighbours, is
what makes slices work: both are kept when pieces are taken away at either end. Were a piece
dropped in the middle, its neighbours might become one run, and the text of the rest would
be split in another way.

Which kinds may stand side by side is a weaker condition than being apart, since it does not
look at the characters. It is what can be said of tokens without knowing their text.
-/

namespace TokenSpans

namespace Standard

/-! ## Whole pieces, apart from each other

The first property holds of every segment by itself, and the second of any two in a row.
Both are read off the equation for the first segment: it begins with a character of its
kind, goes on as long as it may, and what comes next is where it could not go on. -/

/-- The piece begins with a character of its kind and goes on with characters that may follow. -/
def IsWhole (p : Piece) : Prop :=
  ∃ c run, p.2 = c :: run ∧ kindOf? c = some p.1 ∧ ∀ d ∈ run, goesOn p.1 d = true

/-- The second piece does not begin with a character with which the first would have gone on. -/
def Apart (p q : Piece) : Prop :=
  ∀ d ∈ q.2.head?, goesOn p.1 d = false

/-- Every segment is whole. -/
theorem isWhole_of_mem_segments {s : List Char} : ∀ p ∈ segments s, IsWhole p := by
  induction s using segments_induction with
  | nil =>
    intro p hp
    rw [segments_nil] at hp
    cases hp
  | none c rest hkind =>
    intro p hp
    rw [segments_of_none hkind] at hp
    cases hp
  | some c rest kind hkind ih =>
    intro p hp
    rw [segments_of_some hkind] at hp
    rcases List.mem_cons.mp hp with rfl | hp
    · exact ⟨c, _, rfl, hkind, fun d hd => List.mem_takeWhile_imp hd⟩
    · exact ih p hp

/-- The first segment begins where the text begins. -/
theorem head?_of_mem_head?_segments {s : List Char} {p : Piece} (h : p ∈ (segments s).head?) :
    p.2.head? = s.head? := by
  cases s with
  | nil =>
    rw [segments_nil] at h
    cases h
  | cons c rest =>
    cases hkind : kindOf? c with
    | none =>
      rw [segments_of_none hkind] at h
      cases h
    | some kind =>
      rw [segments_of_some hkind, List.head?_cons, Option.mem_some_iff] at h
      rw [← h]
      rfl

/-- Segments in a row are apart: a run ends only where it cannot go on. -/
theorem isChain_apart_segments (s : List Char) : (segments s).IsChain Apart := by
  induction s using segments_induction with
  | nil =>
    rw [segments_nil]
    exact .nil
  | none c rest hkind =>
    rw [segments_of_none hkind]
    exact .nil
  | some c rest kind hkind ih =>
    rw [segments_of_some hkind, List.isChain_cons]
    refine ⟨?_, ih⟩
    intro q hq d hd
    rw [head?_of_mem_head?_segments hq] at hd
    have hnot := List.head?_dropWhile_not (goesOn kind) rest
    rw [Option.mem_def.mp hd] at hnot
    exact hnot

/-! ## Splitting what was put together

The converse. Given pieces with the two properties, their text is split where they meet: the
first one is taken in full, since it is whole, and it is not taken beyond its end, since the
next one is apart from it. The induction is on the list of pieces. -/

/-- **Whole pieces that are apart are the segments of their text.** -/
theorem segments_texts {pieces : List Piece} (hwhole : ∀ p ∈ pieces, IsWhole p)
    (hapart : pieces.IsChain Apart) : segments (Piece.texts pieces) = pieces := by
  induction pieces with
  | nil => exact segments_nil
  | cons p rest ih =>
    obtain ⟨c, run, hp, hkind, hrun⟩ := hwhole p (List.mem_cons_self ..)
    have hrest : ∀ q ∈ rest, IsWhole q := fun q hq => hwhole q (List.mem_cons_of_mem _ hq)
    obtain ⟨hhead, htail⟩ := List.isChain_cons.mp hapart
    have hstop : ∀ d ∈ (Piece.texts rest).head?, goesOn p.1 d = false := by
      cases rest with
      | nil =>
        intro d hd
        cases hd
      | cons q more =>
        -- the text behind begins with the first character of the next piece
        obtain ⟨c', run', hq, -, -⟩ := hrest q (List.mem_cons_self ..)
        intro d hd
        refine hhead q rfl d ?_
        rw [Piece.texts_cons, hq, List.cons_append] at hd
        rw [hq]
        exact hd
    obtain ⟨htake, hdrop⟩ := Text.takeWhile_append_of_head? hrun hstop
    rw [Piece.texts_cons, hp, List.cons_append, segments_of_some hkind, htake, hdrop,
      ih hrest htail, ← hp]

/-- A slice of segments is what its own text is split into. -/
theorem segments_slice {s : List Char} {slice : List Piece} (h : slice <:+: segments s) :
    segments (Piece.texts slice) = slice := by
  obtain ⟨before, after, hslice⟩ := h
  have hwhole : ∀ p ∈ slice, IsWhole p := by
    intro p hp
    have hmem : p ∈ segments s := by
      rw [← hslice]
      exact List.mem_append_left _ (List.mem_append_right _ hp)
    exact isWhole_of_mem_segments p hmem
  have hchain := isChain_apart_segments s
  rw [← hslice] at hchain
  exact segments_texts hwhole hchain.left_of_append.right_of_append

/-! ## Kinds in a row

A word goes on with digits, so no number stands behind a word; but a number goes on with
digits only, so a word may stand behind a number. Newlines and punctuation may follow
anything, themselves included. -/

/-- Kinds that may stand one behind the other: no run behind a run of its own kind, and no number
behind a word, since a word would have gone on. -/
def MayFollow (kind next : String) : Prop :=
  ¬ (kind = "space" ∧ next = "space") ∧ ¬ (kind = "number" ∧ next = "number") ∧
    ¬ (kind = "text" ∧ next = "text") ∧ ¬ (kind = "text" ∧ next = "number")

/-- A run would have gone on with a character that begins a run of its kind. -/
theorem goesOn_of_kindOf? {c : Char} {kind : String} (h : kindOf? c = some kind) :
    (kind = "space" → isInlineBlank c = true) ∧ (kind = "number" → Text.isDigit c = true) ∧
      (kind = "number" ∨ kind = "text" → Text.isWordChar c = true) := by
  cases begins_of_kindOf? h with
  | newline hc => simp
  | space hnewline hc => simp [isInlineBlank_of_ne hnewline, hc]
  | number hnewline hblank hc => simp [hc, isWordChar_of_isDigit hc]
  | text hnewline hblank hdigit hc => simp [hc]
  | punct hnewline hblank hdigit hword hc => simp

/-- The kinds of whole pieces that are apart may follow each other. -/
theorem Apart.mayFollow {p q : Piece} (h : Apart p q) (hq : IsWhole q) : MayFollow p.1 q.1 := by
  obtain ⟨c, run, htext, hkind, -⟩ := hq
  have hstop : goesOn p.1 c = false := h c (by rw [htext]; rfl)
  obtain ⟨hspace, hnumber, hword⟩ := goesOn_of_kindOf? hkind
  refine ⟨?_, ?_, ?_, ?_⟩
  · rintro ⟨hp, hq⟩
    rw [hp, goesOn_space, hspace hq] at hstop
    cases hstop
  · rintro ⟨hp, hq⟩
    rw [hp, goesOn_number, hnumber hq] at hstop
    cases hstop
  · rintro ⟨hp, hq⟩
    rw [hp, goesOn_text, hword (.inr hq)] at hstop
    cases hstop
  · rintro ⟨hp, hq⟩
    rw [hp, goesOn_text, hword (.inl hq)] at hstop
    cases hstop

/-- The kinds of segments in a row may follow each other. -/
theorem isChain_mayFollow_segments (s : List Char) :
    (segments s).IsChain fun p q => MayFollow p.1 q.1 :=
  (isChain_apart_segments s).imp_of_mem_imp fun _ q _ hq hapart =>
    hapart.mayFollow (isWhole_of_mem_segments q hq)

/-! ## Tokens of the standard lexer

Here segments become tokens. A bare run yields them without spans, a tracked run with spans,
and either way what is left without spans is the same list. Settings do not come into it at
all. -/

/-- The tokens that the standard lexer yields of a source: all of them up to the end, or up to the
first character that no rule takes. -/
def tokens (settings : CursorSettings) (source : List Char) : List Token :=
  (lexer settings source).value.tokenise.value.2

/-- The standard lexer is a lexer over the text with the standard rules. -/
theorem lexer_value (settings : CursorSettings) (source : List Char) :
    (lexer settings source).value = (Cursor.ofText settings source).lexer rules :=
  Lexer.addRules_value ..

/-- The tokens of a source are its segments without spans. -/
theorem tokens_eq (settings : CursorSettings) (source : List Char) :
    tokens settings source = (segments source).map Piece.token := by
  rw [tokens, lexer_value, Lexer.tokenise_value, Cursor.ahead_lexer, Cursor.rules_lexer,
    Cursor.ahead_ofText, scan_rules]

/-- Without their spans the tokens of a source are its segments. -/
theorem map_piece_tokens (settings : CursorSettings) (source : List Char) :
    (tokens settings source).map Token.piece = segments source := by
  rw [tokens_eq, Piece.map_piece_token]

/-- **The standard lexer yields the segments of a source**, bare or tracked, under all settings: the
tokens cover the source up to the first character that is not accepted, kinds that would have been
one run never stand side by side, and any slice of the tokens is found again in its own text. -/
theorem tokens_eq_segments (settings : Settings) (source : List Char) :
    (tokens settings.cursor source).map Token.piece = segments source ∧
      (∃ host marked,
        ((Cursor.ofText settings.cursor source).tokenise rules settings.span.property).value =
          .ok (host, marked) ∧ marked.map Token.piece = segments source) ∧
      (tokens settings.cursor source).flatMap (fun t => t.value.toList) =
        source.takeWhile isAccepted ∧
      (tokens settings.cursor source).IsChain (fun t u => MayFollow t.kind u.kind) ∧
      ∀ (slice : List Token), slice <:+: tokens settings.cursor source →
        ∀ settings' : CursorSettings,
          (tokens settings' (slice.flatMap fun t => t.value.toList)).map Token.piece =
            slice.map Token.piece := by
  have htokens := map_piece_tokens settings.cursor source
  refine ⟨htokens, ?_, ?_, ?_, ?_⟩
  · refine ⟨_, _, (Cursor.tokenise_value ..).trans (Cursor.tracked_lexer_tokenise ..), ?_⟩
    rw [Token.map_piece_layOut_token, Cursor.ahead_ofText, scan_rules]
  · rw [Token.flatMap_value, htokens, texts_segments]
  · have hchain := isChain_mayFollow_segments source
    rw [← htokens, List.isChain_map] at hchain
    exact hchain
  · intro slice hslice settings'
    have hpieces := hslice.map Token.piece
    rw [htokens] at hpieces
    rw [map_piece_tokens, Token.flatMap_value, segments_slice hpieces]

end Standard

end TokenSpans
