import TokenSpans.Lexer
import TokenSpans.Proofs.Reading

/-!
# The pieces that rules cut from a text

A lexer is a cursor with rules, but what it takes depends on the text ahead and on the rules alone.
`Rule.cut?` is one production as a function of the text and `Rule.scan` is a whole run; a lexer does
what they say and its cursor moves along (`Lexer.next_of_some`, `Lexer.tokenise_value`).

Matchers are arbitrary here. Whatever number of bytes one of them asks for, the piece that is cut
off is not empty, and nothing of the text is lost.

The gain is that a run no longer carries a lexer along. `scan` is a recursion on the text
with the rules fixed, so its induction principle (`Rule.scan.induct`) has two cases, the
text where nothing can be cut and the text with a piece at its front, and every later
induction over a run follows it: the tracked runs of `Proofs/Marking.lean`, the partition of
a text and the comparison with segments.
-/

namespace TokenSpans

/-- A kind and the text taken under it. -/
abbrev Piece : Type :=
  String × List Char

namespace Piece

/-- The piece as a token without spans. -/
def token (p : Piece) : Token :=
  .bare p.1 (String.ofList p.2)

@[simp] theorem value_token (p : Piece) : p.token.value.toList = p.2 := String.toList_ofList

/-- The texts of several pieces in a row. -/
def texts (pieces : List Piece) : List Char :=
  pieces.flatMap Prod.snd

@[simp] theorem texts_nil : texts [] = [] := rfl

@[simp] theorem texts_cons (p : Piece) (rest : List Piece) :
    texts (p :: rest) = p.2 ++ texts rest := List.flatMap_cons

end Piece

/-- The kind and the value of a token. -/
def Token.piece (t : Token) : Piece :=
  (t.kind, t.value.toList)

@[simp] theorem Piece.piece_token (p : Piece) : p.token.piece = p := by
  simp [Piece.token, Token.piece, Token.bare]

/-- Pieces made into tokens are found again in them. -/
theorem Piece.map_piece_token (pieces : List Piece) :
    (pieces.map Piece.token).map Token.piece = pieces := by
  rw [List.map_map]
  exact List.map_id'' Piece.piece_token pieces

namespace Rule

/-! ## One piece

A production as a function of the text. Two lemmas say all that is used of it: when there is
no piece (`cut?_eq_none_iff`), and what is known where there is one (`of_cut?_eq_some`). The
other facts are read off the second. -/

/-- What the first rule that takes something cuts off a text, and what is left; at the end of the
text no rule is tried. -/
def cut? (rules : List Rule) (s : List Char) : Option (Piece × List Char) :=
  if s.isEmpty then none
  else
    (firstMatch rules s).map fun found =>
      ((found.1.kind, (Text.coverBytes found.2 s).1), (Text.coverBytes found.2 s).2)

@[simp] theorem cut?_nil (rules : List Rule) : cut? rules [] = none := rfl

/-- There is no first match where no rule takes anything. -/
theorem firstMatch_eq_none_iff {rules : List Rule} {s : List Char} :
    firstMatch rules s = none ↔ ∀ r ∈ rules, r.matchLength s = none := by
  simp only [firstMatch, List.findSome?_eq_none_iff, Option.map_eq_none_iff]

/-- Nothing is cut off at the end of the text, or where no rule takes anything. -/
theorem cut?_eq_none_iff {rules : List Rule} {s : List Char} :
    cut? rules s = none ↔ s.isEmpty = true ∨ ∀ r ∈ rules, r.matchLength s = none := by
  rw [cut?]
  split
  · rename_i hend
    exact ⟨fun _ => .inl hend, fun _ => rfl⟩
  · rename_i hend
    rw [Option.map_eq_none_iff, firstMatch_eq_none_iff, or_iff_right hend]

/-- Inversion for `cut?`: some rule took at least one byte. -/
theorem of_cut?_eq_some {rules : List Rule} {s rest : List Char} {piece : Piece}
    (h : cut? rules s = some (piece, rest)) :
    s ≠ [] ∧ ∃ r bytes, firstMatch rules s = some (r, bytes) ∧ 0 < bytes ∧
      piece = (r.kind, (Text.coverBytes bytes s).1) ∧ rest = (Text.coverBytes bytes s).2 := by
  rw [cut?] at h
  split at h
  · cases h
  · rename_i hne
    obtain ⟨⟨r, bytes⟩, hfirst, hpiece⟩ := Option.map_eq_some_iff.mp h
    obtain ⟨rfl, rfl⟩ := Prod.mk.inj hpiece
    exact ⟨fun hnil => hne (List.isEmpty_iff.mpr hnil), r, bytes, hfirst, firstMatch_pos hfirst,
      rfl, rfl⟩

/-- Cutting loses nothing. -/
theorem cut?_append {rules : List Rule} {s rest : List Char} {piece : Piece}
    (h : cut? rules s = some (piece, rest)) : s = piece.2 ++ rest := by
  obtain ⟨-, r, bytes, -, -, rfl, rfl⟩ := of_cut?_eq_some h
  exact (Text.coverBytes_append bytes s).symm

/-- What is left is shorter. -/
theorem cut?_shortens {rules : List Rule} {s rest : List Char} {piece : Piece}
    (h : cut? rules s = some (piece, rest)) : rest.length < s.length := by
  obtain ⟨hne, r, bytes, -, hpos, -, rfl⟩ := of_cut?_eq_some h
  exact Text.coverBytes_length_lt hpos hne

/-- A piece is not empty. -/
theorem cut?_ne_nil {rules : List Rule} {s rest : List Char} {piece : Piece}
    (h : cut? rules s = some (piece, rest)) : piece.2 ≠ [] := by
  intro hnil
  have hlength := congrArg List.length (cut?_append h)
  have hless := cut?_shortens h
  rw [hnil, List.nil_append] at hlength
  omega

/-! ## All pieces

The recursion goes on with what a piece leaves, which is shorter. Because of the
well-founded recursion `scan` does not unfold by computation, and the two equations stand
here as lemmas, one for each outcome of `cut?`. -/

/-- The pieces cut off a text one after the other, and the text that is left where no rule takes
anything. -/
def scan (rules : List Rule) (s : List Char) : List Piece × List Char :=
  match _h : cut? rules s with
  | none => ([], s)
  | some (piece, rest) => (piece :: (scan rules rest).1, (scan rules rest).2)
termination_by s.length
decreasing_by all_goals exact cut?_shortens _h

/-- Where no piece can be cut, there are none, and the text is left. -/
theorem scan_of_none {rules : List Rule} {s : List Char} (h : cut? rules s = none) :
    scan rules s = ([], s) := by
  rw [scan]
  split
  · rfl
  · rename_i hsome
    rw [h] at hsome
    cases hsome

/-- Where a piece can be cut, it comes first, and the scan goes on with what is left. -/
theorem scan_of_some {rules : List Rule} {s rest : List Char} {piece : Piece}
    (h : cut? rules s = some (piece, rest)) :
    scan rules s = (piece :: (scan rules rest).1, (scan rules rest).2) := by
  rw [scan]
  split
  · rename_i hnone
    rw [h] at hnone
    cases hnone
  · rename_i hsome
    rw [h] at hsome
    cases hsome
    rfl

/-- A text is its pieces followed by what is left. -/
theorem scan_append (rules : List Rule) (s : List Char) :
    Piece.texts (scan rules s).1 ++ (scan rules s).2 = s := by
  induction s using scan.induct rules with
  | case1 s hcut => rw [scan_of_none hcut, Piece.texts_nil, List.nil_append]
  | case2 s piece rest hcut ih =>
    rw [scan_of_some hcut, Piece.texts_cons, List.append_assoc, ih, ← cut?_append hcut]

/-- No piece is empty. -/
theorem scan_ne_nil (rules : List Rule) (s : List Char) :
    ∀ piece ∈ (scan rules s).1, piece.2 ≠ [] := by
  induction s using scan.induct rules with
  | case1 s hcut =>
    rw [scan_of_none hcut]
    intro piece hpiece
    exact absurd hpiece List.not_mem_nil
  | case2 s piece rest hcut ih =>
    rw [scan_of_some hcut]
    intro p hp
    rcases List.mem_cons.mp hp with rfl | hp
    · exact cut?_ne_nil hcut
    · exact ih p hp

end Rule

namespace Lexer

/-! ## A lexer cuts pieces

A lexer keeps a cursor, which keeps the text on both sides and its place. All of that
follows from the piece that is read (`moved`), so the state of a lexer after any production
is the state before it, moved by a piece. -/

/-- The lexer after a piece of the text has been read. -/
def moved (l : Lexer) (piece rest : List Char) : Lexer :=
  { l with cursor := l.cursor.moved piece rest }

/-- Reading nothing changes nothing. -/
theorem moved_nil (l : Lexer) : l.moved [] l.cursor.ahead = l := rfl

/-- Moving by one piece and then by another is moving by both at once. -/
theorem moved_moved (l : Lexer) (p q rest rest' : List Char) :
    (l.moved p rest).moved q rest' = l.moved (p ++ q) rest' := by
  simp only [moved, Cursor.moved_moved]

/-- Where a piece can be cut, there is text ahead. -/
theorem not_isDone_of_cut? {l : Lexer} {found : Piece × List Char}
    (h : Rule.cut? l.rules l.cursor.ahead = some found) : ¬ l.cursor.isDone = true := by
  intro hdone
  rw [Cursor.isDone, List.isEmpty_iff] at hdone
  rw [hdone, Rule.cut?_nil] at h
  cases h

/-- Where no piece can be cut, a lexer yields nothing and stays as it is. -/
theorem next_of_none {l : Lexer} (h : Rule.cut? l.rules l.cursor.ahead = none) :
    l.next.value = (l, none) := by
  rw [next]
  split
  · rfl
  · rename_i hdone
    have hne : ¬ l.cursor.ahead.isEmpty = true := hdone
    rw [Rule.cut?, if_neg hne, Option.map_eq_none_iff] at h
    rw [h]
    rfl

/-- Where a piece can be cut, a lexer yields it and moves on. -/
theorem next_of_some {l : Lexer} {piece : Piece} {rest : List Char}
    (h : Rule.cut? l.rules l.cursor.ahead = some (piece, rest)) :
    l.next.value = (l.moved piece.2 rest, some piece.token) := by
  obtain ⟨-, r, bytes, hfirst, -, rfl, rfl⟩ := Rule.of_cut?_eq_some h
  rw [next, if_neg (not_isDone_of_cut? h), hfirst]
  rfl

/-- What tokenising comes to at the end of the text, or where no rule matches. -/
theorem tokenise_of_none {l : Lexer} (h : Rule.cut? l.rules l.cursor.ahead = none) :
    l.tokenise.value = (l, []) := by
  rw [tokenise]
  split
  · rfl
  · have hnext := next_of_none h
    dsimp only
    split
    · rename_i hstep
      rw [hnext] at hstep
      cases hstep
      rfl
    · rename_i hstep
      rw [hnext] at hstep
      cases hstep

/-- What tokenising comes to where a piece can be cut: its token, and then those of the rest. -/
theorem tokenise_of_some {l : Lexer} {piece : Piece} {rest : List Char}
    (h : Rule.cut? l.rules l.cursor.ahead = some (piece, rest)) :
    l.tokenise.value = ((l.moved piece.2 rest).tokenise.value.1,
      piece.token :: (l.moved piece.2 rest).tokenise.value.2) := by
  have hnext := next_of_some h
  rw [tokenise, if_neg (not_isDone_of_cut? h)]
  dsimp only
  split
  · rename_i hstep
    rw [hnext] at hstep
    cases hstep
  · rename_i hstep
    rw [hnext] at hstep
    cases hstep
    rfl

/-- **A lexer tokenises as its rules scan the text ahead**, and its cursor moves by all the
pieces. -/
theorem tokenise_value (l : Lexer) :
    l.tokenise.value =
      (l.moved (Piece.texts (Rule.scan l.rules l.cursor.ahead).1)
          (Rule.scan l.rules l.cursor.ahead).2,
        (Rule.scan l.rules l.cursor.ahead).1.map Piece.token) := by
  generalize hrules : l.rules = rules
  generalize hahead : l.cursor.ahead = s
  -- the lexer changes from one piece to the next, but the text ahead of it is what the scan leaves
  induction s using Rule.scan.induct rules generalizing l with
  | case1 s hcut =>
    subst hrules hahead
    rw [tokenise_of_none hcut, Rule.scan_of_none hcut, Piece.texts_nil, moved_nil, List.map_nil]
  | case2 s piece rest hcut ih =>
    subst hrules hahead
    rw [tokenise_of_some hcut, Rule.scan_of_some hcut, ih (l.moved piece.2 rest) rfl rfl,
      moved_moved, Piece.texts_cons, List.map_cons]

end Lexer

end TokenSpans
