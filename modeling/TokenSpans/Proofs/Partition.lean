import TokenSpans.Proofs.Marking

/-!
# Tokens partition the text they are taken from

A lexer takes a cursor over wherever it stands, with any rules, and is tracked under one name. The
tokens of its run are then a partition of the text between where the cursor stood and where it
stands after the run (`Cursor.tokenise_partition`): their values in a row are that text, none is
empty, and their spans lie end to end.

The matchers are arbitrary functions of the text ahead. It does not matter whether the lengths they
ask for go beyond the end of the text or end inside a character, since the value and the span of a
token are both taken from the piece that was cut off in the end.

The proof has three steps. What the tracked host does is reduced to the pieces that the
rules cut off the text ahead (`tracked_lexer_tokenise`), which is a statement about values
only. That the pieces are the text is known of the scan itself (`Rule.scan_append`), and so
is that none is empty. What is left is to lay the pieces out along the text, and the spans
lie end to end by how they are laid out (`Token.abut_layOut`), without looking at the rules
any more.
-/

namespace TokenSpans

/-! ## Spans laid end to end

`Abut` goes through the tokens with the place that the last span has reached, so it says of
neighbours that they meet and of the ends that they are the given places. `Fits` is about
one token by itself: the span it carries is as long as its value and ends where the value
leads. -/

/-- The spans that the tokens have under a name lie end to end from one place to another: the first
begins here, each further one where the one before it ends, and the last ends there. -/
def Token.Abut (property : String) : Location → List Token → Location → Prop
  | here, [], there => here = there
  | here, t :: rest, there =>
    ∃ span, t.spans.get? property = some span ∧ span.start = here ∧
      Abut property span.stop rest there

/-- The token carries one span under the name and none under any other, and the span fits the value:
it has as many characters, and it ends where the value leads from its start. -/
structure Token.Fits (property : String) (first : Nat) (source : Option String) (t : Token)
    (span : Span) : Prop where
  /-- the only span -/
  entries : t.spans.entries = [(property, span)]
  /-- the span has the label of the text -/
  source_eq : span.source = source
  /-- the span holds the characters of the value -/
  length_eq : span.length = t.value.length
  /-- the end is moved on from the start by the value -/
  movedBy : Location.MovedBy first t.value.toList span.start span.stop

namespace Token

variable {property : String} {first : Nat} {source : Option String}

/-- A span that fits is found under the name. -/
theorem Fits.get? {t : Token} {span : Span} (h : Fits property first source t span) :
    t.spans.get? property = some span := by
  rw [Spans.get?, h.entries]
  exact List.lookup_cons_self

/-- A piece marked where it stands fits. -/
theorem fits_mark_token (here : Location) (piece : Piece) :
    Fits property first source
      (piece.token.mark [property] ⟨here, here.advance first piece.2, source⟩)
      ⟨here, here.advance first piece.2, source⟩ where
  entries := rfl
  source_eq := rfl
  length_eq := by
    have hvalue : (String.ofList piece.2).length = piece.2.length := String.length_ofList
    have hlength : here.offset + piece.2.length - here.offset = piece.2.length :=
      Nat.add_sub_cancel_left ..
    exact hlength.trans hvalue.symm
  movedBy := by
    have hvalue : (piece.token.mark [property]
        ⟨here, here.advance first piece.2, source⟩).value.toList = piece.2 :=
      String.toList_ofList
    rw [hvalue]
    exact Location.movedBy_advance ..

/-- Pieces laid out along a text have a span each that fits. -/
theorem exists_fits_of_mem_layOut {here : Location} {pieces : List Piece} {t : Token}
    (h : t ∈ layOut [property] first source here (pieces.map Piece.token)) :
    ∃ span, Fits property first source t span := by
  induction pieces generalizing here with
  | nil => exact absurd h List.not_mem_nil
  | cons piece rest ih =>
    rw [List.map_cons, layOut, Piece.value_token] at h
    rcases List.mem_cons.mp h with rfl | h
    · exact ⟨_, fits_mark_token here piece⟩
    · exact ih h

/-- Pieces laid out along a text lie end to end, up to where their texts lead. -/
theorem abut_layOut (here : Location) (pieces : List Piece) :
    Abut property here (layOut [property] first source here (pieces.map Piece.token))
      (here.advance first (Piece.texts pieces)) := by
  induction pieces generalizing here with
  | nil => rfl
  | cons piece rest ih =>
    rw [List.map_cons, layOut, Piece.value_token, Piece.texts_cons, Location.advance_append]
    -- the place behind this piece is where the rest begins
    exact ⟨_, (fits_mark_token here piece).get?, rfl, ih _⟩

/-- Kinds and values stay when pieces are laid out. -/
theorem map_piece_layOut_token (names : List String) (here : Location) (pieces : List Piece) :
    (layOut names first source here (pieces.map Piece.token)).map piece = pieces := by
  rw [map_piece_layOut, Piece.map_piece_token]

/-- The values of tokens in a row are the texts of their pieces in a row. -/
theorem flatMap_value (tokens : List Token) :
    tokens.flatMap (fun t => t.value.toList) = Piece.texts (tokens.map piece) :=
  (List.flatMap_map piece Prod.snd tokens).symm

end Token

/-! ## Running a lexer from a cursor on

The cursor need not stand at the beginning, and its text before that place is left alone. A
lexer takes it over with its settings; only the role is set anew. Rules are added one by one
and heard of, and the lexer that has them all is written down directly (`Cursor.lexer`), so
that the statements need not speak of how it was made. -/

namespace Lexer

/-- Rules are added behind those there are. -/
theorem addRules_value (l : Lexer) (rules : List Rule) :
    (l.addRules rules).value = { l with rules := l.rules ++ rules } := by
  induction rules generalizing l with
  | nil => simp [addRules]
  | cons r rest ih =>
    rw [addRules, Traced.bind_value, ih]
    simp [addRule]

/-- Of every rule that is added there is a report. -/
theorem addRules_effects (l : Lexer) (rules : List Rule) :
    (l.addRules rules).effects =
      (rules.map fun r => .ruleRegistered r.kind).map Effect.report := by
  induction rules generalizing l with
  | nil => rfl
  | cons r rest ih =>
    rw [addRules, Traced.bind_effects, ih]
    rfl

end Lexer

namespace Cursor

/-- The lexer that takes a cursor over, with the given rules. -/
def lexer (c : Cursor) (rules : List Rule) : Lexer :=
  ⟨c.setRole (some .lexer), rules⟩

@[simp] theorem ahead_lexer (c : Cursor) (rules : List Rule) :
    (c.lexer rules).cursor.ahead = c.ahead := rfl

@[simp] theorem rules_lexer (c : Cursor) (rules : List Rule) :
    (c.lexer rules).rules = rules := rfl

/-- Tokenising from a cursor on: a lexer takes the cursor over, the rules are added, the lexer is
tracked under the name, and all tokens are taken. -/
def tokenise (c : Cursor) (rules : List Rule) (property : String) :
    Action (Host × List Token) := do
  let l ← Lexer.ofCursor c
  let l ← l.addRules rules
  let h ← (Host.lexer l).track property
  h.tokenise

/-- The tracked run of a lexer that has taken a cursor over: the pieces that the rules cut off, laid
out from where the cursor stands. -/
theorem tracked_lexer_tokenise (c : Cursor) (rules : List Rule) (property : String) :
    (Host.tracked (.lexer (c.lexer rules)) property).tokenise.value =
      .ok (.tracked (.lexer ((c.lexer rules).moved (Piece.texts (Rule.scan rules c.ahead).1)
          (Rule.scan rules c.ahead).2)) property,
        Token.layOut [property] c.settings.numbering.first c.settings.source c.location
          ((Rule.scan rules c.ahead).1.map Piece.token)) := by
  have hlexer : (Host.tracked (.lexer (c.lexer rules)) property).lexer? = some (c.lexer rules) :=
    rfl
  rw [Host.tokenise_value hlexer, Lexer.tokenise_value, ahead_lexer, rules_lexer]
  rfl

/-- Tokenising from a cursor on is that run: a lexer is never refused. -/
theorem tokenise_value (c : Cursor) (rules : List Rule) (property : String) :
    (c.tokenise rules property).value =
      (Host.tracked (.lexer (c.lexer rules)) property).tokenise.value := by
  have hcreate : ((Lexer.ofCursor c : Traced Lexer) : Action Lexer).value = .ok (c.lexer []) := rfl
  have hrules : (((c.lexer []).addRules rules : Traced Lexer) : Action Lexer).value =
      .ok (c.lexer rules) := congrArg Except.ok (Lexer.addRules_value ..)
  have htrack : ((Host.lexer (c.lexer rules)).track property).value =
      .ok (.tracked (.lexer (c.lexer rules)) property) := rfl
  rw [tokenise, Action.bind_of_ok hcreate, Action.bind_of_ok hrules, Action.bind_of_ok htrack]

/-- `tokens` are a partition of the text between two cursors in one text, under the name
`property`. -/
structure Partition (property : String) (c : Cursor) (tokens : List Token) (c' : Cursor) :
    Prop where
  /-- both cursors stand in one text -/
  text_eq : c'.text = c.text
  /-- the values in a row are the text between the two -/
  readText_eq : c'.readText = c.readText ++ tokens.flatMap (fun t => t.value.toList)
  /-- no value is empty -/
  value_ne : ∀ t ∈ tokens, t.value ≠ ""
  /-- the spans lie end to end between the places of the two -/
  abut : Token.Abut property c.location tokens c'.location
  /-- every span fits the value of its token -/
  fits : ∀ t ∈ tokens, ∃ span,
    Token.Fits property c.settings.numbering.first c.settings.source t span

/-- A lexer that takes a cursor over moves it by the pieces that its rules cut off. -/
theorem lexer_moves (c : Cursor) (rules : List Rule) :
    Moves c (Piece.texts (Rule.scan rules c.ahead).1)
      ((c.lexer rules).moved (Piece.texts (Rule.scan rules c.ahead).1)
        (Rule.scan rules c.ahead).2).cursor := by
  have htaken : Moves c [] (c.lexer rules).cursor := Moves.of_same rfl rfl rfl rfl
  have hahead : (c.lexer rules).cursor.ahead = Piece.texts (Rule.scan rules c.ahead).1 ++
      (Rule.scan rules c.ahead).2 := (Rule.scan_append rules c.ahead).symm
  exact htaken.trans (moves_moved hahead)

/-- Tokenising from any cursor on comes to a partition of what it takes. -/
theorem exists_partition (c : Cursor) (rules : List Rule) (property : String) :
    ∃ host tokens, (c.tokenise rules property).value = .ok (host, tokens) ∧
      Partition property c tokens host.cursor := by
  have hmoves := lexer_moves c rules
  have hvalue := (tokenise_value c rules property).trans (tracked_lexer_tokenise c rules property)
  refine ⟨_, _, hvalue, ?_⟩
  exact {
    text_eq := hmoves.text_eq
    readText_eq := by
      rw [Token.flatMap_value, Token.map_piece_layOut_token]
      exact hmoves.readText
    value_ne := by
      intro t ht hempty
      have hpiece : t.piece ∈ (Rule.scan rules c.ahead).1 := by
        have hmem := List.mem_map_of_mem (f := Token.piece) ht
        rw [Token.map_piece_layOut_token] at hmem
        exact hmem
      refine Rule.scan_ne_nil rules c.ahead _ hpiece ?_
      rw [Token.piece, hempty]
      rfl
    abut := by
      -- the cursor of the tracked host is that of the lexer inside
      change Token.Abut property c.location _ ((c.lexer rules).moved _ _).cursor.location
      rw [hmoves.location]
      exact Token.abut_layOut ..
    fits := fun t ht => Token.exists_fits_of_mem_layOut ht }

/-- **Tokens partition the text they are taken from**: wherever steps have led a cursor in a text,
tokenising from there on with any rules comes to tokens, without a fault, and they partition the
text up to where it stops. -/
theorem tokenise_partition (settings : CursorSettings) (text : List Char) (steps : List Step)
    (rules : List Rule) (property : String) :
    ∃ host tokens,
      ((run settings text steps).1.tokenise rules property).value = .ok (host, tokens) ∧
        Partition property (run settings text steps).1 tokens host.cursor ∧
        host.cursor.text = text := by
  obtain ⟨host, tokens, hvalue, hpartition⟩ :=
    exists_partition (run settings text steps).1 rules property
  exact ⟨host, tokens, hvalue, hpartition,
    hpartition.text_eq.trans (run_moves settings text steps).text_eq⟩

end Cursor

end TokenSpans
