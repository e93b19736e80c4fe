import TokenSpans.Proofs.Matchers
import TokenSpans.Standard.Rules
import TokenSpans.Standard.Segments

/-!
# The segments of a text

The reference splitting `Standard.segments` and the standard rules ask the same questions in
different places: the one goes through the classes of the first character, the others are tried one
after the other on the text ahead. Both come to the kind of the first character (`kindOf?`) and to
the class of those that may follow in a piece of that kind (`goesOn`), so the rules scan a text into
its segments (`scan_rules`).

The segments cover the text up to the first character that belongs to no class, and these are the
characters that are not accepted (`texts_segments`).

The two sides are compared by way of `kindOf?` and `goesOn`, which belong to neither. On the
side of the splitting there are two equations (`segments_of_none`, `segments_of_some`), on
that of the rules there are two as well (`cut?_rules_of_none`, `cut?_rules_of_some`), and
then one induction along the pieces makes the runs agree. All else that is proved about the
standard rules is proved about segments, by the induction principle `segments_induction`,
and never about a list of rules again.

Where classes overlap, the order of the questions matters: a digit is a word character too,
and a newline is white space.
-/

namespace TokenSpans

namespace Standard

/-! ## Classes of characters

The kind of a piece depends on its first character, and how far it goes depends on its kind.
The inversion `Begins` keeps the answers to all questions that were asked before the one
that settled it, since the proofs need to know what a character is not. A piece goes on only
with characters that are accepted, and so the first character that is not accepted ends
every piece. -/

/-- The kind of a piece that begins with a character, if the character belongs to any class. -/
def kindOf? (c : Char) : Option String :=
  if c = '\n' then some "newline"
  else if Text.isBlank c then some "space"
  else if Text.isDigit c then some "number"
  else if Text.isWordChar c then some "text"
  else if Text.isPunctuation c then some "punct"
  else none

/-- Whether a piece of a kind goes on with a character. Newlines and punctuation stand alone. -/
def goesOn (kind : String) : Char → Bool :=
  if kind = "space" then isInlineBlank
  else if kind = "number" then Text.isDigit
  else if kind = "text" then Text.isWordChar
  else fun _ => false

@[simp] theorem goesOn_newline : goesOn "newline" = fun _ => false := rfl

@[simp] theorem goesOn_space : goesOn "space" = isInlineBlank := rfl

@[simp] theorem goesOn_number : goesOn "number" = Text.isDigit := rfl

@[simp] theorem goesOn_text : goesOn "text" = Text.isWordChar := rfl

@[simp] theorem goesOn_punct : goesOn "punct" = fun _ => false := rfl

/-- Why a character begins a piece of a kind. The classes overlap, and the first one counts. -/
inductive Begins (c : Char) : String → Prop
  /-- the first question -/
  | newline (h : c = '\n') : Begins c "newline"
  | space (hnewline : c ≠ '\n') (h : Text.isBlank c = true) : Begins c "space"
  | number (hnewline : c ≠ '\n') (hblank : ¬ Text.isBlank c = true)
      (h : Text.isDigit c = true) : Begins c "number"
  | text (hnewline : c ≠ '\n') (hblank : ¬ Text.isBlank c = true)
      (hdigit : ¬ Text.isDigit c = true) (h : Text.isWordChar c = true) : Begins c "text"
  /-- the last question -/
  | punct (hnewline : c ≠ '\n') (hblank : ¬ Text.isBlank c = true)
      (hdigit : ¬ Text.isDigit c = true) (hword : ¬ Text.isWordChar c = true)
      (h : Text.isPunctuation c = true) : Begins c "punct"

/-- Inversion for `kindOf?`. -/
theorem begins_of_kindOf? {c : Char} {kind : String} (h : kindOf? c = some kind) :
    Begins c kind := by
  rw [kindOf?] at h
  split_ifs at h with hnewline hblank hdigit hword hpunctuation
  all_goals obtain rfl := Option.some.inj h
  · exact .newline hnewline
  · exact .space hnewline hblank
  · exact .number hnewline hblank hdigit
  · exact .text hnewline hblank hdigit hword
  · exact .punct hnewline hblank hdigit hword hpunctuation

/-- A character is of no kind where all questions are answered in the negative. -/
theorem of_kindOf?_eq_none {c : Char} (h : kindOf? c = none) :
    c ≠ '\n' ∧ ¬ Text.isBlank c = true ∧ ¬ Text.isDigit c = true ∧ ¬ Text.isWordChar c = true ∧
      ¬ Text.isPunctuation c = true := by
  rw [kindOf?] at h
  split_ifs at h with hnewline hblank hdigit hword hpunctuation
  exact ⟨hnewline, hblank, hdigit, hword, hpunctuation⟩

/-- Digits may stand in words. -/
theorem isWordChar_of_isDigit {c : Char} (h : Text.isDigit c = true) :
    Text.isWordChar c = true := by
  have hnumeric : Text.isNumeric c = true := by
    rw [Text.isDigit, Bool.and_eq_true, decide_eq_true_eq, decide_eq_true_eq] at h
    rw [Text.isNumeric, Text.numericRanges, Text.covers]
    simp only [h.1, h.2, decide_true, Bool.true_or, Bool.and_self]
  rw [Text.isWordChar, Text.isAlphanumeric, hnumeric, Bool.or_true, Bool.true_or]

/-- A character of some kind is accepted, and no other is. -/
theorem isAccepted_iff (c : Char) : isAccepted c = true ↔ ∃ kind, kindOf? c = some kind := by
  constructor
  · intro h
    cases hkind : kindOf? c with
    | some kind => exact ⟨kind, rfl⟩
    | none =>
      obtain ⟨hnewline, hblank, -, hword, hpunctuation⟩ := of_kindOf?_eq_none hkind
      simp [isAccepted, hnewline, hblank, hword, hpunctuation] at h
  · rintro ⟨kind, hkind⟩
    cases begins_of_kindOf? hkind with
    | newline h => simp [isAccepted, h]
    | space _ h => simp [isAccepted, h]
    | number _ _ h => simp [isAccepted, isWordChar_of_isDigit h]
    | text _ _ _ h => simp [isAccepted, h]
    | punct _ _ _ _ h => simp [isAccepted, h]

/-- A character with which a piece goes on is accepted. -/
theorem isAccepted_of_goesOn {kind : String} {c : Char} (h : goesOn kind c = true) :
    isAccepted c = true := by
  rw [goesOn] at h
  -- newlines and punctuation go on with nothing, so three cases are left
  split_ifs at h
  · have hblank : Text.isBlank c = true := by
      rw [isInlineBlank, Bool.and_eq_true] at h
      exact h.1
    simp [isAccepted, hblank]
  · simp [isAccepted, isWordChar_of_isDigit h]
  · simp [isAccepted, h]

/-! ## The first segment

The recursion of `segments` with its five branches in two equations. In the second one the
run of a newline or of punctuation is empty, as nothing goes on with them. -/

@[simp] theorem segments_nil : segments [] = [] := by rw [segments]

/-- No piece begins with a character of no kind. -/
theorem segments_of_none {c : Char} {rest : List Char} (h : kindOf? c = none) :
    segments (c :: rest) = [] := by
  obtain ⟨hnewline, hblank, hdigit, hword, hpunctuation⟩ := of_kindOf?_eq_none h
  rw [segments, if_neg hnewline, if_neg hblank, if_neg hdigit, if_neg hword,
    if_neg hpunctuation]

/-- The first piece of a text: its kind is that of the first character, and it goes on as long as it
may. -/
theorem segments_of_some {c : Char} {rest : List Char} {kind : String}
    (h : kindOf? c = some kind) :
    segments (c :: rest) =
      (kind, c :: rest.takeWhile (goesOn kind)) :: segments (rest.dropWhile (goesOn kind)) := by
  rw [segments]
  cases begins_of_kindOf? h with
  | newline hc => rw [if_pos hc, goesOn_newline, Text.takeWhile_false, Text.dropWhile_false]
  | space hnewline hc => rw [if_neg hnewline, if_pos hc, goesOn_space]
  | number hnewline hblank hc =>
    rw [if_neg hnewline, if_neg hblank, if_pos hc, goesOn_number]
  | text hnewline hblank hdigit hc =>
    rw [if_neg hnewline, if_neg hblank, if_neg hdigit, if_pos hc, goesOn_text]
  | punct hnewline hblank hdigit hword hc =>
    rw [if_neg hnewline, if_neg hblank, if_neg hdigit, if_neg hword, if_pos hc, goesOn_punct,
      Text.takeWhile_false, Text.dropWhile_false]

/-! ## The rules cut off the first segment

Five rules are tried in turn, and each looks at the first character before anything else. So
which one matches is a question about that character (`firstMatch_rules`), and how many
bytes it takes is the length of the run. Cutting a text by that number of bytes leaves whole
characters, because it is the length of a beginning of the text. -/

/-- Space inside a line is the same class in the rules and in the splitting. -/
theorem isSpace_eq : isSpace = isInlineBlank := by
  funext c
  exact Bool.and_comm ..

/-- Away from newlines, space inside a line is any white space. -/
theorem isInlineBlank_of_ne {c : Char} (h : c ≠ '\n') : isInlineBlank c = Text.isBlank c := by
  rw [isInlineBlank, bne_iff_ne.mpr h, Bool.and_true]

/-- Which of the standard rules matches depends on the next character alone. -/
theorem firstMatch_rules (c : Char) (rest : List Char) :
    Rule.firstMatch rules (c :: rest) =
      if c = '\n' then some (⟨"newline", .single '\n'⟩, Text.byteLength [c])
      else if isInlineBlank c then
        some (⟨"space", .runOf isInlineBlank⟩, Text.byteLength (c :: rest.takeWhile isInlineBlank))
      else if Text.isDigit c then
        some (⟨"number", .runOf Text.isDigit⟩, Text.byteLength (c :: rest.takeWhile Text.isDigit))
      else if Text.isWordChar c then
        some (⟨"text", .runOf Text.isWordChar⟩,
          Text.byteLength (c :: rest.takeWhile Text.isWordChar))
      else if Text.isPunctuation c then
        some (⟨"punct", .oneOf Text.isPunctuation⟩, Text.byteLength [c])
      else none := by
  simp only [rules, isSpace_eq, Rule.firstMatch_cons, Rule.matchLength_single,
    Rule.matchLength_runOf, Rule.matchLength_oneOf]
  split_ifs <;> rfl

/-- A character of some kind is matched by the rule of that kind, for as long as the piece goes
on. -/
theorem exists_firstMatch_rules {c : Char} {kind : String} (h : kindOf? c = some kind)
    (rest : List Char) :
    ∃ r : Rule, r.kind = kind ∧ Rule.firstMatch rules (c :: rest) =
      some (r, Text.byteLength (c :: rest.takeWhile (goesOn kind))) := by
  rw [firstMatch_rules]
  cases begins_of_kindOf? h with
  | newline hc =>
    rw [if_pos hc, goesOn_newline, Text.takeWhile_false]
    exact ⟨_, rfl, rfl⟩
  | space hnewline hc =>
    rw [if_neg hnewline, isInlineBlank_of_ne hnewline, if_pos hc]
    exact ⟨_, rfl, rfl⟩
  | number hnewline hblank hc =>
    rw [if_neg hnewline, isInlineBlank_of_ne hnewline, if_neg hblank, if_pos hc]
    exact ⟨_, rfl, rfl⟩
  | text hnewline hblank hdigit hc =>
    rw [if_neg hnewline, isInlineBlank_of_ne hnewline, if_neg hblank, if_neg hdigit, if_pos hc]
    exact ⟨_, rfl, rfl⟩
  | punct hnewline hblank hdigit hword hc =>
    rw [if_neg hnewline, isInlineBlank_of_ne hnewline, if_neg hblank, if_neg hdigit,
      if_neg hword, if_pos hc, goesOn_punct, Text.takeWhile_false]
    exact ⟨_, rfl, rfl⟩

/-- What the standard rules cut off a text is its first segment. -/
theorem cut?_rules_of_some {c : Char} {kind : String} (h : kindOf? c = some kind)
    (rest : List Char) :
    Rule.cut? rules (c :: rest) =
      some ((kind, c :: rest.takeWhile (goesOn kind)), rest.dropWhile (goesOn kind)) := by
  have hsplit : c :: rest =
      (c :: rest.takeWhile (goesOn kind)) ++ rest.dropWhile (goesOn kind) := by
    rw [List.cons_append, List.takeWhile_append_dropWhile]
  obtain ⟨r, rfl, hfirst⟩ := exists_firstMatch_rules h rest
  -- the number of bytes is that of a beginning of the text, so no character is cut
  rw [hsplit] at hfirst ⊢
  exact Rule.cut?_of_firstMatch (List.cons_ne_nil _ _) hfirst

/-- The standard rules take nothing where the next character is of no kind. -/
theorem cut?_rules_of_none {c : Char} (h : kindOf? c = none) (rest : List Char) :
    Rule.cut? rules (c :: rest) = none := by
  obtain ⟨hnewline, hblank, hdigit, hword, hpunctuation⟩ := of_kindOf?_eq_none h
  rw [← isInlineBlank_of_ne hnewline] at hblank
  rw [Rule.cut?, firstMatch_rules, if_neg hnewline, if_neg hblank, if_neg hdigit, if_neg hword,
    if_neg hpunctuation]
  rfl

/-! ## All segments

The segments end at the first character of no kind, the rules stop where none of them
matches, and these are the same place. That the texts of the segments make up all that was
accepted is then a corollary: scanning loses nothing, whatever the rules are. -/

/-- Induction along the segments of a text: it is empty, or begins with a character of no kind, or
with a segment behind which the statement holds. -/
@[elab_as_elim]
theorem segments_induction {motive : List Char → Prop} (nil : motive [])
    (none : ∀ c rest, kindOf? c = .none → motive (c :: rest))
    (some : ∀ c rest kind, kindOf? c = .some kind → motive (rest.dropWhile (goesOn kind)) →
      motive (c :: rest)) (s : List Char) : motive s := by
  induction hlength : s.length using Nat.strong_induction_on generalizing s with
  | h n ih =>
    cases s with
    | nil => exact nil
    | cons c rest =>
      cases hkind : kindOf? c with
      | none => exact none c rest hkind
      | some kind =>
        have hle := (List.dropWhile_sublist (goesOn kind) (l := rest)).length_le
        have hless : (rest.dropWhile (goesOn kind)).length < n := by
          rw [← hlength, List.length_cons]
          omega
        exact some c rest kind hkind (ih _ hless _ rfl)

/-- Behind the first segment, the text up to the first character that is not accepted goes on. -/
theorem dropWhile_isAccepted {c : Char} {kind : String} (h : kindOf? c = some kind)
    (rest : List Char) :
    (c :: rest).dropWhile isAccepted = (rest.dropWhile (goesOn kind)).dropWhile isAccepted := by
  have hc : isAccepted c = true := (isAccepted_iff c).mpr ⟨kind, h⟩
  have hrun : ∀ d ∈ rest.takeWhile (goesOn kind), isAccepted d = true :=
    fun d hd => isAccepted_of_goesOn (List.mem_takeWhile_imp hd)
  rw [List.dropWhile_cons_of_pos hc]
  calc rest.dropWhile isAccepted
      = (rest.takeWhile (goesOn kind) ++ rest.dropWhile (goesOn kind)).dropWhile isAccepted := by
        rw [List.takeWhile_append_dropWhile]
    _ = (rest.dropWhile (goesOn kind)).dropWhile isAccepted := by
        rw [List.dropWhile_append_of_pos hrun]

/-- **The standard rules scan a text into its segments**, up to the first character that is not
accepted. -/
theorem scan_rules (s : List Char) :
    Rule.scan rules s = (segments s, s.dropWhile isAccepted) := by
  induction s using segments_induction with
  | nil => rw [Rule.scan_of_none (Rule.cut?_nil rules), segments_nil, List.dropWhile_nil]
  | none c rest hkind =>
    have hc : ¬ isAccepted c = true := by
      rw [isAccepted_iff, hkind]
      rintro ⟨kind, h⟩
      cases h
    rw [Rule.scan_of_none (cut?_rules_of_none hkind rest), segments_of_none hkind,
      List.dropWhile_cons_of_neg hc]
  | some c rest kind hkind ih =>
    rw [Rule.scan_of_some (cut?_rules_of_some hkind rest), ih, segments_of_some hkind,
      dropWhile_isAccepted hkind]

/-- The segments in a row are the text up to the first character that is not accepted. -/
theorem texts_segments (s : List Char) : Piece.texts (segments s) = s.takeWhile isAccepted := by
  have hscan := Rule.scan_append rules s
  have hsplit : s.takeWhile isAccepted ++ s.dropWhile isAccepted = s :=
    List.takeWhile_append_dropWhile
  rw [scan_rules] at hscan
  exact List.append_cancel_right (hscan.trans hsplit.symm)

end Standard

end TokenSpans
