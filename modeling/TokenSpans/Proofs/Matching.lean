import TokenSpans.Proofs.Checked
import TokenSpans.Proofs.Dispatch
import TokenSpans.Proofs.Matchers

/-!
# Whole pieces

Rules are made with matchers of three shapes: for one fixed text, for one fixed character, and for
the longest run of a class, whose end is looked for by byte positions. `Shape.Takes` says what each
of them takes and not how it is found, and a rule of the shape matches just the bytes of such a
piece (`Rule.matchLength_eq_some_iff`).

So the length that such a rule asks for is never rounded. It ends between two characters of the text
ahead, the cursor moves on by exactly so many bytes, and they are the value of the token
(`Lexer.takesWhole_of_ahead`). A matcher of another shape may ask for any length.

The matchers are functions, and what they take is said by a relation between a piece and
what follows it, so that the statement about a run does not mention how its end was found.
The way by byte positions (`Text.runBytes`) is a definition of its own here and is shown to
give the same number; a search that stops one position late would give another.
-/

namespace TokenSpans

namespace Text

/-! ## Bytes of an encoded text

The bytes counted by `byteLength` are those of the encoded text, as the library encodes it.
No other lemmas open the
encoding. -/

/-- The bytes of a text are those that it is encoded in. -/
theorem size_utf8Encode (s : List Char) : s.utf8Encode.size = byteLength s := by
  induction s with
  | nil => rfl
  | cons c rest ih =>
    rw [List.utf8Encode_cons, ByteArray.size_append, ih, List.utf8Encode_singleton,
      List.size_toByteArray, String.length_utf8EncodeChar, byteLength]

/-- The first bytes of an encoded text are those of a beginning that has so many. -/
theorem extract_append (s t : List Char) :
    (String.ofList (s ++ t)).toByteArray.extract 0 (byteLength s) =
      (String.ofList s).toByteArray := by
  rw [String.toByteArray_ofList, String.toByteArray_ofList, List.utf8Encode_append]
  exact ByteArray.extract_append_eq_left (size_utf8Encode s).symm

/-! ## Looking for the end of a run

Every character of a text comes with the number of bytes before it, and the search is for
the first one that lacks the property. Where there is none the run goes on to the end of the
text, and the position is the length of all of it. The induction leaves the number at the
beginning general. -/

/-- The characters of a text, each with the number of bytes before it; the first one has `before`
bytes before it. -/
def charPlaces (before : Nat) : List Char → List (Nat × Char)
  | [] => []
  | c :: rest => (before, c) :: charPlaces (before + c.utf8Size) rest

/-- The bytes before the first character that lacks a property, or else those of all the text. -/
def runBytes (p : Char → Bool) (s : List Char) : Nat :=
  ((charPlaces 0 s).find? fun place => !p place.2).elim (byteLength s) Prod.fst

/-- The first character that lacks the property is found right behind the run. -/
theorem find?_charPlaces (p : Char → Bool) (before : Nat) (s : List Char) :
    ((charPlaces before s).find? fun place => !p place.2) =
      (s.dropWhile p).head?.map fun c => (before + byteLength (s.takeWhile p), c) := by
  induction s generalizing before with
  | nil => rfl
  | cons c rest ih =>
    rw [charPlaces, List.find?_cons]
    by_cases hc : p c = true
    · -- the search passes this character by, and the run takes it
      rw [List.takeWhile_cons_of_pos hc, List.dropWhile_cons_of_pos hc, byteLength, ← Nat.add_assoc]
      simp only [hc, Bool.not_true]
      exact ih (before + c.utf8Size)
    · rw [List.takeWhile_cons_of_neg hc, List.dropWhile_cons_of_neg hc]
      simp [hc, byteLength]

/-- What is before that character is the run, and where there is none the run is all of the text. -/
theorem runBytes_eq (p : Char → Bool) (s : List Char) :
    runBytes p s = byteLength (s.takeWhile p) := by
  have hsplit := List.takeWhile_append_dropWhile (p := p) (l := s)
  rw [runBytes, find?_charPlaces]
  cases hrest : s.dropWhile p with
  | nil =>
    rw [hrest, List.append_nil] at hsplit
    rw [hsplit]
    rfl
  | cons c rest => simp

end Text

namespace Matcher

/-! ## Shapes of matchers

One relation for three shapes, with two lemmas: what a shape takes is found by its matcher,
whatever follows, and what the matcher finds is taken by the shape. Together they
characterise the matcher. The empty fixed text is excluded on the side of the shape, since a
rule never takes it. -/

/-- The ways in which a matcher is made. -/
inductive Shape
  /-- for one fixed text -/
  | literal (text : List Char)
  /-- for one fixed character -/
  | single (expected : Char)
  /-- for the longest run of a class -/
  | runOf (p : Char → Bool)

/-- The matcher that is made. -/
def Shape.matcher : Shape → Matcher
  | literal text => .literal text
  | single expected => .single expected
  | runOf p => .runOf p

/-- What a rule of a shape takes of a text: the piece, where `rest` follows it. -/
def Shape.Takes : Shape → List Char → List Char → Prop
  | literal text, piece, _ => piece = text ∧ text ≠ []
  | single expected, piece, _ => piece = [expected]
  | runOf p, piece, rest =>
    piece ≠ [] ∧ (∀ c ∈ piece, p c = true) ∧ ∀ c ∈ rest.head?, p c = false

/-- The longest run is found by looking for its end. -/
theorem runOf_eq (p : Char → Bool) (s : List Char) :
    runOf p s = if 0 < Text.runBytes p s then some (Text.runBytes p s) else none := by
  rw [Text.runBytes_eq]
  rfl

variable {shape : Shape} {piece rest s : List Char}

/-- What is taken is not empty. -/
theorem Shape.Takes.ne_nil (h : shape.Takes piece rest) : piece ≠ [] := by
  cases shape with
  | literal text =>
    obtain ⟨rfl, hne⟩ := h
    exact hne
  | single expected =>
    obtain rfl : piece = [expected] := h
    exact List.cons_ne_nil _ _
  | runOf p => exact h.1

/-- A matcher finds what stands at the beginning of a text. -/
theorem Shape.Takes.matcher_append (h : shape.Takes piece rest) :
    shape.matcher (piece ++ rest) = some (Text.byteLength piece) := by
  cases shape with
  | literal text =>
    obtain ⟨rfl, -⟩ := h
    have hprefix : piece.isPrefixOf (piece ++ rest) = true :=
      List.isPrefixOf_iff_prefix.mpr (List.prefix_append piece rest)
    exact if_pos hprefix
  | single expected =>
    obtain rfl : piece = [expected] := h
    exact if_pos rfl
  | runOf p =>
    obtain ⟨hne, hrun, hrest⟩ := h
    have hpos := (Text.byteLength_pos_iff piece).mpr hne
    simp only [matcher, Matcher.runOf, (Text.takeWhile_append_of_head? hrun hrest).1, if_pos hpos]

/-- And finds nothing else, but for the empty text. -/
theorem Shape.exists_takes_of_matcher {bytes : Nat} (h : shape.matcher s = some bytes)
    (hpos : 0 < bytes) :
    ∃ piece rest, s = piece ++ rest ∧ shape.Takes piece rest ∧ Text.byteLength piece = bytes := by
  cases shape with
  | literal text =>
    simp only [matcher, Matcher.literal] at h
    split at h
    · rename_i hprefix
      obtain ⟨rest, rfl⟩ := List.isPrefixOf_iff_prefix.mp hprefix
      obtain rfl := Option.some.inj h
      exact ⟨text, rest, rfl, ⟨rfl, (Text.byteLength_pos_iff text).mp hpos⟩, rfl⟩
    · cases h
  | single expected =>
    cases s with
    | nil => cases h
    | cons c rest =>
      simp only [matcher, Matcher.single] at h
      split at h
      · rename_i hc
        subst hc
        obtain rfl := Option.some.inj h
        exact ⟨[c], rest, rfl, rfl, rfl⟩
      · cases h
  | runOf p =>
    simp only [matcher, Matcher.runOf] at h
    split at h
    · rename_i hrun
      obtain rfl := Option.some.inj h
      refine ⟨s.takeWhile p, s.dropWhile p, List.takeWhile_append_dropWhile.symm, ⟨?_, ?_, ?_⟩, rfl⟩
      · exact (Text.byteLength_pos_iff _).mp hrun
      · exact fun c hc => List.mem_takeWhile_imp hc
      · intro c hc
        have hnot := List.head?_dropWhile_not p s
        rw [Option.mem_def.mp hc] at hnot
        exact hnot
    · cases h

end Matcher

namespace Rule

/-! ## What rules of each shape match

The general characterisation is instantiated for each shape, in terms that do not mention
shapes: a beginning of the text, its first character, a run that ends where it has to. -/

variable (kind : String) (s : List Char) (bytes : Nat)

/-- **A rule of a shape matches the bytes of what the shape takes**, and nothing else. -/
theorem matchLength_eq_some_iff (shape : Matcher.Shape) :
    matchLength ⟨kind, shape.matcher⟩ s = some bytes ↔
      ∃ piece rest, s = piece ++ rest ∧ shape.Takes piece rest ∧ Text.byteLength piece = bytes := by
  constructor
  · intro h
    have hmatcher : shape.matcher s = some bytes := (Option.filter_eq_some_iff.mp h).1
    exact Matcher.Shape.exists_takes_of_matcher hmatcher (matchLength_pos h)
  · rintro ⟨piece, rest, rfl, htakes, rfl⟩
    have hpos := (Text.byteLength_pos_iff piece).mpr htakes.ne_nil
    have hmatcher : (Rule.mk kind shape.matcher).matcher (piece ++ rest) =
        some (Text.byteLength piece) := htakes.matcher_append
    rw [matchLength, hmatcher]
    exact Option.filter_some_pos (decide_eq_true hpos)

/-- A fixed text is matched where it is not empty and stands ahead. -/
theorem matchLength_literal_iff (text : List Char) :
    matchLength ⟨kind, .literal text⟩ s = some bytes ↔
      text ≠ [] ∧ text <+: s ∧ bytes = Text.byteLength text := by
  refine (matchLength_eq_some_iff kind s bytes (.literal text)).trans ⟨?_, ?_⟩
  · rintro ⟨piece, rest, rfl, ⟨rfl, hne⟩, rfl⟩
    exact ⟨hne, List.prefix_append .., rfl⟩
  · rintro ⟨hne, ⟨rest, rfl⟩, rfl⟩
    exact ⟨text, rest, rfl, ⟨rfl, hne⟩, rfl⟩

/-- A fixed character is matched where it comes first. -/
theorem matchLength_single_iff (expected : Char) :
    matchLength ⟨kind, .single expected⟩ s = some bytes ↔
      s.head? = some expected ∧ bytes = expected.utf8Size := by
  refine (matchLength_eq_some_iff kind s bytes (.single expected)).trans ⟨?_, ?_⟩
  · rintro ⟨piece, rest, rfl, rfl, rfl⟩
    exact ⟨rfl, rfl⟩
  · rintro ⟨hhead, rfl⟩
    obtain ⟨rest, rfl⟩ := List.head?_eq_some_iff.mp hhead
    exact ⟨[expected], rest, rfl, rfl, rfl⟩

/-- A run is matched where the first character is of the class. -/
theorem matchLength_runOf_ne_none_iff (p : Char → Bool) :
    matchLength ⟨kind, .runOf p⟩ s ≠ none ↔ ∃ c ∈ s.head?, p c = true := by
  cases s with
  | nil => simp [matchLength, Matcher.runOf, Text.byteLength]
  | cons c rest => simp [matchLength_runOf]

end Rule

/-! ## Reading a whole piece

The other end of the story: a cursor that is asked for just the bytes of a piece that stands
ahead. Then rounding has nothing to do, with or without checks, and the piece is what is
read. A lexer that finds the rule in either of its two ways passes exactly this length on. -/

namespace Cursor

variable {c : Cursor} {piece rest : List Char} {bytes : Nat}

/-- A length that a cursor reads as it is asked for. -/
structure ReadsWhole (c : Cursor) (bytes : Nat) (piece rest : List Char) : Prop where
  /-- the piece stands ahead -/
  ahead : c.ahead = piece ++ rest
  /-- it is encoded in the first bytes ahead -/
  encoded : (String.ofList piece).toByteArray =
    (String.ofList c.ahead).toByteArray.extract 0 bytes
  /-- and is read -/
  read : (c.read bytes).value = (c.moved piece rest, piece)
  /-- the cursor has come just as far as it was asked to -/
  position : (c.moved piece rest).position = c.position + bytes
  /-- with checks, the end asked for is not capped, the text may be cut there without going on to a
  later byte, and the reading has a result -/
  checked : c.Placed → Text.byteLength c.text ≤ Text.maxBytes →
    c.inBytes.askedEnd bytes = c.position + bytes ∧
      ByteCursor.roundUp? c.text 0 (c.position + bytes) = some (c.position + bytes) ∧
      c.inBytes.read? bytes = some ((c.moved piece rest).inBytes, piece)

/-- The text may be cut behind a piece that stands ahead. -/
theorem isBoundary_of_ahead (h : c.ahead = piece ++ rest) :
    Text.IsBoundary c.text (c.position + Text.byteLength piece) := by
  refine ⟨c.readText ++ piece, rest, ?_, Text.byteLength_append ..⟩
  rw [text, h, List.append_assoc]

/-- The bytes of a piece that stands ahead are read as they are. -/
theorem readsWhole_of_ahead (h : c.ahead = piece ++ rest) :
    c.ReadsWhole (Text.byteLength piece) piece rest := by
  have hread : (c.read (Text.byteLength piece)).value = (c.moved piece rest, piece) := by
    rw [read_value, h, Text.coverBytes_byteLength]
  have hposition := c.position_read (Text.byteLength piece)
  rw [hread] at hposition
  refine ⟨h, ?_, hread, hposition, fun hplaced hbytes => ⟨?_, ?_, ?_⟩⟩
  · rw [h, Text.extract_append]
  · rw [askedEnd_inBytes hbytes]
    exact Nat.min_eq_left (isBoundary_of_ahead h).le_byteLength
  · exact if_pos (ByteCursor.isSome_cut?_iff.mpr (isBoundary_of_ahead h))
  · have hchecked := (readsTo_inBytes hbytes (Text.byteLength piece) hplaced).read
    rwa [hread] at hchecked

end Cursor

namespace Lexer

variable {l : Lexer} {r : Rule} {bytes : Nat} {piece rest : List Char}

/-- What a rule takes of the text ahead of a lexer is a whole piece, and each production by the rule
yields just this piece. -/
structure TakesWhole (l : Lexer) (r : Rule) (bytes : Nat) (piece rest : List Char) : Prop where
  /-- the cursor reads it as it is asked to -/
  reads : l.cursor.ReadsWhole bytes piece rest
  /-- where the rule is the one that its kind leads to -/
  tryKind : Rule.ofKind? l.rules r.kind = some r →
    (l.tryKind r.kind).value = (l.moved piece rest, some (Piece.token (r.kind, piece)))
  /-- where the rule is the first one that takes something -/
  next : ∀ place, Rule.TakesFirst l.rules l.cursor.ahead place r bytes →
    l.next.value = (l.moved piece rest, some (Piece.token (r.kind, piece)))

/-- A rule that takes a beginning of the text ahead takes it as a whole piece. -/
theorem takesWhole_of_ahead (htext : l.cursor.ahead = piece ++ rest)
    (htakes : r.matchLength l.cursor.ahead = some (Text.byteLength piece)) :
    l.TakesWhole r (Text.byteLength piece) piece rest := by
  have hreads := Cursor.readsWhole_of_ahead htext
  have hyield : (l.yield r (Text.byteLength piece)).value =
      (l.moved piece rest, some (Piece.token (r.kind, piece))) := by
    rw [yield_value, hreads.read]
    rfl
  have hne : piece ≠ [] := (Text.byteLength_pos_iff piece).mp (Rule.matchLength_pos htakes)
  have hahead : l.cursor.isDone = false := by
    simp [Cursor.isDone, htext, hne]
  refine ⟨hreads, fun hkind => ?_, fun place hfirst => ?_⟩
  · rw [tryKind_of_takes hkind htakes, hyield]
  · rw [next_of_takesFirst hahead hfirst, hyield]

end Lexer

/-- **Rules of the three shapes take whole pieces.** What such a rule matches is not empty, lies
within the text and ends between two characters, so that a lexer with this text ahead reads just
these bytes, and they are the value of its token. A rule for a fixed text matches where the text is
not empty and stands ahead, one for a fixed character where this comes first. A rule for a run, the
end of which is found by looking for the first character that is not of the class, matches where
the first one is; what it takes has characters of the class only, and none of them follows. -/
theorem Rule.shapes_take_whole_pieces (kind : String) (s : List Char) :
    (∀ (shape : Matcher.Shape) (bytes : Nat), matchLength ⟨kind, shape.matcher⟩ s = some bytes →
        0 < bytes ∧ bytes ≤ Text.byteLength s ∧ Text.IsBoundary s bytes ∧
        ∀ l : Lexer, l.cursor.ahead = s →
          ∃ piece rest, l.TakesWhole ⟨kind, shape.matcher⟩ bytes piece rest) ∧
      (∀ (text : List Char) (bytes : Nat),
        matchLength ⟨kind, .literal text⟩ s = some bytes ↔
          text ≠ [] ∧ text <+: s ∧ bytes = Text.byteLength text) ∧
      (∀ (expected : Char) (bytes : Nat),
        matchLength ⟨kind, .single expected⟩ s = some bytes ↔
          s.head? = some expected ∧ bytes = expected.utf8Size) ∧
      ∀ p : Char → Bool,
        Matcher.runOf p s =
            (if 0 < Text.runBytes p s then some (Text.runBytes p s) else none) ∧
          (matchLength ⟨kind, .runOf p⟩ s ≠ none ↔ ∃ c ∈ s.head?, p c = true) ∧
          ∀ bytes, matchLength ⟨kind, .runOf p⟩ s = some bytes ↔
            ∃ piece rest, s = piece ++ rest ∧
              (piece ≠ [] ∧ (∀ c ∈ piece, p c = true) ∧ ∀ c ∈ rest.head?, p c = false) ∧
              Text.byteLength piece = bytes := by
  refine ⟨fun shape bytes h => ?_, fun text bytes => matchLength_literal_iff kind s bytes text,
    fun expected bytes => matchLength_single_iff kind s bytes expected, fun p =>
    ⟨Matcher.runOf_eq p s, matchLength_runOf_ne_none_iff kind s p, fun bytes => ?_⟩⟩
  · obtain ⟨piece, rest, rfl, htakes, rfl⟩ :=
      (matchLength_eq_some_iff kind s bytes shape).mp h
    have hboundary : Text.IsBoundary (piece ++ rest) (Text.byteLength piece) :=
      ⟨piece, rest, rfl, rfl⟩
    refine ⟨matchLength_pos h, hboundary.le_byteLength, hboundary, fun l hahead => ?_⟩
    exact ⟨piece, rest, Lexer.takesWhole_of_ahead hahead (hahead ▸ h)⟩
  · exact matchLength_eq_some_iff kind s bytes (.runOf p)

/-- A run over characters of two, three and one byte ends before the first other one. -/
example : Rule.matchLength ⟨"word", .runOf (· != '=')⟩ ['é', '語', 'x', '=', 'y'] = some 6 := by
  decide

end TokenSpans
