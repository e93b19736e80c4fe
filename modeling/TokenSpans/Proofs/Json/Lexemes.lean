import TokenSpans.Json.Lexeme
import TokenSpans.Json.Value
import TokenSpans.Proofs.Json.Numerals
import TokenSpans.Proofs.Json.QuotedTexts

/-!
# Lexemes of written scalars

A written scalar is one lexeme, with nothing wrong about it, and the lexemes of the text after it
come next. Only a number needs that the text after it does not go on with it.

Every lemma has the text after the scalar as a parameter, since a scalar may stand anywhere
in a document. That is enough to cut a whole document: the lexemes of a text in front of
another one are those of the one, and then those of the other, as long as the two are parted
by something that is not part of a numeral. In what is written a comma, a bracket or the end
comes after a numeral, and each of them is such a text (`endsNumeral_cons`,
`endsNumeral_nil`).

The proofs all have one step: no gap is in front, and `scan` says what the lexeme is and
what is left (`lexemes_cons`).
-/

namespace TokenSpans.Json

/-- A lexeme that can be passed over is followed by those of the text after it. -/
theorem lexemes_cons {c : Char} {s after : List Char} {l : Lexeme} (hgap : isGap c = false)
    (hscan : scan c s = (l, some after)) : lexemes (c :: s) = l :: lexemes after := by
  rw [lexemes, if_neg (Bool.eq_false_iff.mp hgap)]
  split
  · rename_i hlast
    cases hscan.symm.trans hlast
  · rename_i hnext
    obtain ⟨rfl, hafter⟩ := Prod.mk.inj (hscan.symm.trans hnext)
    obtain rfl := Option.some.inj hafter
    rfl

/-- A bracket or mark is a lexeme of its own, whatever comes after it. -/
theorem lexemes_mark {c : Char} {l : Lexeme} (hgap : isGap c = false) (hmark : mark? c = some l)
    (s : List Char) : lexemes (c :: s) = l :: lexemes s := by
  refine lexemes_cons hgap ?_
  rw [scan, hmark]

/-- A word that is there in full is taken in full. -/
theorem readWord_append (word s : List Char) : readWord word (word ++ s) = .ok s := by
  induction word with
  | nil => rfl
  | cons c rest ih =>
    rw [List.cons_append, readWord, if_pos rfl]
    exact ih

/-- A word that is there in full is sound. -/
theorem scanWord_append {α : Type} (a : α) (word s : List Char) :
    scanWord a word (word ++ s) = (.sound a, some s) := by
  rw [scanWord, readWord_append]

/-- The word for null is one lexeme. -/
theorem lexemes_null (s : List Char) :
    lexemes (['n', 'u', 'l', 'l'] ++ s) = .null (.sound ()) :: lexemes s := by
  refine lexemes_cons rfl ?_
  exact congrArg (Prod.map Lexeme.null id) (scanWord_append () ['u', 'l', 'l'] s)

/-- So are the words for the truth values. -/
theorem lexemes_writeWord (b : Bool) (s : List Char) :
    lexemes (writeWord b ++ s) = .bool (.sound b) :: lexemes s := by
  cases b with
  | true =>
    refine lexemes_cons rfl ?_
    exact congrArg (Prod.map Lexeme.bool id) (scanWord_append true ['r', 'u', 'e'] s)
  | false =>
    refine lexemes_cons rfl ?_
    exact congrArg (Prod.map Lexeme.bool id) (scanWord_append false ['a', 'l', 's', 'e'] s)

/-- A written text is one lexeme, and stands for its characters. -/
theorem lexemes_writeText (text : String) (s : List Char) :
    lexemes (writeText text ++ s) = .text (.sound text.toList) :: lexemes s := by
  have hwritten : writeText text ++ s = '"' :: (text.toList.flatMap escapeChar ++ '"' :: s) := by
    rw [writeText, List.cons_append, List.cons_append, List.append_assoc]
    rfl
  rw [hwritten]
  refine lexemes_cons rfl ?_
  have hscan : scanText (text.toList.flatMap escapeChar ++ '"' :: s) =
      (.sound text.toList, some s) := by
    rw [scanText, skipText_written, readText_written]
    rfl
  exact congrArg (Prod.map Lexeme.text id) hscan

/-- A digit begins a numeral and nothing else. -/
theorem scan_of_isDigit {c : Char} (h : Text.isDigit c = true) (s : List Char) :
    isGap c = false ∧ scan c s = (scanNumber (c :: s)).map .number id := by
  have hne : ∀ d, Text.isDigit d = false → c ≠ d := by
    rintro d hd rfl
    cases h.symm.trans hd
  constructor
  · simp only [isGap, beq_eq_false_iff_ne, Bool.or_eq_false_iff]
    exact ⟨⟨⟨hne ' ' rfl, hne '\n' rfl⟩, hne '\t' rfl⟩, hne '\r' rfl⟩
  · have hmark : mark? c = none := by
      simp only [mark?, hne '{' rfl, hne '}' rfl, hne '[' rfl, hne ']' rfl, hne ':' rfl,
        hne ',' rfl, if_false]
    rw [scan, hmark]
    dsimp only
    rw [if_neg (hne 'n' rfl), if_neg (hne 't' rfl), if_neg (hne 'f' rfl), if_neg (hne '"' rfl),
      if_pos (.inr h)]

/-- The digits of a number that fits a word are one lexeme, and stand for the number. -/
theorem lexemes_decimal {n : Nat} {s : List Char} (hn : n ≤ Word.max) (hs : EndsNumeral s) :
    lexemes (Text.decimal n ++ s) = .number (.sound (some n)) :: lexemes s := by
  obtain ⟨d, ds, hdigits, hd, -⟩ := Text.exists_decimal_eq_cons n
  have hnumeral := readNumeral_decimal n hs
  rw [hdigits, List.cons_append] at hnumeral ⊢
  obtain ⟨hgap, hscan⟩ := scan_of_isDigit hd (ds ++ s)
  refine lexemes_cons hgap ?_
  have hreading := reading_decimal hn
  rw [hdigits] at hreading
  rw [hscan, scanNumber, hnumeral]
  dsimp only
  rw [hreading]
  rfl

/-- The end of the text ends a numeral. -/
theorem endsNumeral_nil : EndsNumeral [] :=
  fun c hc => absurd hc (Option.not_mem_none c)

/-- A mark or a gap ends a numeral. -/
theorem endsNumeral_cons {c : Char}
    (h : Text.isDigit c = false ∧ c ≠ '.' ∧ c ≠ 'e' ∧ c ≠ 'E') (s : List Char) :
    EndsNumeral (c :: s) :=
  Text.forall_head?_cons h s

end TokenSpans.Json
