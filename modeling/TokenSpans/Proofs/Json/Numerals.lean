import TokenSpans.Json.Numeral
import TokenSpans.Proofs.Matchers
import TokenSpans.Text.Columns

/-!
# Numerals

A numeral of the grammar is read up to the first character that cannot go on with it, as the same
numeral whatever that is (`IsNumeral.exists_readNumeral`). The decimal digits of a number are one
without sign, fraction and exponent (`readNumeral_decimal`), and stand for the number if that fits a
word (`reading_decimal`). A numeral never stands for a number beyond that
(`Numeral.le_max_of_reading`).

Reading a numeral means finding its end. The scanners for its parts are greedy, each taking
as many digits as there are, so the lemmas about them suppose that what comes next does not
go on with the part, and the parts are put together from the back: what comes after the
fraction depends on the exponent, and what comes after the digits in front depends on both.

Rounding comes in where a numeral is beyond the range of double precision and is refused. Of
the numbers that are written this has to be excluded, which takes no more than a rough
bound: rounding at most doubles a number (`roundDouble_le`), and a word is far from the
limit.
-/

namespace TokenSpans

namespace Text

/-- The digits of a number are digits. -/
theorem isDigit_of_mem_decimal {n : Nat} {c : Char} (h : c ∈ decimal n) : isDigit c = true := by
  have hdigit : c.isDigit = true := Nat.isDigit_of_mem_toDigits (by decide) (Nat.le_refl 10) h
  exact hdigit

/-- The first digit of a number is zero only where the number is. -/
theorem head?_decimal {n : Nat} (h : n ≠ 0) : (decimal n).head? ≠ some '0' := by
  induction n using Nat.strongRecOn with
  | ind n ih =>
    by_cases hlt : n < 10
    · rw [decimal, Nat.toDigits_of_lt_base hlt, List.head?_cons]
      intro hzero
      exact h (Nat.digitChar_eq_zero.mp (Option.some.inj hzero))
    -- the digits in front of the last one are those of the tenth part
    · have hrest := ih (n / 10) (by omega) (by omega)
      obtain ⟨d, ds, hdigits⟩ := List.exists_cons_of_ne_nil
        (Nat.toDigits_ne_nil (n := n / 10) (b := 10))
      rw [decimal, hdigits] at hrest
      rw [decimal, Nat.toDigits_of_base_le (by decide) (by omega), hdigits]
      exact hrest

/-- The digits of a number begin with a digit, and with a zero only if that is all. -/
theorem exists_decimal_eq_cons (n : Nat) :
    ∃ d ds, decimal n = d :: ds ∧ isDigit d = true ∧ (d = '0' → ds = []) := by
  obtain ⟨d, ds, hdigits⟩ := List.exists_cons_of_ne_nil (Nat.toDigits_ne_nil (n := n) (b := 10))
  refine ⟨d, ds, hdigits, isDigit_of_mem_decimal (n := n) ?_, ?_⟩
  · rw [decimal, hdigits]
    exact List.mem_cons_self
  · rintro rfl
    by_cases hn : n = 0
    · subst hn
      exact (List.cons.inj hdigits).2.symm
    · refine absurd ?_ (head?_decimal hn)
      rw [decimal, hdigits, List.head?_cons]

end Text

namespace Json

/-- The digits of a number stand for it. -/
theorem ofDigits_decimal (n : Nat) : ofDigits (Text.decimal n) = n :=
  Nat.ofDigitChars_ten_toDigits

/-- Text that a numeral before it does not go on into. -/
def EndsNumeral (s : List Char) : Prop :=
  ∀ c ∈ s.head?, Text.isDigit c = false ∧ c ≠ '.' ∧ c ≠ 'e' ∧ c ≠ 'E'

/-- Where a numeral ends there is no fraction. -/
theorem readFraction_of_endsNumeral {s : List Char} (h : EndsNumeral s) :
    readFraction s = .ok ([], s) := by
  cases s with
  | nil => rfl
  | cons c rest =>
    obtain ⟨-, hpoint, -⟩ := h c rfl
    rw [readFraction]
    rintro rest' hrest
    exact hpoint (List.cons.inj hrest).1

/-- Nor is there an exponent. -/
theorem readExponent_of_endsNumeral {s : List Char} (h : EndsNumeral s) :
    readExponent s = .ok (none, s) := by
  cases s with
  | nil => rfl
  | cons c rest =>
    obtain ⟨-, -, hsmall, hcapital⟩ := h c rfl
    exact if_neg (not_or.mpr ⟨hsmall, hcapital⟩)

/-! ## The grammar of numerals

A numeral is a sign or none, digits without needless zeros, a fraction or none, and an
exponent or none. For each part there is a predicate, a lemma that says what its scanner
does with it, and one about the character with which the rest begins. `exists` in the names
of the lemmas stands for what the part amounts to, which the grammar does not care about. -/

/-- One digit or more. -/
def IsDigits (s : List Char) : Prop :=
  s ≠ [] ∧ ∀ c ∈ s, Text.isDigit c = true

/-- Digits without needless zeros. -/
structure IsWhole (s : List Char) : Prop where
  /-- there is at least one -/
  digits : IsDigits s
  /-- a zero in front is the only digit -/
  first : s.head? = some '0' → s = ['0']

/-- A point and digits, or nothing. -/
inductive IsFraction : List Char → Prop
  | none : IsFraction []
  | point {digits : List Char} (h : IsDigits digits) : IsFraction ('.' :: digits)

/-- A letter, a sign or none, and digits, or nothing. -/
inductive IsExponent : List Char → Prop
  | none : IsExponent []
  | letter {c : Char} {sign digits : List Char} (hc : c = 'e' ∨ c = 'E')
      (hsign : sign = [] ∨ sign = ['+'] ∨ sign = ['-']) (h : IsDigits digits) :
      IsExponent (c :: (sign ++ digits))

/-- A numeral: its four parts one after the other, of which only the second must be there.
-/
inductive IsNumeral : List Char → Prop
  | mk {sign whole fraction exponent : List Char} (hsign : sign = [] ∨ sign = ['-'])
      (hwhole : IsWhole whole) (hfraction : IsFraction fraction)
      (hexponent : IsExponent exponent) : IsNumeral (sign ++ (whole ++ (fraction ++ exponent)))

section

variable {s digits : List Char}

/-- No text that begins with a digit begins with another character. -/
theorem cons_ne_of_isDigit {c d : Char} (hd : Text.isDigit d = true) (hc : Text.isDigit c = false)
    (s t : List Char) : d :: s ≠ c :: t := by
  intro heq
  obtain rfl := (List.cons.inj heq).1
  cases hd.symm.trans hc

/-- Digits begin with a digit. -/
theorem IsDigits.exists_cons (h : IsDigits digits) :
    ∃ d ds, digits = d :: ds ∧ Text.isDigit d = true := by
  obtain ⟨d, ds, rfl⟩ := List.exists_cons_of_ne_nil h.1
  exact ⟨d, ds, rfl, h.2 d List.mem_cons_self⟩

/-- Digits are taken up to the first character that is none. -/
theorem IsDigits.someDigits_append (h : IsDigits digits)
    (hs : ∀ c ∈ s.head?, Text.isDigit c = false) : someDigits (digits ++ s) = .ok (digits, s) := by
  have hspan : spanDigits (digits ++ s) = (digits, s) := by
    obtain ⟨htake, hdrop⟩ := Text.takeWhile_append_of_head? h.2 hs
    rw [spanDigits, htake, hdrop]
  obtain ⟨d, ds, rfl, -⟩ := h.exists_cons
  rw [someDigits, hspan]

/-- Digits without needless zeros are taken in full. -/
theorem IsWhole.readWhole_append (h : IsWhole digits)
    (hs : ∀ c ∈ s.head?, Text.isDigit c = false) : readWhole (digits ++ s) = .ok (digits, s) := by
  rw [readWhole, h.digits.someDigits_append hs]
  dsimp only [bind, Except.bind]
  split
  · rename_i c rest
    cases h.first rfl
  · rfl

/-- An exponent is taken in full, with either sign or without. -/
theorem IsExponent.exists_readExponent {exponent : List Char} (h : IsExponent exponent) :
    ∃ e, ∀ s, EndsNumeral s → readExponent (exponent ++ s) = .ok (e, s) := by
  cases h with
  | none => exact ⟨Option.none, fun s hs => readExponent_of_endsNumeral hs⟩
  | @letter c sign digits hc hsign h =>
    obtain ⟨d, ds, rfl, hd⟩ := h.exists_cons
    have hdigits : ∀ s, EndsNumeral s → someDigits (d :: (ds ++ s)) = .ok (d :: ds, s) :=
      fun s hs => h.someDigits_append fun c hc => (hs c hc).1
    rcases hsign with rfl | rfl | rfl
    · refine ⟨some (ofDigits (d :: ds)), fun s hs => ?_⟩
      rw [List.nil_append, List.cons_append, List.cons_append, readExponent, if_pos hc]
      · dsimp only
        rw [hdigits s hs]
        rfl
      · exact fun after => cons_ne_of_isDigit hd rfl _ after
      · exact fun after => cons_ne_of_isDigit hd rfl _ after
    · refine ⟨some (ofDigits (d :: ds)), fun s hs => ?_⟩
      rw [List.singleton_append, List.cons_append, List.cons_append, List.cons_append,
        readExponent, if_pos hc]
      dsimp only
      rw [hdigits s hs]
      rfl
    · refine ⟨some (-ofDigits (d :: ds)), fun s hs => ?_⟩
      rw [List.singleton_append, List.cons_append, List.cons_append, List.cons_append,
        readExponent, if_pos hc]
      dsimp only
      rw [hdigits s hs]
      rfl

/-- What follows the fraction neither goes on with it nor is a point. -/
theorem IsExponent.head?_append {exponent : List Char} (h : IsExponent exponent)
    (hs : EndsNumeral s) : ∀ c ∈ (exponent ++ s).head?, Text.isDigit c = false ∧ c ≠ '.' := by
  cases h with
  | none => exact fun c hc => ⟨(hs c hc).1, (hs c hc).2.1⟩
  | letter hc hsign h =>
    rintro d ⟨⟩
    rcases hc with rfl | rfl <;> decide

/-- A fraction is taken in full, up to the exponent behind it. -/
theorem IsFraction.exists_readFraction {fraction exponent : List Char} (h : IsFraction fraction)
    (hexponent : IsExponent exponent) :
    ∃ f, ∀ s, EndsNumeral s →
      readFraction (fraction ++ (exponent ++ s)) = .ok (f, exponent ++ s) := by
  cases h with
  | none =>
    refine ⟨[], fun s hs => ?_⟩
    have hhead := hexponent.head?_append hs
    rw [List.nil_append, readFraction]
    rintro rest hrest
    rw [hrest] at hhead
    exact (hhead '.' rfl).2 rfl
  | @point digits h =>
    refine ⟨digits, fun s hs => ?_⟩
    have hhead := hexponent.head?_append hs
    exact h.someDigits_append fun c hc => (hhead c hc).1

/-- What follows the digits in front does not go on with them. -/
theorem IsFraction.head?_append {fraction exponent : List Char} (h : IsFraction fraction)
    (hexponent : IsExponent exponent) (hs : EndsNumeral s) :
    ∀ c ∈ (fraction ++ (exponent ++ s)).head?, Text.isDigit c = false := by
  cases h with
  | none => exact fun c hc => (hexponent.head?_append hs c hc).1
  | point h =>
    rintro c ⟨⟩
    rfl

/-- **A numeral of the grammar is read in full**, and as the same whatever ends it. -/
theorem IsNumeral.exists_readNumeral {t : List Char} (h : IsNumeral t) :
    ∃ n, ∀ s, EndsNumeral s → readNumeral (t ++ s) = .ok (n, s) := by
  obtain ⟨hsign, hwhole, hfraction, hexponent⟩ := h
  rename_i sign whole fraction exponent
  obtain ⟨f, hf⟩ := hfraction.exists_readFraction hexponent
  obtain ⟨e, he⟩ := hexponent.exists_readExponent
  -- from the back: the exponent ends the fraction, and both end the digits in front
  have hread : ∀ s, EndsNumeral s → readWhole (whole ++ (fraction ++ (exponent ++ s))) =
      .ok (whole, fraction ++ (exponent ++ s)) :=
    fun s hs => hwhole.readWhole_append (hfraction.head?_append hexponent hs)
  rcases hsign with rfl | rfl
  · refine ⟨⟨false, whole, f, e⟩, fun s hs => ?_⟩
    obtain ⟨d, ds, rfl, hd⟩ := hwhole.digits.exists_cons
    have hwhole := hread s hs
    rw [List.cons_append] at hwhole
    rw [List.nil_append, List.append_assoc, List.append_assoc, List.cons_append, readNumeral,
      hwhole]
    · dsimp only [bind, Except.bind]
      rw [hf s hs]
      dsimp only
      rw [he s hs]
    · exact fun rest => cons_ne_of_isDigit hd rfl _ rest
  · refine ⟨⟨true, whole, f, e⟩, fun s hs => ?_⟩
    rw [List.append_assoc, List.append_assoc, List.append_assoc, List.singleton_append,
      readNumeral, hread s hs]
    dsimp only [bind, Except.bind]
    rw [hf s hs]
    dsimp only
    rw [he s hs]

end

/-- A numeral begins with a sign or a digit, which is how `scan` knows it. -/
theorem IsNumeral.exists_cons {t : List Char} (h : IsNumeral t) :
    ∃ c rest, t = c :: rest ∧ (c = '-' ∨ Text.isDigit c = true) := by
  obtain ⟨hsign, hwhole, -, -⟩ := h
  obtain ⟨d, ds, rfl, hd⟩ := hwhole.digits.exists_cons
  rcases hsign with rfl | rfl
  · exact ⟨d, _, rfl, .inr hd⟩
  · exact ⟨'-', _, rfl, .inl rfl⟩

/-! ## Written numbers

The decimal digits of a number are a numeral with one part. Its first digit is zero only for
the number zero, which is the one thing about decimal digits that the library does not have. -/

/-- The digits of a number have no needless zeros. -/
theorem isWhole_decimal (n : Nat) : IsWhole (Text.decimal n) := by
  obtain ⟨d, ds, hdigits, -, hzero⟩ := Text.exists_decimal_eq_cons n
  refine ⟨⟨?_, fun c hc => Text.isDigit_of_mem_decimal hc⟩, fun hfirst => ?_⟩
  · rw [hdigits]
    exact List.cons_ne_nil d ds
  · rw [hdigits] at hfirst ⊢
    obtain rfl := Option.some.inj hfirst
    rw [hzero rfl]

/-- They are a numeral. -/
theorem isNumeral_decimal (n : Nat) : IsNumeral (Text.decimal n) := by
  have hparts := IsNumeral.mk (.inl rfl) (isWhole_decimal n) .none .none
  rw [List.nil_append, List.append_nil, List.append_nil] at hparts
  exact hparts

/-- They are read as a numeral without the other parts. -/
theorem readNumeral_decimal {s : List Char} (n : Nat) (h : EndsNumeral s) :
    readNumeral (Text.decimal n ++ s) = .ok (⟨false, Text.decimal n, [], none⟩, s) := by
  have hwhole := (isWhole_decimal n).readWhole_append fun c hc => (h c hc).1
  obtain ⟨d, ds, hdigits, hd, -⟩ := Text.exists_decimal_eq_cons n
  rw [hdigits, List.cons_append] at hwhole ⊢
  rw [readNumeral, hwhole]
  · dsimp only [bind, Except.bind]
    rw [readFraction_of_endsNumeral h]
    dsimp only
    rw [readExponent_of_endsNumeral h]
  · exact fun rest => cons_ne_of_isDigit hd rfl _ rest

/-! ## What numerals stand for

A numeral stands for a natural number only if it has neither sign, fraction nor exponent,
and if the number fits a word. The digits are gathered as long as they fit; for digits that
were written all of them do, and the value is the number itself. -/

/-- Further digits make a number no smaller. -/
theorem le_ofDigitChars (ds : List Char) (n : Nat) : n ≤ Nat.ofDigitChars 10 ds n := by
  induction ds generalizing n with
  | nil => exact Nat.le_refl n
  | cons d rest ih =>
    rw [Nat.ofDigitChars_cons]
    have hrest := ih (10 * n + (d.toNat - '0'.toNat))
    omega

/-- Digits are gathered as long as the number fits a word. -/
theorem gather_of_le {ds : List Char} {n : Nat} (h : Nat.ofDigitChars 10 ds n ≤ Word.max) :
    gather n ds = (Nat.ofDigitChars 10 ds n, []) := by
  induction ds generalizing n with
  | nil => rfl
  | cons d rest ih =>
    rw [Nat.ofDigitChars_cons] at h
    have hfits : 10 * n + digitValue d ≤ Word.max := (le_ofDigitChars rest _).trans h
    rw [gather, if_pos hfits, Nat.ofDigitChars_cons]
    exact ih h

/-- Rounding no more than doubles a number. -/
theorem roundDouble_le (n : Nat) : roundDouble n ≤ 2 * n := by
  by_cases hn : n = 0
  · subst hn
    decide
  · have hunit : 2 ^ (n.log2 - 52) ≤ n :=
      (Nat.pow_le_pow_right (by decide) (Nat.sub_le ..)).trans (Nat.log2_self_le hn)
    have hdown : n / 2 ^ (n.log2 - 52) * 2 ^ (n.log2 - 52) ≤ n := Nat.div_mul_le_self ..
    have hup : (n / 2 ^ (n.log2 - 52) + 1) * 2 ^ (n.log2 - 52) ≤ 2 * n := by
      rw [Nat.add_mul, Nat.one_mul]
      omega
    rw [roundDouble]
    split
    · exact hdown.trans (by omega)
    · exact hup

/-- The digits of a number that fits a word are not beyond the range of double precision. -/
theorem not_tooLarge_decimal {n : Nat} (h : n ≤ Word.max) :
    Numeral.tooLarge ⟨false, Text.decimal n, [], none⟩ = false := by
  -- all digits are gathered, so no power of ten is left to scale by
  have hgather : gather 0 (Text.decimal n) = (n, []) := by
    have hvalue : Nat.ofDigitChars 10 (Text.decimal n) 0 = n := ofDigits_decimal n
    rw [gather_of_le (by rw [hvalue]; exact h), hvalue]
  have hsmall : roundDouble (roundDouble n * roundDouble (Nat.pow 10 0)) < Nat.pow 2 1024 := by
    have hone : roundDouble (Nat.pow 10 0) = 1 := by decide
    have hround := roundDouble_le n
    have hagain := roundDouble_le (roundDouble n)
    -- for any large exponent, so that the power is not computed
    have hrange : ∀ e, 66 ≤ e → 4 * Word.max < Nat.pow 2 e := fun e he =>
      Nat.lt_of_lt_of_le (by decide) (Nat.pow_le_pow_right Nat.zero_lt_two he)
    refine Nat.lt_of_le_of_lt ?_ (hrange 1024 (by decide))
    rw [hone, Nat.mul_one]
    omega
  have hlarge : Numeral.tooLarge ⟨false, Text.decimal n, [], none⟩ =
      (n != 0 && (decide (308 < 0) ||
        decide (Nat.pow 2 1024 ≤ roundDouble (roundDouble n * roundDouble (Nat.pow 10 0))))) := by
    rw [Numeral.tooLarge, hgather]
    rfl
  rw [hlarge, decide_eq_false (Nat.not_le_of_lt hsmall)]
  exact Bool.and_false _

/-- The digits of a number that fits a word stand for that number. -/
theorem reading_decimal {n : Nat} (h : n ≤ Word.max) :
    Numeral.reading ⟨false, Text.decimal n, [], none⟩ = .ok (some n) := by
  rw [Numeral.reading, not_tooLarge_decimal h, ofDigits_decimal]
  simp [h]

/-- A numeral stands for no natural number beyond a word. -/
theorem Numeral.le_max_of_reading {numeral : Numeral} {n : Nat}
    (h : numeral.reading = .ok (some n)) : n ≤ Word.max := by
  rw [reading] at h
  split at h
  · cases h
  · split at h
    · cases h
    · split at h
      · rename_i hfits
        obtain rfl := Option.some.inj (Except.ok.inj h)
        exact hfits
      · cases h

end Json

end TokenSpans
