import TokenSpans.Json.Scalar
import TokenSpans.Text.Numeric
import TokenSpans.Word

/-!
# Numerals

A numeral has a sign, a whole part without needless zeros, and may have a fraction and an exponent.
It stands for a natural number if it is plain digits and fits a word of 64 bits. All others stand
for numbers of other kinds, as long as double precision has room for them.

The range of double precision is decided on natural numbers: `roundDouble` rounds a natural
number to 53 binary digits, and the comparison is with the power of two at which double
precision ends. No floating-point number occurs. Numerals with a fraction or an exponent are
never natural numbers, even if their value is one, and a numeral with too many digits is a
number of another kind and no error.

Reading goes part by part, and each part leaves the text behind it to the next. A part that
has to have a digit and finds none fails at once, so nothing is ever read twice.
-/

namespace TokenSpans.Json

/-- The value of a digit. -/
def digitValue (c : Char) : Nat :=
  c.toNat - '0'.toNat

/-- The number that a list of digits stands for. -/
def ofDigits (ds : List Char) : Nat :=
  ds.foldl (fun n d => 10 * n + digitValue d) 0

/-- The parts of a numeral. -/
structure Numeral where
  /-- Whether it begins with a minus sign. -/
  negative : Bool
  /-- The digits before the point, of which there is one at least. -/
  whole : List Char
  /-- The digits after the point; empty if there is no point. -/
  fraction : List Char
  /-- The exponent with its sign; none if there is no letter for it. -/
  exponent : Option Int

/-- The nearest number with 53 binary digits, ties going to the even one. -/
def roundDouble (n : Nat) : Nat :=
  let unit := Nat.pow 2 (n.log2 - 52)
  let down := n / unit
  let rest := n % unit
  if 2 * rest < unit ∨ (2 * rest = unit ∧ down % 2 = 0) then down * unit else (down + 1) * unit

/-- Takes digits on as long as the number fits a word; also the digits that do not fit. What
does not fit is counted later, as a power of ten. -/
def gather : Nat → List Char → Nat × List Char
  | n, [] => (n, [])
  | n, d :: rest =>
    let next := 10 * n + digitValue d
    if next ≤ Word.max then gather next rest else (n, d :: rest)

/--
Whether a numeral is beyond the range of double precision. The digits that fit a word are scaled by
the power of ten that the others and the exponent make, in the arithmetic of double precision.
-/
def Numeral.tooLarge (n : Numeral) : Bool :=
  let whole := gather 0 n.whole
  let all := gather whole.1 n.fraction
  let scale : Int :=
    whole.2.length - (n.fraction.length - all.2.length : Nat) + n.exponent.getD 0
  match scale with
  | .ofNat e =>
    all.1 != 0 &&
      (308 < e || Nat.pow 2 1024 ≤ roundDouble (roundDouble all.1 * roundDouble (Nat.pow 10 e)))
  | .negSucc _ => false

/-- What a numeral stands for: a natural number that fits a word, or some other number. The
order of the tests matters only for the first: a numeral beyond all range has no value of
any kind. -/
def Numeral.reading (n : Numeral) : Except Defect (Option Nat) :=
  if n.tooLarge then .error .malformed
  else if n.negative || !n.fraction.isEmpty || n.exponent.isSome then .ok none
  else if ofDigits n.whole ≤ Word.max then .ok (some (ofDigits n.whole))
  else .ok none

/-- The digits at the beginning of a text, and what follows. -/
def spanDigits (s : List Char) : List Char × List Char :=
  (s.takeWhile Text.isDigit, s.dropWhile Text.isDigit)

/-- The digits at the beginning of a text; there has to be one. Where there is none, the end
of the text is told from another character. -/
def someDigits (s : List Char) : Except Defect (List Char × List Char) :=
  match spanDigits s with
  | ([], []) => .error .cut
  | ([], _ :: _) => .error .malformed
  | found => .ok found

/-- The whole part: one digit or more, and no zero before other digits. -/
def readWhole (s : List Char) : Except Defect (List Char × List Char) := do
  let (digits, rest) ← someDigits s
  match digits with
  | '0' :: _ :: _ => .error .malformed
  | _ => .ok (digits, rest)

/-- The fraction, if there is one: a point and one digit or more. -/
def readFraction : List Char → Except Defect (List Char × List Char)
  | '.' :: rest => someDigits rest
  | s => .ok ([], s)

/-- The exponent, if there is one: a letter, a sign that may be missing, one digit or more. -/
def readExponent (s : List Char) : Except Defect (Option Int × List Char) :=
  match s with
  | c :: rest =>
    if c = 'e' ∨ c = 'E' then do
      let signed : Bool × List Char :=
        match rest with
        | '+' :: after => (false, after)
        | '-' :: after => (true, after)
        | _ => (false, rest)
      let (digits, after) ← someDigits signed.2
      let n : Int := ofDigits digits
      .ok (some (if signed.1 then -n else n), after)
    else .ok (none, s)
  | [] => .ok (none, [])

/-- Reads a numeral. -/
def readNumeral (s : List Char) : Except Defect (Numeral × List Char) := do
  let (negative, s) : Bool × List Char :=
    match s with
    | '-' :: rest => (true, rest)
    | _ => (false, s)
  let (whole, s) ← readWhole s
  let (fraction, s) ← readFraction s
  let (exponent, s) ← readExponent s
  .ok (⟨negative, whole, fraction, exponent⟩, s)

/-! ## A numeral takes at least one character

One lemma for each part: a part that may be missing leaves no more than there was, and one
that has to be there leaves less. The whole part has to be there, so the numeral as a whole
leaves less, and this is all that the recursion over lexemes needs to know. -/

theorem someDigits_length {s digits rest : List Char} (h : someDigits s = .ok (digits, rest)) :
    rest.length < s.length := by
  have hsplit : (spanDigits s).1 ++ (spanDigits s).2 = s := List.takeWhile_append_dropWhile
  simp only [someDigits] at h
  split at h
  · simp at h
  · simp at h
  · rename_i hcut hstray
    simp only [Except.ok.injEq] at h
    rw [h] at hcut hstray hsplit
    have hlen := congrArg List.length hsplit
    simp only [List.length_append] at hlen
    cases digits with
    | nil =>
      cases rest with
      | nil => exact absurd rfl hcut
      | cons c more => exact absurd rfl (hstray c more)
    | cons d ds =>
      simp only [List.length_cons] at hlen
      omega

theorem readWhole_length {s digits rest : List Char} (h : readWhole s = .ok (digits, rest)) :
    rest.length < s.length := by
  simp only [readWhole, bind, Except.bind] at h
  split at h
  · simp at h
  · rename_i found hfound
    split at h
    · simp at h
    · simp only [Except.ok.injEq, Prod.mk.injEq] at h
      rw [← h.2]
      exact someDigits_length hfound

theorem readFraction_length {s digits rest : List Char}
    (h : readFraction s = .ok (digits, rest)) : rest.length ≤ s.length := by
  simp only [readFraction] at h
  split at h
  · have := someDigits_length h
    simp only [List.length_cons]
    omega
  · simp only [Except.ok.injEq, Prod.mk.injEq] at h
    exact Nat.le_of_eq (congrArg List.length h.2.symm)

theorem readExponent_length {s rest : List Char} {e : Option Int}
    (h : readExponent s = .ok (e, rest)) : rest.length ≤ s.length := by
  simp only [readExponent] at h
  split at h
  · rename_i c after
    split at h
    · simp only [bind, Except.bind] at h
      split at h
      · simp at h
      · rename_i found hfound
        have hlen := someDigits_length hfound
        simp only [Except.ok.injEq, Prod.mk.injEq] at h
        rw [← h.2]
        simp only [List.length_cons]
        split at hlen <;> simp only [List.length_cons] at * <;> omega
    · simp only [Except.ok.injEq, Prod.mk.injEq] at h
      exact Nat.le_of_eq (congrArg List.length h.2.symm)
  · simp only [Except.ok.injEq, Prod.mk.injEq] at h
    exact Nat.le_of_eq (congrArg List.length h.2.symm)

theorem readNumeral_length {s rest : List Char} {n : Numeral}
    (h : readNumeral s = .ok (n, rest)) : rest.length < s.length := by
  simp only [readNumeral, bind, Except.bind] at h
  split at h
  · simp at h
  · rename_i whole hwhole
    split at h
    · simp at h
    · rename_i fraction hfraction
      split at h
      · simp at h
      · rename_i exponent hexponent
        simp only [Except.ok.injEq, Prod.mk.injEq] at h
        have h1 := readWhole_length hwhole
        have h2 := readFraction_length hfraction
        have h3 := readExponent_length hexponent
        rw [← h.2]
        split at h1 <;> simp only [List.length_cons] at * <;> omega

end TokenSpans.Json
