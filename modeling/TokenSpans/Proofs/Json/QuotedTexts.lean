import TokenSpans.Json.QuotedText
import TokenSpans.Json.Value

/-!
# Quoted texts

A quoted text of the grammar is made of pieces. It is passed over piece by piece (`skipText_pieces`)
and read as the same characters whatever comes after it, or has the same defect
(`exists_readText_pieces`).

Inside a written text every character stands as itself or is escaped, by a letter or by its number
(`Escaped`). Each of these forms is read as the one character and passed over as a whole, so a
written text is read as it was (`readText_written`), whatever its characters are.

The two functions differ in what they make of halves of surrogate pairs: one that stands
alone is passed over and cannot be read. So nothing is said about what the second
function yields, except that it is the same in front of every text; with what it yields for
the texts that are written it is known completely.

Pieces are the unit of the proofs, as the functions recurse by pieces. The exception is the
pair: it is two pieces of the grammar and one character of the text.
-/

namespace TokenSpans.Json

/-- The digits of a number below sixteen are read as that number. -/
theorem hexValue?_digitChar {n : Nat} (h : n < 16) : hexValue? (Nat.digitChar n) = some n := by
  have hall : ∀ n < 16, hexValue? (Nat.digitChar n) = some n := by decide
  exact hall n h

/-- Four hexadecimal digits are read as the number of which they are the digits. -/
theorem readHex_digitChar {n : Nat} (h : n < 256) (s : List Char) :
    readHex ('0' :: '0' :: Nat.digitChar (n / 16) :: Nat.digitChar (n % 16) :: s) =
      .ok (n, s) := by
  have hlength : ¬ Text.byteLength
      (('0' :: '0' :: Nat.digitChar (n / 16) :: Nat.digitChar (n % 16) :: s).take 4) < 4 := by
    have hhigh := Char.utf8Size_pos (Nat.digitChar (n / 16))
    have hlow := Char.utf8Size_pos (Nat.digitChar (n % 16))
    have hzero : Char.utf8Size '0' = 1 := rfl
    simp only [List.take_succ_cons, List.take_zero, Text.byteLength, hzero]
    omega
  have hzero : hexValue? '0' = some 0 := rfl
  have hnumber : ((0 * 16 + 0) * 16 + n / 16) * 16 + n % 16 = n := by omega
  rw [readHex, if_neg hlength, hzero, hexValue?_digitChar (by omega),
    hexValue?_digitChar (by omega)]
  exact congrArg (fun n => Except.ok (n, s)) hnumber

/-! ## The grammar of quoted texts

A piece is a plain character, a backslash with one of eight letters, or a backslash with a
number. Every lemma about a piece has the text after it as a parameter. For reading, the
cases of the pair have to be told apart: a first half needs a second one at once, and what
is found there decides whether there is a character at all (`readLowHalf_pieces`,
`readUnit_pieces`). -/

/-- A hexadecimal digit of either case. -/
def IsHex (c : Char) : Prop :=
  Text.isDigit c = true ∨ ('a' ≤ c ∧ c ≤ 'f') ∨ ('A' ≤ c ∧ c ≤ 'F')

/-- A piece of a quoted text: a character as it is, or an escape by a letter or by a number. -/
inductive IsPiece : List Char → Prop
  | plain {c : Char} (quote : c ≠ '"') (backslash : c ≠ '\\') (large : ¬ c.toNat < 0x20) :
      IsPiece [c]
  | letter {e : Char} (h : e ∈ ['"', '\\', '/', 'b', 'f', 'n', 'r', 't']) : IsPiece ['\\', e]
  | unit {a b c d : Char} (ha : IsHex a) (hb : IsHex b) (hc : IsHex c) (hd : IsHex d) :
      IsPiece ['\\', 'u', a, b, c, d]

/-- Pieces between quotes. The halves of surrogate pairs may stand alone. -/
def IsQuoted (s : List Char) : Prop :=
  ∃ pieces : List (List Char), (∀ p ∈ pieces, IsPiece p) ∧ s = '"' :: (pieces.flatten ++ ['"'])

/-- A hexadecimal digit has a value. -/
theorem IsHex.exists_value {c : Char} (h : IsHex c) : ∃ n, hexValue? c = some n := by
  rw [hexValue?]
  split
  · exact ⟨_, rfl⟩
  rename_i hdigit
  split
  · exact ⟨_, rfl⟩
  rename_i hsmall
  split
  · exact ⟨_, rfl⟩
  rename_i hcapital
  rcases h with h | h | h
  · exact absurd h hdigit
  · exact absurd h hsmall
  · exact absurd h hcapital

/-- Four hexadecimal digits are read as a number, whatever comes after them. -/
theorem exists_readHex {a b c d : Char} (ha : IsHex a) (hb : IsHex b) (hc : IsHex c)
    (hd : IsHex d) : ∃ n, ∀ s, readHex (a :: b :: c :: d :: s) = .ok (n, s) := by
  obtain ⟨va, hva⟩ := ha.exists_value
  obtain ⟨vb, hvb⟩ := hb.exists_value
  obtain ⟨vc, hvc⟩ := hc.exists_value
  obtain ⟨vd, hvd⟩ := hd.exists_value
  refine ⟨((va * 16 + vb) * 16 + vc) * 16 + vd, fun s => ?_⟩
  have hlength : ¬ Text.byteLength ((a :: b :: c :: d :: s).take 4) < 4 := by
    have := Char.utf8Size_pos a
    have := Char.utf8Size_pos b
    have := Char.utf8Size_pos c
    have := Char.utf8Size_pos d
    simp only [List.take_succ_cons, List.take_zero, Text.byteLength]
    omega
  rw [readHex, if_neg hlength, hva, hvb, hvc, hvd]

/-- Each of the eight letters stands for a character, and none is the one of the escapes by
number. -/
theorem exists_simpleEscape? {e : Char} (h : e ∈ ['"', '\\', '/', 'b', 'f', 'n', 'r', 't']) :
    e ≠ 'u' ∧ ∃ c, simpleEscape? e = some c := by
  simp only [List.mem_cons, List.not_mem_nil, or_false] at h
  rcases h with rfl | rfl | rfl | rfl | rfl | rfl | rfl | rfl
  all_goals
    exact ⟨by decide, _, rfl⟩

/-- A piece is passed over as a whole. -/
theorem IsPiece.skipText_append {p : List Char} (h : IsPiece p) (s : List Char) :
    skipText (p ++ s) = skipText s := by
  cases h with
  | plain quote backslash large =>
    rw [List.singleton_append, skipText.eq_def]
    dsimp only
    rw [if_neg quote, if_neg backslash, if_neg large]
  | letter h =>
    obtain ⟨hunit, c, hc⟩ := exists_simpleEscape? h
    rw [List.cons_append, List.singleton_append, skipText.eq_def]
    dsimp only
    rw [if_neg (by decide), if_pos rfl, if_neg hunit, hc]
    rfl
  | unit ha hb hc hd =>
    obtain ⟨n, hn⟩ := exists_readHex ha hb hc hd
    rw [List.cons_append, List.cons_append, skipText.eq_def]
    dsimp only
    rw [if_neg (by decide), if_pos rfl, if_pos rfl]
    split
    · rename_i hdefect
      cases hdefect.symm.trans (hn s)
    · rename_i hfound
      rw [(Prod.mk.inj (Except.ok.inj (hfound.symm.trans (hn s)))).2]

/-- Pieces are passed over up to the quote behind them. -/
theorem skipText_pieces {pieces : List (List Char)} (h : ∀ p ∈ pieces, IsPiece p)
    (s : List Char) : skipText (pieces.flatten ++ '"' :: s) = .ok s := by
  induction pieces with
  | nil =>
    rw [List.flatten_nil, List.nil_append, skipText.eq_def]
    exact if_pos rfl
  | cons p rest ih =>
    obtain ⟨hp, hrest⟩ := List.forall_mem_cons.mp h
    rw [List.flatten_cons, List.append_assoc, hp.skipText_append]
    exact ih hrest

section

variable {pieces : List (List Char)}

/-- The second half of a surrogate pair is one piece, or is missing whatever comes after the text.
-/
theorem readLowHalf_pieces (h : ∀ p ∈ pieces, IsPiece p) :
    (∃ d, ∀ s, readLowHalf (pieces.flatten ++ '"' :: s) = .error d) ∨
      ∃ low p rest, pieces = p :: rest ∧
        ∀ s, readLowHalf (pieces.flatten ++ '"' :: s) = .ok (low, rest.flatten ++ '"' :: s) := by
  cases pieces with
  | nil => exact .inl ⟨.malformed, fun s => rfl⟩
  | cons p rest =>
    cases h p List.mem_cons_self with
    | @plain c quote backslash large =>
      refine .inl ⟨.malformed, fun s => ?_⟩
      rw [List.flatten_cons, List.append_assoc, List.singleton_append, readLowHalf]
      · exact List.cons_ne_nil _ _
      · exact fun hcut => backslash (List.cons.inj hcut).1
      · exact fun after hunit => backslash (List.cons.inj hunit).1
    | @letter e he =>
      refine .inl ⟨.malformed, fun s => ?_⟩
      rw [List.flatten_cons, List.append_assoc, List.cons_append, List.singleton_append,
        readLowHalf]
      · exact List.cons_ne_nil _ _
      · exact fun hcut => List.cons_ne_nil _ _ (List.cons.inj hcut).2
      · exact fun after hunit =>
          (exists_simpleEscape? he).1 (List.cons.inj (List.cons.inj hunit).2).1
    | unit ha hb hc hd =>
      obtain ⟨low, hlow⟩ := exists_readHex ha hb hc hd
      -- a number follows, and it is a second half or not
      by_cases hrange : 0xDC00 ≤ low ∧ low ≤ 0xDFFF
      · refine .inr ⟨low, _, rest, rfl, fun s => ?_⟩
        rw [List.flatten_cons, List.append_assoc, List.cons_append, List.cons_append, readLowHalf]
        have hread := hlow (rest.flatten ++ '"' :: s)
        simp only [List.cons_append, List.nil_append, hread, bind, Except.bind]
        exact if_pos hrange
      · refine .inl ⟨.malformed, fun s => ?_⟩
        rw [List.flatten_cons, List.append_assoc, List.cons_append, List.cons_append, readLowHalf]
        have hread := hlow (rest.flatten ++ '"' :: s)
        simp only [List.cons_append, List.nil_append, hread, bind, Except.bind]
        exact if_neg hrange

/-- What follows a backslash and the letter u is one character, of this piece or of two, or is none
whatever comes after the text. -/
theorem readUnit_pieces {a b c d : Char} (ha : IsHex a) (hb : IsHex b) (hc : IsHex c)
    (hd : IsHex d) (h : ∀ p ∈ pieces, IsPiece p) :
    (∃ e, ∀ s, readUnit (a :: b :: c :: d :: (pieces.flatten ++ '"' :: s)) = .error e) ∨
      ∃ unit rest, rest <:+ pieces ∧
        ∀ s, readUnit (a :: b :: c :: d :: (pieces.flatten ++ '"' :: s)) =
          .ok (unit, rest.flatten ++ '"' :: s) := by
  obtain ⟨high, hhigh⟩ := exists_readHex ha hb hc hd
  -- a second half comes first
  by_cases hsecond : 0xDC00 ≤ high ∧ high ≤ 0xDFFF
  · refine .inl ⟨.malformed, fun s => ?_⟩
    rw [readUnit, hhigh]
    exact if_pos hsecond
  -- a first half needs a second one, and any other number is a character
  by_cases hfirst : 0xD800 ≤ high ∧ high ≤ 0xDBFF
  · rcases readLowHalf_pieces h with ⟨e, he⟩ | ⟨low, p, rest, rfl, hlow⟩
    · refine .inl ⟨e, fun s => ?_⟩
      rw [readUnit, hhigh]
      dsimp only [bind, Except.bind]
      rw [if_neg hsecond, if_pos hfirst, he s]
    · refine .inr ⟨Char.ofNat (0x10000 + (high - 0xD800) * 0x400 + (low - 0xDC00)), rest,
        List.suffix_cons p rest, fun s => ?_⟩
      rw [readUnit, hhigh]
      dsimp only [bind, Except.bind]
      rw [if_neg hsecond, if_pos hfirst, hlow s]
  · refine .inr ⟨Char.ofNat high, pieces, List.suffix_rfl, fun s => ?_⟩
    rw [readUnit, hhigh]
    dsimp only [bind, Except.bind]
    rw [if_neg hsecond, if_neg hfirst]

/-- **A quoted text is read as the same whatever comes after it**, or has the same defect. The
induction is on the number of pieces, since a surrogate pair takes two at once. -/
theorem exists_readText_pieces {pieces : List (List Char)} (h : ∀ p ∈ pieces, IsPiece p) :
    ∃ r : Except Defect (List Char),
      ∀ s, readText (pieces.flatten ++ '"' :: s) = r.map fun chars => (chars, s) := by
  cases pieces with
  | nil =>
    refine ⟨.ok [], fun s => ?_⟩
    rw [List.flatten_nil, List.nil_append, readText.eq_def]
    exact if_pos rfl
  | cons p rest =>
    obtain ⟨hp, hrest⟩ := List.forall_mem_cons.mp h
    cases hp with
    | @plain c quote backslash large =>
      obtain ⟨r, hr⟩ := exists_readText_pieces hrest
      refine ⟨r.map (c :: ·), fun s => ?_⟩
      rw [List.flatten_cons, List.append_assoc, List.singleton_append, readText.eq_def]
      dsimp only
      rw [if_neg quote, if_neg backslash, if_neg large, hr s]
      cases r <;> rfl
    | @letter e he =>
      obtain ⟨hunit, c, hc⟩ := exists_simpleEscape? he
      obtain ⟨r, hr⟩ := exists_readText_pieces hrest
      refine ⟨r.map (c :: ·), fun s => ?_⟩
      rw [List.flatten_cons, List.append_assoc, List.cons_append, List.singleton_append,
        readText.eq_def]
      dsimp only
      rw [if_neg (by decide), if_pos rfl, if_neg hunit, hc, hr s]
      cases r <;> rfl
    | @unit a b c d ha hb hc hd =>
      rcases readUnit_pieces ha hb hc hd hrest with ⟨e, he⟩ | ⟨char, left, hsuffix, hchar⟩
      · refine ⟨.error e, fun s => ?_⟩
        rw [List.flatten_cons, List.append_assoc, List.cons_append, List.cons_append,
          readText.eq_def]
        dsimp only
        rw [if_neg (by decide), if_pos rfl, if_pos rfl]
        split
        · rename_i hdefect
          rw [Except.error.inj (hdefect.symm.trans (he s))]
          rfl
        · rename_i hfound
          cases hfound.symm.trans (he s)
      · -- one piece or two have been taken, and the rest is shorter either way
        have hshorter := hsuffix.length_le
        obtain ⟨r, hr⟩ := exists_readText_pieces fun p hp => hrest p (hsuffix.subset hp)
        refine ⟨r.map (char :: ·), fun s => ?_⟩
        rw [List.flatten_cons, List.append_assoc, List.cons_append, List.cons_append,
          readText.eq_def]
        dsimp only
        rw [if_neg (by decide), if_pos rfl, if_pos rfl]
        split
        · rename_i hdefect
          cases hdefect.symm.trans (hchar s)
        · rename_i hfound
          obtain ⟨rfl, rfl⟩ := Prod.mk.inj (Except.ok.inj (hfound.symm.trans (hchar s)))
          rw [hr s]
          cases r <;> rfl
termination_by pieces.length
decreasing_by
  all_goals subst_vars; simp only [List.length_cons]; omega

end

/-! ## Written texts

Every character is written in one of three ways, and `Escaped` names them without saying
which one it is for which character: whichever it is, it is read as the character. That the
writer uses one of the three is shown by going through its cases once
(`escaped_escapeChar`). -/

/-- The digits of a number below sixteen are hexadecimal. -/
theorem isHex_digitChar {n : Nat} (h : n < 16) : IsHex (Nat.digitChar n) := by
  have hall : ∀ n < 16, Text.isDigit (Nat.digitChar n) = true ∨
      ('a' ≤ Nat.digitChar n ∧ Nat.digitChar n ≤ 'f') := by decide
  exact (hall n h).imp id .inl

/-- Only the eight letters stand for something. -/
theorem mem_of_simpleEscape? {e c : Char} (h : simpleEscape? e = some c) :
    e ∈ ['"', '\\', '/', 'b', 'f', 'n', 'r', 't'] := by
  refine Decidable.byContradiction fun hmem => ?_
  simp only [List.mem_cons, List.not_mem_nil, or_false, not_or] at hmem
  simp only [simpleEscape?, hmem, if_false] at h
  cases h

/-- How a character may stand in a written text. -/
inductive Escaped (c : Char) : List Char → Prop
  /-- by a letter that stands for it -/
  | letter {e : Char} (notUnit : e ≠ 'u') (stands : simpleEscape? e = some c) : Escaped c ['\\', e]
  /-- by its number, which has two digits -/
  | unit (small : c.toNat < 0x20) :
      Escaped c
        ['\\', 'u', '0', '0', Nat.digitChar (c.toNat / 16), Nat.digitChar (c.toNat % 16)]
  /-- as it is -/
  | plain (quote : c ≠ '"') (backslash : c ≠ '\\') (large : ¬ c.toNat < 0x20) : Escaped c [c]

/-- A letter that stands for an equal character. -/
theorem Escaped.of_eq {c d e : Char} (h : c = d) (notUnit : e ≠ 'u')
    (stands : simpleEscape? e = some d) : Escaped c ['\\', e] :=
  .letter notUnit (h ▸ stands)

/-- **Every character is written in one of these ways.** -/
theorem escaped_escapeChar (c : Char) : Escaped c (escapeChar c) := by
  rw [escapeChar]
  split
  · rename_i h
    exact .of_eq h (by decide) rfl
  rename_i hquote
  split
  · rename_i h
    exact .of_eq h (by decide) rfl
  rename_i hbackslash
  split
  · rename_i h
    exact .of_eq h (by decide) rfl
  split
  · rename_i h
    exact .of_eq h (by decide) rfl
  split
  · rename_i h
    exact .of_eq h (by decide) rfl
  split
  · rename_i h
    exact .of_eq h (by decide) rfl
  split
  · rename_i h
    exact .of_eq h (by decide) rfl
  split
  · rename_i hsmall
    exact .unit hsmall
  · rename_i hlarge
    exact .plain hquote hbackslash hlarge

namespace Escaped

variable {c : Char} {written : List Char}

/-- A character is read as it was before it was written. -/
theorem readText_append (h : Escaped c written) {s chars rest : List Char}
    (hs : readText s = .ok (chars, rest)) : readText (written ++ s) = .ok (c :: chars, rest) := by
  cases h with
  | letter notUnit stands =>
    rw [List.cons_append, List.singleton_append, readText.eq_def]
    dsimp only
    rw [if_neg (by decide), if_pos rfl, if_neg notUnit, stands, hs]
    rfl
  | unit small =>
    have hunit : readUnit ('0' :: '0' :: Nat.digitChar (c.toNat / 16) ::
        Nat.digitChar (c.toNat % 16) :: s) = .ok (c, s) := by
      rw [readUnit, readHex_digitChar (by omega)]
      dsimp only [bind, Except.bind]
      rw [if_neg (by omega), if_neg (by omega), Char.ofNat_toNat]
    rw [List.cons_append, List.cons_append, readText.eq_def]
    dsimp only
    rw [if_neg (by decide), if_pos rfl, if_pos rfl]
    split
    · rename_i hdefect
      cases hdefect.symm.trans hunit
    · rename_i hfound
      obtain ⟨rfl, rfl⟩ := Prod.mk.inj (Except.ok.inj (hfound.symm.trans hunit))
      rw [hs]
      rfl
  | plain quote backslash large =>
    rw [List.singleton_append, readText.eq_def]
    dsimp only
    rw [if_neg quote, if_neg backslash, if_neg large, hs]
    rfl

/-- Each of these ways is one piece. -/
theorem isPiece (h : Escaped c written) : IsPiece written := by
  cases h with
  | letter _ stands => exact .letter (mem_of_simpleEscape? stands)
  | unit small =>
    have hzero : IsHex '0' := .inl rfl
    exact .unit hzero hzero (isHex_digitChar (by omega)) (isHex_digitChar (by omega))
  | plain quote backslash large => exact .plain quote backslash large

end Escaped

/-- A written text is read as it was. -/
theorem readText_written (text rest : List Char) :
    readText (text.flatMap escapeChar ++ '"' :: rest) = .ok (text, rest) := by
  induction text with
  | nil =>
    rw [List.flatMap_nil, List.nil_append, readText.eq_def]
    exact if_pos rfl
  | cons c text ih =>
    rw [List.flatMap_cons, List.append_assoc]
    exact (escaped_escapeChar c).readText_append ih

/-- A written text is made of pieces. -/
theorem isPiece_of_mem_escaped {text p : List Char} (h : p ∈ text.map escapeChar) : IsPiece p := by
  obtain ⟨c, -, rfl⟩ := List.mem_map.mp h
  exact (escaped_escapeChar c).isPiece

/-- A written text is passed over up to its closing quote. -/
theorem skipText_written (text rest : List Char) :
    skipText (text.flatMap escapeChar ++ '"' :: rest) = .ok rest :=
  skipText_pieces (fun _ hp => isPiece_of_mem_escaped hp) rest

/-- A written text with its quotes is one of the grammar. -/
theorem isQuoted_writeText (s : String) : IsQuoted (writeText s) :=
  ⟨s.toList.map escapeChar, fun _ hp => isPiece_of_mem_escaped hp, rfl⟩

end TokenSpans.Json
