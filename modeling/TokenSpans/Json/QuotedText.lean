import TokenSpans.Json.Numeral
import TokenSpans.Text.Bytes

/-!
# Quoted texts

A quoted text ends at the first quote that no backslash precedes. Characters below the space stand
in it only as escapes. An escape by number gives one unit of sixteen bits; two of them, the halves
of a surrogate pair, may make one character, and a half alone makes none.

There are two functions for one form. `readText` yields the characters and fails where an
escape stands for none; `skipText` only looks for the end and takes any four digits behind a
`u`. Whatever can be read can be passed over, and with the same rest;
`Proofs/Json/QuotedTexts.lean` proves it of every quoted text of the grammar.
-/

namespace TokenSpans.Json

/-! ## Escapes

An escape by number has four digits, and the text may be cut within them. Each scanner
returns what is left of the text, and beside it stands a lemma that this is shorter, for the
recursions further down. -/

/-- The value of a hexadecimal digit of either case. -/
def hexValue? (c : Char) : Option Nat :=
  if Text.isDigit c then some (digitValue c)
  else if 'a' ≤ c ∧ c ≤ 'f' then some (c.toNat - 'a'.toNat + 10)
  else if 'A' ≤ c ∧ c ≤ 'F' then some (c.toNat - 'A'.toNat + 10)
  else none

/-- Four hexadecimal digits. Fewer than four bytes mean that the text is cut: bytes and not
characters are counted, so three wide characters are malformed and not cut. -/
def readHex (s : List Char) : Except Defect (Nat × List Char) :=
  if Text.byteLength (s.take 4) < 4 then .error .cut
  else
    match s with
    | a :: b :: c :: d :: rest =>
      match hexValue? a, hexValue? b, hexValue? c, hexValue? d with
      | some a, some b, some c, some d => .ok (((a * 16 + b) * 16 + c) * 16 + d, rest)
      | _, _, _, _ => .error .malformed
    | _ => .error .malformed

/-- Four digits leave less than there was. -/
theorem readHex_length {s rest : List Char} {n : Nat} (h : readHex s = .ok (n, rest)) :
    rest.length < s.length := by
  simp only [readHex] at h
  split at h
  · simp at h
  · split at h
    · split at h
      · simp only [Except.ok.injEq, Prod.mk.injEq] at h
        rw [← h.2]
        simp only [List.length_cons]
        omega
      · simp at h
    · simp at h

/-- The character that a letter stands for after a backslash. -/
def simpleEscape? (c : Char) : Option Char :=
  if c = '"' then some '"'
  else if c = '\\' then some '\\'
  else if c = '/' then some '/'
  else if c = 'b' then some '\x08'
  else if c = 'f' then some '\x0c'
  else if c = 'n' then some '\n'
  else if c = 'r' then some '\r'
  else if c = 't' then some '\t'
  else none

/-- The second half of a surrogate pair, which has to follow the first one at once. -/
def readLowHalf (s : List Char) : Except Defect (Nat × List Char) :=
  match s with
  | [] => .error .cut
  | '\\' :: [] => .error .cut
  | '\\' :: 'u' :: rest => do
    let (low, rest) ← readHex rest
    if 0xDC00 ≤ low ∧ low ≤ 0xDFFF then .ok (low, rest) else .error .malformed
  | _ => .error .malformed

/-- What follows the letter u after a backslash: one unit, or the two halves of a pair. A
second half without a first one is no character. -/
def readUnit (s : List Char) : Except Defect (Char × List Char) := do
  let (high, rest) ← readHex s
  if 0xDC00 ≤ high ∧ high ≤ 0xDFFF then .error .malformed
  else if 0xD800 ≤ high ∧ high ≤ 0xDBFF then
    let (low, rest) ← readLowHalf rest
    .ok (Char.ofNat (0x10000 + (high - 0xD800) * 0x400 + (low - 0xDC00)), rest)
  else .ok (Char.ofNat high, rest)

/-- The second half leaves less than there was. -/
theorem readLowHalf_length {s rest : List Char} {n : Nat} (h : readLowHalf s = .ok (n, rest)) :
    rest.length < s.length := by
  simp only [readLowHalf] at h
  split at h
  · simp at h
  · simp at h
  · rename_i after
    cases hhex : readHex after with
    | error d => simp [hhex, bind, Except.bind] at h
    | ok found =>
      obtain ⟨low, left⟩ := found
      have hlen := readHex_length hhex
      simp only [hhex, bind, Except.bind] at h
      split at h
      · simp only [Except.ok.injEq, Prod.mk.injEq] at h
        rw [← h.2]
        simp only [List.length_cons]
        omega
      · simp at h
  · simp at h

/-- One unit, or two, leave less than there was. -/
theorem readUnit_length {s rest : List Char} {c : Char} (h : readUnit s = .ok (c, rest)) :
    rest.length < s.length := by
  simp only [readUnit] at h
  cases hhex : readHex s with
  | error d => simp [hhex, bind, Except.bind] at h
  | ok found =>
    obtain ⟨high, left⟩ := found
    have hlen := readHex_length hhex
    simp only [hhex, bind, Except.bind] at h
    split at h
    · simp at h
    · split at h
      · cases hlow : readLowHalf left with
        | error d => simp [hlow] at h
        | ok pair =>
          obtain ⟨low, after⟩ := pair
          have hlow' := readLowHalf_length hlow
          simp only [hlow, Except.ok.injEq, Prod.mk.injEq] at h
          rw [← h.2]
          omega
      · simp only [Except.ok.injEq, Prod.mk.injEq] at h
        rw [← h.2]
        exact hlen

/-! ## Quoted texts

Both functions go from escape to escape and end at the quote. A character below the space is
an error in either of them. -/

/-- Reads a quoted text whose opening quote is there. -/
def readText : List Char → Except Defect (List Char × List Char)
  | [] => .error .cut
  | c :: rest =>
    if c = '"' then .ok ([], rest)
    else if c = '\\' then
      match rest with
      | [] => .error .cut
      | e :: after =>
        if e = 'u' then
          match _h : readUnit after with
          | .error d => .error d
          | .ok (unit, left) => do
            let (chars, last) ← readText left
            .ok (unit :: chars, last)
        else
          match simpleEscape? e with
          | none => .error .malformed
          | some char => do
            let (chars, last) ← readText after
            .ok (char :: chars, last)
    else if c.toNat < 0x20 then .error .malformed
    else do
      let (chars, last) ← readText rest
      .ok (c :: chars, last)
termination_by s => s.length
decreasing_by
  · have := readUnit_length _h
    simp only [List.length_cons]
    omega
  · simp only [List.length_cons]
    omega
  · simp

/-- Passes over a quoted text whose opening quote is there: any four digits may follow a u. -/
def skipText : List Char → Except Defect (List Char)
  | [] => .error .cut
  | c :: rest =>
    if c = '"' then .ok rest
    else if c = '\\' then
      match rest with
      | [] => .error .cut
      | e :: after =>
        if e = 'u' then
          match _h : readHex after with
          | .error d => .error d
          | .ok (_, left) => skipText left
        else if (simpleEscape? e).isSome then skipText after
        else .error .malformed
    else if c.toNat < 0x20 then .error .malformed
    else skipText rest
termination_by s => s.length
decreasing_by
  · have := readHex_length _h
    simp only [List.length_cons]
    omega
  · simp only [List.length_cons]
    omega
  · simp

/-- Passing over a quoted text takes at least its closing quote. The cases are those of the
function, and three of them go on with a shorter text. -/
theorem skipText_length {s rest : List Char} (h : skipText s = .ok rest) :
    rest.length < s.length := by
  fun_induction skipText s with
  | case1 => simp at h
  | case2 =>
    simp only [Except.ok.injEq] at h
    simp [h]
  | case3 => simp at h
  | case4 => simp at h
  | case5 =>
    rename_i after n left hhex hquote ih
    have := ih h
    have := readHex_length hhex
    simp only [List.length_cons]
    omega
  | case6 =>
    rename_i ih
    have := ih h
    simp only [List.length_cons]
    omega
  | case7 => simp at h
  | case8 => simp at h
  | case9 =>
    rename_i ih
    have := ih h
    simp only [List.length_cons]
    omega

end TokenSpans.Json
