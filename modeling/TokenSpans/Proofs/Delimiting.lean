import Mathlib.Logic.Function.Basic
import TokenSpans.Proofs.Json.Numerals
import TokenSpans.Proofs.Json.QuotedTexts
import TokenSpans.Text.Quoted

/-!
# Texts that tell where they end

A written form delimits itself if one can tell from a text that begins with it what was written and
what follows. The quoted form of a text does: the quote that closes it is the first one that is not
part of an escape (`selfDelimiting_quoteChars`). Digits end where another character comes, and so
does anything that is made of one class of characters; that holds from either end of a text
(`append_inj_of_head?`, `append_inj_of_getLast?`).

The property is put as a cancellation law, `write a ++ s = write b ++ t → a = b ∧ s = t`,
which is stronger than injectivity: it can be used in the middle of a longer text, and it
composes. Where a form does not delimit itself, such as a number in decimal digits, the law
holds with a condition on what stands next to it, and a longer form is taken apart by going
from one such mark to the next.
-/

namespace TokenSpans.Text

/-! ## Runs of one class

Two decompositions of one text into a run and a rest are compared. They agree if both runs
are in the class and both rests begin outside it, since both are then what `takeWhile` and
`dropWhile` yield. From the end of a text the same is had by reversing. -/

section

variable {p : Char → Bool} {run run' s s' : List Char}

/-- Whole runs at the beginning of one text are the same. -/
theorem append_inj_of_head? (hrun : ∀ d ∈ run, p d = true) (hrun' : ∀ d ∈ run', p d = true)
    (hs : ∀ d ∈ s.head?, p d = false) (hs' : ∀ d ∈ s'.head?, p d = false)
    (h : run ++ s = run' ++ s') : run = run' ∧ s = s' := by
  obtain ⟨htake, hdrop⟩ := takeWhile_append_of_head? hrun hs
  obtain ⟨htake', hdrop'⟩ := takeWhile_append_of_head? hrun' hs'
  rw [h] at htake hdrop
  exact ⟨htake.symm.trans htake', hdrop.symm.trans hdrop'⟩

/-- What ends in a character ends in no other one. -/
theorem forall_getLast?_concat {P : Char → Prop} {c : Char} (hc : P c) (s : List Char) :
    ∀ d ∈ (s ++ [c]).getLast?, P d := by
  intro d hd
  rw [List.getLast?_concat] at hd
  obtain rfl := Option.some.inj hd
  exact hc

/-- Whole runs at the end of one text are the same. -/
theorem append_inj_of_getLast? (hrun : ∀ d ∈ run, p d = true) (hrun' : ∀ d ∈ run', p d = true)
    (hs : ∀ d ∈ s.getLast?, p d = false) (hs' : ∀ d ∈ s'.getLast?, p d = false)
    (h : s ++ run = s' ++ run') : s = s' ∧ run = run' := by
  have hreverse : run.reverse ++ s.reverse = run'.reverse ++ s'.reverse := by
    rw [← List.reverse_append, h, List.reverse_append]
  rw [← List.head?_reverse] at hs hs'
  obtain ⟨hruns, htexts⟩ := append_inj_of_head? (fun d hd => hrun d (List.mem_reverse.mp hd))
    (fun d hd => hrun' d (List.mem_reverse.mp hd)) hs hs' hreverse
  exact ⟨List.reverse_inj.mp htexts, List.reverse_inj.mp hruns⟩

/-- A run ends where the first character of another class stands. -/
theorem append_cons_inj {c : Char} (hrun : ∀ d ∈ run, p d = true) (hrun' : ∀ d ∈ run', p d = true)
    (hc : p c = false) (h : run ++ c :: s = run' ++ c :: s') : run = run' ∧ s = s' := by
  obtain ⟨hruns, htexts⟩ := append_inj_of_head? hrun hrun' (forall_head?_cons hc s)
    (forall_head?_cons hc s') h
  exact ⟨hruns, (List.cons.inj htexts).2⟩

end

/-! ## Numbers and padding

A number in decimal digits can be read back, so its digits determine it; what has to be said
is where they end. Padding is a run of spaces between a text without spaces and whatever
follows. -/

/-- Different numbers have different digits. -/
theorem decimal_inj {m n : Nat} (h : decimal m = decimal n) : m = n := by
  rw [← Json.ofDigits_decimal m, h, Json.ofDigits_decimal]

/-- A number ends where another character than a digit stands. -/
theorem decimal_append_inj {m n : Nat} {c : Char} {s t : List Char} (hc : isDigit c = false)
    (h : decimal m ++ c :: s = decimal n ++ c :: t) : m = n ∧ s = t := by
  obtain ⟨hdigits, hrest⟩ := append_cons_inj (fun _ => isDigit_of_mem_decimal)
    (fun _ => isDigit_of_mem_decimal) hc h
  exact ⟨decimal_inj hdigits, hrest⟩

/-- A number at the end of a text begins behind the last character that is no digit. -/
theorem append_decimal_inj {m n : Nat} {s t : List Char} (hs : ∀ d ∈ s.getLast?, isDigit d = false)
    (ht : ∀ d ∈ t.getLast?, isDigit d = false) (h : s ++ decimal m = t ++ decimal n) :
    s = t ∧ m = n := by
  obtain ⟨hrest, hdigits⟩ := append_inj_of_getLast? (fun _ => isDigit_of_mem_decimal)
    (fun _ => isDigit_of_mem_decimal) hs ht h
  exact ⟨hrest, decimal_inj hdigits⟩

/-- A number at the end of a text begins behind a mark that is no digit. -/
theorem append_cons_decimal_inj {m n : Nat} {c : Char} {s t : List Char} (hc : isDigit c = false)
    (h : s ++ c :: decimal m = t ++ c :: decimal n) : s = t ∧ m = n := by
  rw [List.append_cons, List.append_cons t] at h
  obtain ⟨hrest, hnumber⟩ := append_decimal_inj (forall_getLast?_concat hc s)
    (forall_getLast?_concat hc t) h
  exact ⟨(List.append_left_inj [c]).mp hrest, hnumber⟩

/-- A text without spaces ends where its padding begins. -/
theorem padEnd_append_inj {width : Nat} {s t x y : List Char} (hs : ' ' ∉ s) (ht : ' ' ∉ t)
    (h : padEnd width s ++ ' ' :: x = padEnd width t ++ ' ' :: y) : s = t ∧ x = y := by
  have hne : ∀ {s : List Char}, ' ' ∉ s → ∀ d ∈ s, (d != ' ') = true := by
    rintro s hs d hd
    exact bne_iff_ne.mpr (ne_of_mem_of_not_mem hd hs)
  have hhead : ∀ (count : Nat) (x : List Char),
      ∀ d ∈ (List.replicate count ' ' ++ ' ' :: x).head?, (d != ' ') = false := by
    intro count x
    cases count <;> exact forall_head?_cons (P := fun d => (d != ' ') = false) rfl _
  rw [padEnd, padEnd, List.append_assoc, List.append_assoc] at h
  obtain ⟨rfl, hrest⟩ := append_inj_of_head? (hne hs) (hne ht) (hhead _ x) (hhead _ y) h
  exact ⟨rfl, (List.cons.inj (List.append_cancel_left hrest)).2⟩

/-- The number that hexadecimal digits stand for. -/
def ofHexDigits (digits : List Char) : Nat :=
  digits.foldl (fun n c => 16 * n + (Json.hexValue? c).getD 0) 0

/-- The last one of the digits of a number is that of its remainder. -/
theorem ofHexDigits_hexDigits (n : Nat) : ofHexDigits (hexDigits n) = n := by
  induction n using Nat.strongRecOn with
  | ind n ih =>
    by_cases hlt : n < 16
    · rw [hexDigits, Nat.toDigits_of_lt_base hlt, ofHexDigits, List.foldl_cons, List.foldl_nil,
        Json.hexValue?_digitChar hlt, Option.getD_some]
      omega
    · have hrest := ih (n / 16) (by omega)
      rw [hexDigits, ofHexDigits] at hrest
      rw [hexDigits, Nat.toDigits_of_base_le (by decide) (by omega), ofHexDigits, List.foldl_append,
        hrest, List.foldl_cons, List.foldl_nil, Json.hexValue?_digitChar (by omega),
        Option.getD_some]
      omega

/-- Hexadecimal digits have a value each. -/
theorem isSome_hexValue?_of_mem {n : Nat} {c : Char} (h : c ∈ hexDigits n) :
    (Json.hexValue? c).isSome = true := by
  induction n using Nat.strongRecOn with
  | ind n ih =>
    by_cases hlt : n < 16
    · rw [hexDigits, Nat.toDigits_of_lt_base hlt] at h
      obtain rfl := List.mem_singleton.mp h
      rw [Json.hexValue?_digitChar hlt, Option.isSome_some]
    · rw [hexDigits, Nat.toDigits_of_base_le (by decide) (by omega)] at h
      rcases List.mem_append.mp h with h | h
      · exact ih (n / 16) (by omega) h
      · obtain rfl := List.mem_singleton.mp h
        rw [Json.hexValue?_digitChar (by omega), Option.isSome_some]

/-! ## Forms that delimit themselves

The law for single items gives the law for lists of them, if something marks the end of the
list that no item can begin with. This is the induction over both lists at once that the law
for quoted texts rests on. -/

/-- One can tell what was written, and what follows, whatever follows. -/
def SelfDelimiting {α : Type} (write : α → List Char) : Prop :=
  ∀ ⦃a b : α⦄ ⦃s t : List Char⦄, write a ++ s = write b ++ t → a = b ∧ s = t

namespace SelfDelimiting

variable {α : Type} {write : α → List Char}

/-- What can be told with anything behind it can be told with nothing behind it. -/
theorem injective (h : SelfDelimiting write) : Function.Injective write := by
  intro a b hab
  exact (h (congrArg (· ++ []) hab)).1

/-- Items in a row delimit themselves if each does and a mark comes behind the last that begins
none. -/
theorem flatMap (h : SelfDelimiting write) {close : Char}
    (hclose : ∀ a s t, write a ++ s ≠ close :: t) :
    SelfDelimiting fun items : List α => items.flatMap write ++ [close] := by
  intro items items' s t heq
  simp only [List.append_assoc, List.singleton_append] at heq
  induction items generalizing items' with
  | nil =>
    cases items' with
    | nil => exact ⟨rfl, (List.cons.inj heq).2⟩
    | cons b rest' =>
      rw [List.flatMap_cons, List.append_assoc] at heq
      exact absurd heq.symm (hclose b _ _)
  | cons a rest ih =>
    rw [List.flatMap_cons, List.append_assoc] at heq
    cases items' with
    | nil => exact absurd heq (hclose a _ _)
    | cons b rest' =>
      rw [List.flatMap_cons, List.append_assoc] at heq
      obtain ⟨rfl, hrest⟩ := h heq
      obtain ⟨rfl, hs⟩ := ih hrest
      exact ⟨rfl, hs⟩

end SelfDelimiting

/-! ## Quoted texts

How a character is quoted depends on a chain of tests, of which the last asks a table of
hidden characters. `QuotedAs` forgets the tests and keeps the three forms that may result,
together with what is needed to tell them apart. The table has no part in the proof: it does
not matter which characters are written by number, as long as the quote and the backslash
never stand for themselves. -/

/-- The characters that are written with a backslash and a letter. -/
def letters : List (Char × Char) :=
  [('\t', 't'), ('\r', 'r'), ('\n', 'n'), ('\x00', '0'), ('"', '"'), ('\\', '\\')]

/-- How a character may stand in a quoted text. -/
inductive QuotedAs (c : Char) : List Char → Prop
  /-- behind a backslash, by a letter from the table -/
  | letter {e : Char} (h : (c, e) ∈ letters) : QuotedAs c ['\\', e]
  /-- behind a backslash, by its number in hexadecimal digits between braces -/
  | number : QuotedAs c ('\\' :: 'u' :: '\x7b' :: (hexDigits c.toNat ++ ['\x7d']))
  /-- as it is -/
  | plain (quote : c ≠ '"') (backslash : c ≠ '\\') : QuotedAs c [c]

/-- A character from the table is quoted with its letter. -/
theorem QuotedAs.of_eq {c d e : Char} (h : c = d) (he : (d, e) ∈ letters) : QuotedAs c ['\\', e] :=
  .letter (h ▸ he)

/-- Every character is quoted in one of the three forms. -/
theorem quotedAs_quoteChar (c : Char) : QuotedAs c (quoteChar c) := by
  rw [quoteChar]
  split_ifs with htab hreturn hnewline hnull hquote hbackslash hhidden
  · exact .of_eq htab (by decide)
  · exact .of_eq hreturn (by decide)
  · exact .of_eq hnewline (by decide)
  · exact .of_eq hnull (by decide)
  · exact .of_eq hquote (by decide)
  · exact .of_eq hbackslash (by decide)
  · exact .number
  · exact .plain hquote hbackslash

namespace QuotedAs

variable {c d : Char} {w w' s t : List Char}

/-- No character is quoted with a quote in front. -/
theorem ne_quote (h : QuotedAs c w) : w ++ s ≠ '"' :: t := by
  intro heq
  cases h with
  | letter he => cases (List.cons.inj heq).1
  | number => cases (List.cons.inj heq).1
  | plain hquote hbackslash => exact hquote (List.cons.inj heq).1

/-- A plain character is told by itself. -/
theorem eq_of_plain (h : QuotedAs c w) (hbackslash : d ≠ '\\') (heq : w ++ s = d :: t) :
    c = d ∧ s = t := by
  cases h with
  | letter he => exact absurd (List.cons.inj heq).1.symm hbackslash
  | number => exact absurd (List.cons.inj heq).1.symm hbackslash
  | plain hquote hplain => exact List.cons.inj heq

/-- **A character is told by how it is quoted.** -/
theorem append_inj (h : QuotedAs c w) (h' : QuotedAs d w') (heq : w ++ s = w' ++ t) :
    c = d ∧ s = t := by
  -- no two characters have the same letter, and the one for numbers is none of these
  have hletters : ∀ m ∈ letters, ∀ m' ∈ letters, m.2 = m'.2 → m.1 = m'.1 := by decide
  have hnumber : ∀ m ∈ letters, m.2 ≠ 'u' := by decide
  -- by the two forms: a plain character differs from a backslash, and behind a backslash
  -- the next character decides
  cases h' with
  | plain hquote hbackslash => exact h.eq_of_plain hbackslash heq
  | letter he' =>
    cases h with
    | plain hquote hbackslash =>
      obtain ⟨hd, ht⟩ := QuotedAs.eq_of_plain (.letter he') hbackslash heq.symm
      exact ⟨hd.symm, ht.symm⟩
    | letter he =>
      obtain ⟨hletter, hrest⟩ := List.cons.inj (List.cons.inj heq).2
      exact ⟨hletters _ he _ he' hletter, hrest⟩
    | number => exact absurd (List.cons.inj (List.cons.inj heq).2).1.symm (hnumber _ he')
  | number =>
    cases h with
    | plain hquote hbackslash =>
      obtain ⟨hd, ht⟩ := QuotedAs.eq_of_plain .number hbackslash heq.symm
      exact ⟨hd.symm, ht.symm⟩
    | letter he => exact absurd (List.cons.inj (List.cons.inj heq).2).1 (hnumber _ he)
    | number =>
      simp only [List.cons_append, List.append_assoc, List.nil_append] at heq
      have hdigits := (List.cons.inj (List.cons.inj (List.cons.inj heq).2).2).2
      obtain ⟨hhex, hrest⟩ := append_cons_inj (fun _ => isSome_hexValue?_of_mem)
        (fun _ => isSome_hexValue?_of_mem) rfl hdigits
      have hnat : c.toNat = d.toNat := by
        rw [← ofHexDigits_hexDigits c.toNat, hhex, ofHexDigits_hexDigits]
      exact ⟨Char.toNat_inj.mp hnat, hrest⟩

end QuotedAs

/-- The quoted form of a single character delimits itself. -/
theorem selfDelimiting_quoteChar : SelfDelimiting quoteChar := by
  intro c d s t heq
  exact (quotedAs_quoteChar c).append_inj (quotedAs_quoteChar d) heq

/-- **A quoted text tells where it ends.** -/
theorem selfDelimiting_quoteChars : SelfDelimiting quoteChars := by
  intro text text' s t heq
  rw [quoteChars, quoteChars, List.cons_append, List.cons_append] at heq
  exact selfDelimiting_quoteChar.flatMap (fun c s t => (quotedAs_quoteChar c).ne_quote)
    (List.cons.inj heq).2

/-- Two texts with the same quoted form are the same. -/
theorem quoted_injective : Function.Injective quoted := by
  intro text text' h
  have hchars : quoteChars text.toList = quoteChars text'.toList := String.ofList_injective h
  exact String.toList_inj.mp (selfDelimiting_quoteChars.injective hchars)

end TokenSpans.Text
