import Mathlib
import TokenSpans.Level
import TokenSpans.Numbering
import TokenSpans.Role
import TokenSpans.Text.Blank

/-!
# Spellings of names

Some names are read by making the capitals of ASCII small, others by the lower-case mapping of all
of Unicode. That mapping takes few other characters to ASCII: the Kelvin sign to `k`, and the
dotted capital I to `i` with a dot that is no character of ASCII. So where a name is spelled in
ASCII without a `k` (`Plain`), the two mappings lead to it from the same texts
(`lowerCase_eq_iff`).

All names of levels and of layouts are plain. Hence it makes no difference for them by which mapping
they are read, and they are the only texts that are read, with each letter small or capital
(`names_spelled_in_ascii`).

The mapping of all of Unicode is a table with some exceptions, so the proof is a computation
on the table and an argument about the exceptions. The computation is one `decide` over the
runs behind the first one: all of them begin beyond ASCII, and all but one have their small
forms beyond ASCII as well. The argument is that a text with a character beyond ASCII keeps
one that is not plain, whatever stands around it; this covers the sigma, whose small form
depends on its neighbours.
-/

namespace TokenSpans

namespace Text

/-- The text with the small letters of ASCII made capitals and all else left as it is. -/
def upperAscii (s : List Char) : List Char :=
  s.map Char.toUpper

/-- The texts differ at most in whether letters of ASCII are small or capital. -/
def SameButForCase (s t : List Char) : Prop :=
  List.Forall₂ (fun c d => c.beqCaseInsensitiveAsciiOnly d = true) s t

/-- The character is one of ASCII. -/
def IsAscii (c : Char) : Prop :=
  c.toNat < 128

/-- The character is one of ASCII, but not the small form of one that is not. -/
def Plain (c : Char) : Prop :=
  IsAscii c ∧ c ≠ 'k'

instance (c : Char) : Decidable (IsAscii c) :=
  inferInstanceAs (Decidable (c.toNat < 128))

instance (c : Char) : Decidable (Plain c) :=
  inferInstanceAs (Decidable (IsAscii c ∧ c ≠ 'k'))

/-! ## The capitals of ASCII

Being the same but for case is what the library's comparison of single characters says,
taken along two texts of one length. It is the same as having one small form in ASCII. -/

/-- Texts are the same but for case where their small forms in ASCII are equal. -/
theorem sameButForCase_iff {s t : List Char} :
    SameButForCase s t ↔ lowerAscii s = lowerAscii t := by
  rw [lowerAscii, lowerAscii, ← List.forall₂_eq_eq_eq, List.forall₂_map_left_iff,
    List.forall₂_map_right_iff, SameButForCase]
  simp only [Char.beqCaseInsensitiveAsciiOnly, beq_iff_eq]

/-- The capitals of ASCII by their numbers. -/
theorem isUpper_iff {c : Char} : c.isUpper = true ↔ 65 ≤ c.toNat ∧ c.toNat ≤ 90 := by
  simp [Char.isUpper, UInt32.le_iff_toNat_le]

/-- A capital stays in ASCII when it is made small, and all else stays as it is. -/
theorem isAscii_of_toLower {c : Char} (h : IsAscii c.toLower) : IsAscii c := by
  by_cases hc : c.isUpper = true
  · have hrange := isUpper_iff.mp hc
    rw [IsAscii]
    omega
  · rwa [Char.toLower_eq_of_not_isUpper hc] at h

/-- A text with a small form in ASCII is in ASCII. -/
theorem isAscii_of_lowerAscii {s : List Char} (h : ∀ d ∈ lowerAscii s, IsAscii d) :
    ∀ c ∈ s, IsAscii c :=
  fun _ hc => isAscii_of_toLower (h _ (List.mem_map_of_mem hc))

/-! ## The table of small forms

A number is looked up in the first run that it lies in. All that is needed of the table is
where its runs begin and where they lead to, and this is checked for the table as a whole,
by evaluation. -/

/-- A number has no small form in a table, or the one of a run that it lies in. -/
theorem lowerShift_cases (runs : List (Nat × Nat × Nat × Int)) (n : Nat) :
    lowerShift runs n = 0 ∨
      ∃ first last stride shift, (first, last, stride, shift) ∈ runs ∧ first ≤ n ∧ n ≤ last ∧
        lowerShift runs n = shift := by
  fun_induction lowerShift runs n with
  | case1 n => exact .inl rfl
  | case2 first last stride shift rest n h =>
    exact .inr ⟨first, last, stride, shift, List.mem_cons_self, h.1, h.2.1, rfl⟩
  | case3 first last stride shift rest n h ih =>
    rcases ih with hzero | ⟨first, last, stride, shift, hmem, hrun⟩
    · exact .inl hzero
    · exact .inr ⟨first, last, stride, shift, List.mem_cons_of_mem _ hmem, hrun⟩

/-- All small forms of a run are characters beyond ASCII. -/
def LandsBeyond : Nat × Nat × Nat × Int → Prop
  | (first, last, _, shift) =>
    (128 ≤ first + shift ∧ last + shift < 0xD800) ∨
      (0xE000 ≤ first + shift ∧ last + shift < 0x110000)

instance (run : Nat × Nat × Nat × Int) : Decidable (LandsBeyond run) :=
  inferInstanceAs (Decidable (_ ∨ _))

/-- The run of the Kelvin sign. -/
def kelvinRun : Nat × Nat × Nat × Int :=
  (0x212A, 0x212A, 1, -8383)

/-- The first run is that of the capitals of ASCII. -/
theorem lowerRuns_eq : lowerRuns = (0x41, 0x5A, 1, 32) :: lowerRuns.tail := rfl

/-- Behind the capitals of ASCII the table has runs beyond ASCII, and all but one stay there. -/
theorem beyond_of_mem_tail : ∀ run ∈ lowerRuns.tail,
    128 ≤ run.1 ∧ (run = kelvinRun ∨ LandsBeyond run) := by
  decide +kernel

/-- The capitals of ASCII are shifted by 32, and all else is looked up behind them. -/
theorem lowerShift_lowerRuns (n : Nat) :
    lowerShift lowerRuns n = if 65 ≤ n ∧ n ≤ 90 then 32 else lowerShift lowerRuns.tail n := by
  rw [lowerRuns_eq, lowerShift]
  simp [Nat.mod_one]

/-- Behind the first run nothing in ASCII has a small form. -/
theorem lowerShift_tail_of_lt {n : Nat} (h : n < 128) : lowerShift lowerRuns.tail n = 0 := by
  rcases lowerShift_cases lowerRuns.tail n with hzero | ⟨first, _, _, _, hmem, hfirst, -, -⟩
  · exact hzero
  · have hbeyond : 128 ≤ first := (beyond_of_mem_tail _ hmem).1
    omega

/-! ## The small form of one character

In ASCII the full mapping is the plain one. Beyond it three things may happen: the character
becomes two, of which one is not in ASCII; it stays as it is; or it is shifted by a run,
which lands beyond ASCII or on the `k`. -/

/-- In ASCII the small forms are those of the capitals. -/
theorem lowerChar_of_isAscii {c : Char} (h : IsAscii c) : lowerChar c = [c.toLower] := by
  have hdotted : c ≠ '\u0130' := by
    rintro rfl
    exact absurd h (by decide)
  rw [lowerChar, if_neg hdotted, lowerShift_lowerRuns]
  by_cases hc : c.isUpper = true
  · rw [if_pos (isUpper_iff.mp hc), Char.toLower_eq_of_isUpper hc]
    rfl
  · rw [if_neg (fun hrange => hc (isUpper_iff.mpr hrange)), lowerShift_tail_of_lt h,
      Char.toLower_eq_of_not_isUpper hc, Int.add_zero, Int.toNat_natCast, Char.ofNat_toNat]

/-- Beyond ASCII a small form has a character that is not plain. -/
theorem exists_not_plain_lowerChar {c : Char} (h : ¬ IsAscii c) :
    ∃ d ∈ lowerChar c, ¬ Plain d := by
  have hc : 128 ≤ c.toNat := Nat.not_lt.mp h
  rw [lowerChar]
  split
  · exact ⟨'\u0307', by decide, by decide⟩
  · refine ⟨_, List.mem_singleton_self _, ?_⟩
    rw [lowerShift_lowerRuns, if_neg (by omega)]
    rcases lowerShift_cases lowerRuns.tail c.toNat with
      hzero | ⟨first, last, stride, shift, hmem, hfirst, hlast, hshift⟩
    · rw [hzero, Int.add_zero, Int.toNat_natCast, Char.ofNat_toNat]
      exact fun hplain => h hplain.1
    · rw [hshift]
      rcases (beyond_of_mem_tail _ hmem).2 with hkelvin | hlands
      · -- the run is one character, and its small form is `k`
        cases hkelvin
        have hsign : c.toNat = 0x212A := Nat.le_antisymm hlast hfirst
        rw [hsign]
        decide
      · rw [LandsBeyond] at hlands
        have hvalid : ((c.toNat : Int) + shift).toNat.isValidChar := by
          rw [Nat.isValidChar]
          omega
        rintro ⟨hascii, -⟩
        rw [IsAscii, Char.toNat_ofNat, if_pos hvalid] at hascii
        omega

/-! ## The small form of a text

`lowerAfter` carries the characters that it has passed, so the inductions leave them
general. One step lemma says all that is needed of a character among others, and the two
directions of the result are an induction each. -/

/-- The small form of a character among others: in ASCII it is the character without its case, and
beyond ASCII it has a character that is not plain. -/
theorem exists_lowerAfter_cons (before : List Char) (c : Char) (rest : List Char) :
    ∃ small, lowerAfter before (c :: rest) = small ++ lowerAfter (c :: before) rest ∧
      (IsAscii c → small = [c.toLower]) ∧ (¬ IsAscii c → ∃ d ∈ small, ¬ Plain d) := by
  rw [lowerAfter]
  refine ⟨_, rfl, ?_⟩
  split
  · -- a sigma has no small form in ASCII
    rename_i hsigma
    subst hsigma
    refine ⟨fun h => absurd h (by decide), fun _ => ?_⟩
    split
    · exact ⟨_, List.mem_singleton_self _, by decide⟩
    · exact ⟨_, List.mem_singleton_self _, by decide⟩
  · exact ⟨lowerChar_of_isAscii, exists_not_plain_lowerChar⟩

/-- A text in ASCII has the same small form in both mappings. -/
theorem lowerAfter_of_isAscii {s : List Char} (before : List Char) (h : ∀ c ∈ s, IsAscii c) :
    lowerAfter before s = lowerAscii s := by
  induction s generalizing before with
  | nil => rfl
  | cons c rest ih =>
    obtain ⟨hc, hrest⟩ := List.forall_mem_cons.mp h
    obtain ⟨small, hsmall, hascii, -⟩ := exists_lowerAfter_cons before c rest
    rw [hsmall, hascii hc, ih (c :: before) hrest]
    rfl

/-- A text whose small form is plain is in ASCII. -/
theorem isAscii_of_lowerAfter {s before : List Char} (h : ∀ d ∈ lowerAfter before s, Plain d) :
    ∀ c ∈ s, IsAscii c := by
  induction s generalizing before with
  | nil => simp
  | cons c rest ih =>
    obtain ⟨small, hsmall, -, hbeyond⟩ := exists_lowerAfter_cons before c rest
    rw [hsmall] at h
    obtain ⟨hfirst, hrest⟩ := List.forall_mem_append.mp h
    refine List.forall_mem_cons.mpr ⟨?_, ih hrest⟩
    by_contra hc
    obtain ⟨d, hd, hnot⟩ := hbeyond hc
    exact hnot (hfirst d hd)

/-- **Both mappings lead to a plain name from the same texts.** -/
theorem lowerCase_eq_iff {name : List Char} (hname : ∀ d ∈ name, Plain d) (s : List Char) :
    lowerCase s = name ↔ lowerAscii s = name := by
  constructor
  · rintro rfl
    exact (lowerAfter_of_isAscii [] (isAscii_of_lowerAfter hname)).symm
  · rintro rfl
    exact lowerAfter_of_isAscii [] (isAscii_of_lowerAscii fun d hd => (hname d hd).1)

/-- A `k` is not plain: it is also the small form of the Kelvin sign, which is no capital of ASCII.
-/
example : lowerCase ['\u212A'] = ['k'] ∧ lowerAscii ['\u212A'] = ['\u212A'] := by
  decide +kernel

/-! ## Names in small letters

What has to be checked of a table of names: each is spelled in small letters and without a
`k`. Then its letters are plain, it is its own small form, and whatever is the same but for
case consists of letters too, so that nothing blank can be read. -/

/-- The name is spelled in small letters of ASCII, without a `k`. -/
def InPlainLetters (name : String) : Prop :=
  ∀ d ∈ name.toList, d.isLower = true ∧ d ≠ 'k'

instance (name : String) : Decidable (InPlainLetters name) :=
  decidable_of_iff ((name.toList.all fun d => d.isLower && d != 'k') = true)
    (by simp [InPlainLetters])

/-- The letters of ASCII by their numbers. -/
theorem isAlpha_iff {c : Char} :
    c.isAlpha = true ↔ (65 ≤ c.toNat ∧ c.toNat ≤ 90) ∨ (97 ≤ c.toNat ∧ c.toNat ≤ 122) := by
  simp [Char.isAlpha, Char.isUpper, Char.isLower, UInt32.le_iff_toNat_le]

/-- A letter of ASCII is not blank. -/
theorem isAscii_of_isAlpha {c : Char} (h : c.isAlpha = true) : IsAscii c ∧ isBlank c = false := by
  have hrange := isAlpha_iff.mp h
  constructor
  · rw [IsAscii]
    omega
  · simp [isBlank, blankRanges, covers]
    omega

namespace InPlainLetters

variable {name : String} (h : InPlainLetters name)

include h

/-- All its characters are letters. -/
theorem isAlpha : ∀ d ∈ name.toList, d.isAlpha = true :=
  fun d hd => by simp [Char.isAlpha, (h d hd).1]

/-- All its characters are plain. -/
theorem plain : ∀ d ∈ name.toList, Plain d :=
  fun d hd => ⟨(isAscii_of_isAlpha (h.isAlpha d hd)).1, (h d hd).2⟩

/-- It is its own small form. -/
theorem lowerAscii_eq : lowerAscii name.toList = name.toList :=
  (List.map_congr_left fun d hd =>
    Char.toLower_eq_of_not_isUpper (Char.not_isUpper_of_isLower (h d hd).1)).trans (List.map_id _)

/-- A text that is the name but for case is spelled in letters of ASCII too. -/
theorem isAlpha_of_sameButForCase {s : List Char} (hs : SameButForCase s name.toList) :
    ∀ c ∈ s, c.isAlpha = true := by
  intro c hc
  have hlower : c.toLower ∈ name.toList := by
    rw [← h.lowerAscii_eq, ← sameButForCase_iff.mp hs]
    exact List.mem_map_of_mem hc
  rw [← Char.isAlpha_toLower_eq_isAlpha]
  exact h.isAlpha _ hlower

end InPlainLetters

/-! ## Names in a table

A table is a list of names with values, and the lemmas hold for every table whose names are
spelled as above. Levels and layouts are two such tables; ways to number and roles are read
by cases, and are shown to be tables as well. -/

/-- What a table has for a name, where the capitals of ASCII count as small letters. -/
def named? {α : Type} (choices : List (String × α)) (s : String) : Option α :=
  choices.lookup (String.ofList (lowerAscii s.toList))

section

variable {α : Type} {choices : List (String × α)}
  (hchoices : ∀ name ∈ choices.map Prod.fst, InPlainLetters name) (s : String)

include hchoices

/-- By which mapping a text is made small makes no difference. -/
theorem lookup_lowerCase :
    choices.lookup (String.ofList (lowerCase s.toList)) = named? choices s := by
  rw [named?]
  induction choices with
  | nil => rfl
  | cons choice rest ih =>
    obtain ⟨name, a⟩ := choice
    obtain ⟨hname, hrest⟩ := List.forall_mem_cons.mp hchoices
    have hsame : (String.ofList (lowerCase s.toList) == name) =
        (String.ofList (lowerAscii s.toList) == name) := by
      rw [Bool.eq_iff_iff, beq_iff_eq, beq_iff_eq, ← String.toList_inj, ← String.toList_inj,
        String.toList_ofList, String.toList_ofList, lowerCase_eq_iff hname.plain]
    rw [List.lookup_cons, List.lookup_cons, hsame, ih hrest]

/-- The table has something for the texts that are one of its names but for case. -/
theorem isSome_named?_iff :
    (named? choices s).isSome = true ↔
      ∃ name ∈ choices.map Prod.fst, SameButForCase s.toList name.toList := by
  rw [named?, List.lookup_isSome_iff]
  constructor
  · rintro ⟨choice, hmem, heq⟩
    have hname := List.mem_map_of_mem (f := Prod.fst) hmem
    refine ⟨choice.1, hname, sameButForCase_iff.mpr ?_⟩
    rw [(hchoices _ hname).lowerAscii_eq, ← beq_iff_eq.mp heq, String.toList_ofList]
  · rintro ⟨name, hname, hsame⟩
    obtain ⟨choice, hmem, rfl⟩ := List.mem_map.mp hname
    refine ⟨choice, hmem, beq_iff_eq.mpr ?_⟩
    rw [sameButForCase_iff.mp hsame, (hchoices _ hname).lowerAscii_eq, String.ofList_toList]

/-- What it has something for is spelled in letters of ASCII. -/
theorem isAlpha_of_named? (h : (named? choices s).isSome = true) :
    ∀ c ∈ s.toList, c.isAlpha = true := by
  obtain ⟨name, hname, hsame⟩ := (isSome_named?_iff hchoices s).mp h
  exact (hchoices name hname).isAlpha_of_sameButForCase hsame

end

/-- Texts that are the same without their capitals have the same in every table. -/
theorem named?_congr {α : Type} {s t : String}
    (h : lowerAscii t.toList = lowerAscii s.toList) (choices : List (String × α)) :
    named? choices t = named? choices s := by
  rw [named?, h, named?]

/-- The large and the small form of a text are the same as the text without their capitals. -/
theorem lowerAscii_of_mem_forms {s t : List Char} (h : t ∈ [upperAscii s, lowerAscii s]) :
    lowerAscii t = lowerAscii s := by
  rcases List.mem_pair.mp h with rfl | rfl
  · simp [lowerAscii, upperAscii]
  · simp [lowerAscii]

end Text

open Text

namespace Level

theorem inPlainLetters_of_mem : ∀ name ∈ choices.map Prod.fst, InPlainLetters name := by
  decide

theorem parse?_eq_named? (s : String) : parse? s = named? choices s :=
  lookup_lowerCase inPlainLetters_of_mem s

end Level

namespace LogFormat

theorem inPlainLetters_of_mem : ∀ name ∈ choices.map Prod.fst, InPlainLetters name := by
  decide

theorem parse?_eq_named? (s : String) : parse? s = named? choices s :=
  lookup_lowerCase inPlainLetters_of_mem s

end LogFormat

/-- The names and numerals of the two ways to number. -/
def Numbering.choices : List (String × Numbering) :=
  [("0", zero), ("zero", zero), ("1", one), ("one", one)]

/-- Ways to number are read from the table. -/
theorem Numbering.parse?_eq_named? (s : String) : parse? s = named? choices s := by
  simp only [parse?, named?, choices, List.lookup_cons, List.lookup_nil]
  grind

/-- The names of the roles. -/
def Role.choices : List (String × Role) :=
  [("lexer", lexer), ("tokenizer", tokenizer)]

/-- Roles are read from the table. -/
theorem Role.parse?_eq_named? (s : String) : parse? s = named? choices s := by
  simp only [parse?, named?, choices, List.lookup_cons, List.lookup_nil]
  grind

/-- **Names are spelled in ASCII.** Levels and layouts, whose names are read by the mapping of all
of Unicode, are found as they would be if only the capitals of ASCII were made small, which is how
ways to number and roles are found in tables of their own. So what is read is one of the names but
for case, and nothing with a character beyond ASCII or a blank one, at its ends or elsewhere; and
the large and the small form of a text are read as the text is. -/
theorem names_spelled_in_ascii (s : String) :
    (Level.parse? s = named? Level.choices s ∧ LogFormat.parse? s = named? LogFormat.choices s ∧
        Numbering.parse? s = named? Numbering.choices s ∧
        Role.parse? s = named? Role.choices s) ∧
      ((Level.parse? s).isSome = true ↔
        ∃ name ∈ ["silent", "error", "warn", "info", "debug", "trace"],
          SameButForCase s.toList name.toList) ∧
      ((LogFormat.parse? s).isSome = true ↔
        ∃ name ∈ ["pretty", "compact", "json"], SameButForCase s.toList name.toList) ∧
      (∀ c ∈ s.toList, ¬ IsAscii c ∨ isBlank c = true →
        Level.parse? s = none ∧ LogFormat.parse? s = none) ∧
      ∀ t ∈ [upperAscii s.toList, lowerAscii s.toList],
        Level.parse? (String.ofList t) = Level.parse? s ∧
          LogFormat.parse? (String.ofList t) = LogFormat.parse? s := by
  have hlevels := Level.inPlainLetters_of_mem
  have hlayouts := LogFormat.inPlainLetters_of_mem
  simp only [Level.parse?_eq_named?, LogFormat.parse?_eq_named?, Numbering.parse?_eq_named?,
    Role.parse?_eq_named?, and_self, true_and]
  refine ⟨isSome_named?_iff hlevels s, isSome_named?_iff hlayouts s, fun c hc hstrange => ?_,
    fun t ht => ?_⟩
  · have hnot : ¬ c.isAlpha = true := by
      intro halpha
      obtain ⟨hascii, hblank⟩ := isAscii_of_isAlpha halpha
      rcases hstrange with h | h
      · exact h hascii
      · rw [hblank] at h
        cases h
    rw [← Option.not_isSome_iff_eq_none, ← Option.not_isSome_iff_eq_none]
    exact ⟨fun h => hnot (isAlpha_of_named? hlevels s h c hc),
      fun h => hnot (isAlpha_of_named? hlayouts s h c hc)⟩
  · have hsame : lowerAscii (String.ofList t).toList = lowerAscii s.toList := by
      rw [String.toList_ofList, lowerAscii_of_mem_forms ht]
    exact ⟨named?_congr hsame _, named?_congr hsame _⟩

end TokenSpans
