import Mathlib.Data.Set.Card
import Mathlib.Order.Interval.Finset.Nat
import TokenSpans.Span

/-!
# The offsets in a span

A span holds the offsets from its start up to, but not including, its end (`Span.setOf_contains`),
so the length is the number of the offsets that it holds, and there are none just where the length
is zero. A span that runs backwards holds none, either: its length does not go below zero.

Whether a span is empty is asked in another way, by comparing its two ends. That is the same
question for a span between two samples of one host, which never runs backwards. For one that does,
it is not: such a span is said not to be empty although it holds no offset
(`Span.backwards_not_empty`).

The three accessors are compared with one set, that of the offsets held, rather than with
each other. `contains` decides membership, `length` is the number of members, and only
`isEmpty` has to be related to it under a condition. A set of natural numbers may be
infinite, so it is counted by `Set.encard`, and that it is an interval is what makes the
count computable.
-/

namespace TokenSpans.Span

variable {s : Span}

/-- An offset is held from the start on and before the end. -/
theorem contains_iff {o : Nat} :
    s.contains o = true ↔ s.start.offset ≤ o ∧ o < s.stop.offset := by
  rw [contains, Bool.and_eq_true, decide_eq_true_iff, decide_eq_true_iff]

/-- The offsets held are an interval that is closed below and open above. -/
theorem setOf_contains (s : Span) :
    {o | s.contains o = true} = Set.Ico s.start.offset s.stop.offset :=
  Set.ext fun _ => contains_iff

/-- The length is zero where the end is not behind the start. -/
theorem length_eq_zero_iff : s.length = 0 ↔ s.stop.offset ≤ s.start.offset :=
  Nat.sub_eq_zero_iff_le

/-- The test for emptiness asks for equal ends, and for nothing else. -/
theorem isEmpty_iff : s.isEmpty = true ↔ s.start.offset = s.stop.offset :=
  beq_iff_eq

/-- Two samples have a span between them where the second one is not the earlier one. -/
theorem of_between_eq_ok {start stop : Location} {source : Option String}
    (h : between start stop source = .ok s) : s.start.offset ≤ s.stop.offset := by
  rw [between] at h
  split at h
  · rename_i hle
    obtain rfl := Except.ok.inj h
    exact hle
  · cases h

/-- The length counts the offsets in a span. -/
theorem encard_contains (s : Span) : {o | s.contains o = true}.encard = s.length := by
  rw [setOf_contains, ← Finset.coe_Ico, Set.encard_coe_eq_coe_finsetCard, Nat.card_Ico]
  rfl

/-- A span of length zero holds no offset: its start is in it unless it has none. -/
theorem length_eq_zero_iff_contains : s.length = 0 ↔ ∀ o, s.contains o = false := by
  constructor
  · intro hlength o
    have hle := length_eq_zero_iff.mp hlength
    refine Bool.eq_false_iff.mpr fun ho => ?_
    obtain ⟨hstart, hstop⟩ := contains_iff.mp ho
    omega
  · intro hnone
    refine length_eq_zero_iff.mpr (Nat.le_of_not_lt fun hlt => ?_)
    -- a start before the end would itself be held
    have hstart : s.contains s.start.offset = true := contains_iff.mpr ⟨Nat.le_refl _, hlt⟩
    rw [hnone] at hstart
    cases hstart

/-- A span is said to be empty where it has no length and does not run backwards. -/
theorem isEmpty_iff_length : s.isEmpty = true ↔ s.length = 0 ∧ s.start.offset ≤ s.stop.offset := by
  rw [isEmpty_iff, length_eq_zero_iff]
  omega

/-- **One set of offsets.** Of every span, also of one that runs backwards, the length is the number
of offsets in it, and it is zero just where there is none. The span is said to be empty just where
its length is zero and it does not run backwards; so for a span between two samples, that too is the
same question. -/
theorem accessors_agree_unless_backwards (s : Span) :
    {o | s.contains o = true}.encard = s.length ∧
      (s.length = 0 ↔ ∀ o, s.contains o = false) ∧
      (s.isEmpty = true ↔ s.length = 0 ∧ s.start.offset ≤ s.stop.offset) ∧
      ∀ start stop source, between start stop source = .ok s →
        (s.isEmpty = true ↔ s.length = 0) := by
  refine ⟨s.encard_contains, length_eq_zero_iff_contains, isEmpty_iff_length, ?_⟩
  intro start stop source hbetween
  rw [isEmpty_iff_length, and_iff_left (of_between_eq_ok hbetween)]

/-- A span from the offset 5 back to 0 has no length and holds no offset, and yet it is said not to
be empty. -/
theorem backwards_not_empty :
    (⟨⟨5, 1, 6⟩, ⟨0, 1, 1⟩, none⟩ : Span).length = 0 ∧
      (∀ o, (⟨⟨5, 1, 6⟩, ⟨0, 1, 1⟩, none⟩ : Span).contains o = false) ∧
      (⟨⟨5, 1, 6⟩, ⟨0, 1, 1⟩, none⟩ : Span).isEmpty = false :=
  ⟨rfl, length_eq_zero_iff_contains.mp rfl, rfl⟩

end TokenSpans.Span
