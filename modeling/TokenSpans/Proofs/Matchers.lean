import TokenSpans.Proofs.Covering
import TokenSpans.Proofs.Pieces

/-!
# What the matchers take

A matcher answers with a number of bytes. For the matchers of the library that number is always the
length of a beginning of the text, so the piece that is cut off is that beginning and no character
is cut (`cut?_of_firstMatch`).

Each lemma is for a text that has a first character, since a lexer tries no rule on the
empty text, and says what the rule takes as the bytes of a beginning that is written out. In
that form it can be handed to `coverBytes_byteLength`, which cuts off this beginning and no
other.
-/

namespace TokenSpans

namespace Text

/-! ## Runs of a class

A run is taken by `takeWhile` and what is left begins with a character outside the class, or
is empty. `takeWhile_append_of_head?` says this the other way round: a text made of a run
and such a rest is taken apart at the seam. Most proofs about pieces come down to it. -/

/-- No character belongs to the empty class. -/
theorem takeWhile_false (s : List Char) : s.takeWhile (fun _ => false) = [] := by
  cases s <;> rfl

theorem dropWhile_false (s : List Char) : s.dropWhile (fun _ => false) = s := by
  cases s <;> rfl

/-- What begins with a character begins with no other one. -/
theorem forall_head?_cons {P : Char → Prop} {c : Char} (hc : P c) (s : List Char) :
    ∀ d ∈ (c :: s).head?, P d := by
  intro d hd
  obtain rfl := Option.some.inj hd
  exact hc

/-- A run that is whole stops exactly at a text that begins with none of its characters. -/
theorem takeWhile_append_of_head? {p : Char → Bool} {run s : List Char}
    (hrun : ∀ d ∈ run, p d = true) (hs : ∀ d ∈ s.head?, p d = false) :
    (run ++ s).takeWhile p = run ∧ (run ++ s).dropWhile p = s := by
  rw [List.takeWhile_append_of_pos hrun, List.dropWhile_append_of_pos hrun]
  cases s with
  | nil => exact ⟨List.append_nil run, rfl⟩
  | cons d rest =>
    have hd : ¬ p d = true := Bool.eq_false_iff.mp (hs d rfl)
    rw [List.takeWhile_cons_of_neg hd, List.dropWhile_cons_of_neg hd, List.append_nil]
    exact ⟨rfl, rfl⟩

end Text

namespace Rule

/-! ## Single matchers

The zero that `matchLength` filters out never comes from these: a character has at least one
byte. So for each of them a rule takes something just where its matcher does. -/

/-- A fixed character is taken where the text begins with it. -/
theorem matchLength_single (kind : String) (expected c : Char) (rest : List Char) :
    matchLength ⟨kind, .single expected⟩ (c :: rest) =
      if c = expected then some (Text.byteLength [c]) else none := by
  have hpos := c.utf8Size_pos
  simp only [matchLength, Matcher.single]
  split
  · exact Option.filter_some_pos (decide_eq_true hpos)
  · rfl

/-- One character is taken where the text begins with one of the class. -/
theorem matchLength_oneOf (kind : String) (p : Char → Bool) (c : Char) (rest : List Char) :
    matchLength ⟨kind, .oneOf p⟩ (c :: rest) =
      if p c then some (Text.byteLength [c]) else none := by
  have hpos := c.utf8Size_pos
  simp only [matchLength, Matcher.oneOf]
  split
  · exact Option.filter_some_pos (decide_eq_true hpos)
  · rfl

/-- A run is taken where the text begins with a character of the class, and is then as long
as it can be. -/
theorem matchLength_runOf (kind : String) (p : Char → Bool) (c : Char) (rest : List Char) :
    matchLength ⟨kind, .runOf p⟩ (c :: rest) =
      if p c then some (Text.byteLength (c :: rest.takeWhile p)) else none := by
  by_cases h : p c = true
  · have hpos := (Text.byteLength_pos_iff (c :: rest.takeWhile p)).mpr (List.cons_ne_nil _ _)
    simp only [matchLength, Matcher.runOf, List.takeWhile_cons_of_pos h, if_pos hpos, if_pos h]
    exact Option.filter_some_pos (decide_eq_true hpos)
  · simp only [matchLength, Matcher.runOf, List.takeWhile_cons_of_neg h, if_neg h]
    rfl

/-! ## Rules in order

The first match is found by recursion on the list of rules: the head decides if it takes
something, and else the tail. Together with the lemmas on single matchers this evaluates any
list of rules on a text whose first character is known. -/

/-- The first rule goes before all others, and the others are asked only where it takes
nothing. -/
theorem firstMatch_cons (r : Rule) (rules : List Rule) (s : List Char) :
    firstMatch (r :: rules) s =
      ((r.matchLength s).map fun bytes => (r, bytes)).or (firstMatch rules s) := by
  rw [firstMatch, List.findSome?_cons]
  cases r.matchLength s with
  | none => rfl
  | some bytes => rfl

/-- Where the first match is a beginning of the text, that beginning is cut off. -/
theorem cut?_of_firstMatch {rules : List Rule} {r : Rule} {piece rest : List Char}
    (hne : piece ≠ []) (h : firstMatch rules (piece ++ rest) = some (r, Text.byteLength piece)) :
    cut? rules (piece ++ rest) = some ((r.kind, piece), rest) := by
  have hempty : ¬ (piece ++ rest).isEmpty = true := by
    rw [List.isEmpty_iff, List.append_eq_nil_iff]
    exact fun hnil => hne hnil.1
  rw [cut?, if_neg hempty, h, Option.map_some, Text.coverBytes_byteLength]

end Rule

end TokenSpans
