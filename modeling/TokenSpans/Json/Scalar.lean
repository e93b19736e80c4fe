/-!
# Scalars and defects

What can be wrong with the text of a JSON document, and the words, numerals and quoted texts in it,
each of which can be read for its value or be passed over. Passing over is the more lenient of the
two: half of a surrogate pair is no text and a numeral beyond the range of double precision is no
number, but both may be passed over.

The difference shows where a document has a member that nobody asks for: what stands there
only has to be JSON that can be passed over. So each lexeme is scanned once for both
purposes, and which of the two results counts is decided by whoever meets it. This keeps
scanning apart from reading without losing where the first defect is found.
-/

namespace TokenSpans.Json

/-- What can be wrong with a document. -/
inductive Defect
  /-- The text ends before the value does. -/
  | cut
  /-- The text is not JSON. -/
  | malformed
  /-- The text is JSON so far, but not for a value of the wanted type. -/
  | mismatched
  deriving DecidableEq, Repr

/-- What a single lexeme stands for when it is read, and whether it can be passed over. -/
structure Scalar (α : Type) where
  /-- Its value, or what is wrong with it. -/
  reading : Except Defect α
  /-- What is wrong with it even where no value is wanted. -/
  skipping : Except Defect Unit

namespace Scalar

/-- A lexeme with nothing wrong about it. -/
def sound {α : Type} (a : α) : Scalar α :=
  ⟨.ok a, .ok ()⟩

/-- The defect of a lexeme where another type is wanted: its own if it has one. A numeral
that breaks off is malformed also where a text is wanted. -/
def mismatch {α : Type} (s : Scalar α) : Defect :=
  match s.reading with
  | .ok _ => .mismatched
  | .error d => d

end Scalar

/-- Reads the rest of a word whose first letter is there. -/
def readWord : List Char → List Char → Except Defect (List Char)
  | [], s => .ok s
  | _ :: _, [] => .error .cut
  | e :: more, c :: rest => if c = e then readWord more rest else .error .malformed

/-- What follows a word is no longer than what the word was read from. -/
theorem readWord_length {word s rest : List Char} (h : readWord word s = .ok rest) :
    rest.length ≤ s.length := by
  induction word generalizing s with
  | nil =>
    simp only [readWord, Except.ok.injEq] at h
    exact Nat.le_of_eq (congrArg List.length h.symm)
  | cons e more ih =>
    cases s with
    | nil => simp [readWord] at h
    | cons c s =>
      simp only [readWord] at h
      split at h
      · have := ih h
        simp only [List.length_cons]
        omega
      · simp at h

end TokenSpans.Json
