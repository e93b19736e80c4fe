/-!
# Encoded length

A text is a list of characters, and its encoded form gives each character one to four bytes. Lengths
in bytes come from outside and need not fall between two characters; `coverBytes` takes the shortest
beginning of a text that covers the asked number of bytes, or all of the text if it is too short.

Covering rounds up: a length that ends inside a character takes that character whole, and a
length of zero takes nothing. The recursion is on the text, with what is still to be covered
going down by the size of each character, so the beginning it takes ends between two
characters by construction and no text is ever cut in a character. The lemmas here are the
ones that later termination proofs rest on; what covering has to do with boundaries is in
`Proofs/Reading.lean` and `Proofs/Covering.lean`.
-/

namespace TokenSpans.Text

/-- The number of bytes in the encoded form of a text. -/
def byteLength : List Char → Nat
  | [] => 0
  | c :: rest => c.utf8Size + byteLength rest

/-- The shortest beginning of a text that covers `n` bytes, and what follows it. -/
def coverBytes : Nat → List Char → List Char × List Char
  | 0, s => ([], s)
  | _ + 1, [] => ([], [])
  | n + 1, c :: rest =>
    let covered := coverBytes (n + 1 - c.utf8Size) rest
    (c :: covered.1, covered.2)

/-- Whether `n` bytes into the text is a place between two characters, or one of its ends.
It is said by the two halves of the text rather than by the bytes of a character, since it
is the halves that are used. -/
def IsBoundary (s : List Char) (n : Nat) : Prop :=
  ∃ before after, s = before ++ after ∧ byteLength before = n

/-- The encoded form of two texts is as long as those of both together. -/
theorem byteLength_append (s t : List Char) :
    byteLength (s ++ t) = byteLength s + byteLength t := by
  induction s with
  | nil => simp [byteLength]
  | cons c rest ih => simp only [List.cons_append, byteLength, ih]; omega

/-- Covering splits the text: nothing is lost. -/
theorem coverBytes_append (n : Nat) (s : List Char) :
    (coverBytes n s).1 ++ (coverBytes n s).2 = s := by
  induction s generalizing n with
  | nil => cases n <;> rfl
  | cons c rest ih =>
    cases n with
    | zero => rfl
    | succ n => simp [coverBytes, ih]

/-- What is left is never longer than the text. -/
theorem coverBytes_length_le (n : Nat) (s : List Char) : (coverBytes n s).2.length ≤ s.length := by
  have h := congrArg List.length (coverBytes_append n s)
  simp only [List.length_append] at h
  omega

/-- Covering at least one byte of a text that is not empty leaves less of it. -/
theorem coverBytes_length_lt {n : Nat} (hn : 0 < n) {s : List Char} (hs : s ≠ []) :
    (coverBytes n s).2.length < s.length := by
  cases s with
  | nil => exact absurd rfl hs
  | cons c rest =>
    cases n with
    | zero => omega
    | succ n =>
      have h := coverBytes_length_le (n + 1 - c.utf8Size) rest
      simp only [coverBytes, List.length_cons]
      omega

end TokenSpans.Text
