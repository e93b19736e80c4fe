import TokenSpans.Json.QuotedText

/-!
# Lexemes of JSON

The text of a JSON document cut into brackets, marks, words, numerals and quoted texts. Cutting goes
on as long as the text can at least be passed over; what is wrong with a single lexeme is kept with
it and comes up only when a reader arrives there.

So `lexemes` is total, and a text that is not JSON has lexemes all the same: it is cut up to
the first lexeme behind which nobody could go on. A list of lexemes whose last one is
defective stands for a text that was not cut to its end.

The lemmas on lengths serve the recursion of `lexemes`, which goes on with what a scanner
leaves.
-/

namespace TokenSpans.Json

/-- A piece of a document. Those with a value carry it in both of its readings. -/
inductive Lexeme
  | openBrace
  | closeBrace
  | openBracket
  | closeBracket
  | colon
  | comma
  | null (s : Scalar Unit)
  | bool (s : Scalar Bool)
  /-- A numeral; it stands for a natural number below 2^64, or for some other number. -/
  | number (s : Scalar (Option Nat))
  | text (s : Scalar (List Char))
  /-- A character with which nothing begins. -/
  | stray

/-- Whether a character may stand between lexemes: the four blanks of JSON, far fewer than
Unicode has. -/
def isGap (c : Char) : Bool :=
  c == ' ' || c == '\n' || c == '\t' || c == '\r'

/-- A word that may be there in full, given the letters after its first one. -/
def scanWord {α : Type} (a : α) (letters s : List Char) : Scalar α × Option (List Char) :=
  match readWord letters s with
  | .ok rest => (.sound a, some rest)
  | .error d => (⟨.error d, .error d⟩, none)

/-- A numeral with its first character; one that breaks off cannot be passed over. -/
def scanNumber (s : List Char) : Scalar (Option Nat) × Option (List Char) :=
  match readNumeral s with
  | .ok (n, rest) => (⟨n.reading, .ok ()⟩, some rest)
  | .error d => (⟨.error d, .error .malformed⟩, none)

/-- A quoted text after its opening quote. It is gone through twice, once to pass over it
and once for its value, since the first may succeed where the second fails. -/
def scanText (s : List Char) : Scalar (List Char) × Option (List Char) :=
  match skipText s with
  | .ok rest => (⟨(readText s).map Prod.fst, .ok ()⟩, some rest)
  | .error d => (⟨(readText s).map Prod.fst, .error d⟩, none)

/-- The bracket or mark that a character is. -/
def mark? (c : Char) : Option Lexeme :=
  if c = '{' then some .openBrace
  else if c = '}' then some .closeBrace
  else if c = '[' then some .openBracket
  else if c = ']' then some .closeBracket
  else if c = ':' then some .colon
  else if c = ',' then some .comma
  else none

/--
The lexeme that begins with `c` and what follows it; nothing follows one that cannot be passed over.
-/
def scan (c : Char) (s : List Char) : Lexeme × Option (List Char) :=
  match mark? c with
  | some l => (l, some s)
  | none =>
    if c = 'n' then (scanWord () ['u', 'l', 'l'] s).map .null id
    else if c = 't' then (scanWord true ['r', 'u', 'e'] s).map .bool id
    else if c = 'f' then (scanWord false ['a', 'l', 's', 'e'] s).map .bool id
    else if c = '"' then (scanText s).map .text id
    else if c = '-' ∨ Text.isDigit c then (scanNumber (c :: s)).map .number id
    else (.stray, none)

/-- A word leaves no more than it was scanned from: its first letter was taken before. -/
theorem scanWord_length {α : Type} {a : α} {letters s rest : List Char}
    (h : (scanWord a letters s).2 = some rest) : rest.length ≤ s.length := by
  simp only [scanWord] at h
  split at h
  · rename_i hword
    simp only [Option.some.injEq] at h
    rw [← h]
    exact readWord_length hword
  · simp at h

/-- A numeral takes its first character itself. -/
theorem scanNumber_length {s rest : List Char} (h : (scanNumber s).2 = some rest) :
    rest.length < s.length := by
  simp only [scanNumber] at h
  split at h
  · rename_i hnumeral
    simp only [Option.some.injEq] at h
    rw [← h]
    exact readNumeral_length hnumeral
  · simp at h

/-- A quoted text takes at least its closing quote. -/
theorem scanText_length {s rest : List Char} (h : (scanText s).2 = some rest) :
    rest.length < s.length := by
  simp only [scanText] at h
  split at h
  · rename_i hskip
    simp only [Option.some.injEq] at h
    rw [← h]
    exact skipText_length hskip
  · simp at h

/-- What follows a lexeme is no longer than what follows its first character. -/
theorem scan_length {c : Char} {s rest : List Char} (h : (scan c s).2 = some rest) :
    rest.length ≤ s.length := by
  simp only [scan] at h
  split at h
  · simp only [Option.some.injEq] at h
    exact Nat.le_of_eq (congrArg List.length h.symm)
  · split at h
    · exact scanWord_length h
    · split at h
      · exact scanWord_length h
      · split at h
        · exact scanWord_length h
        · split at h
          · exact Nat.le_of_lt (scanText_length h)
          · split at h
            · exact Nat.le_of_lt_succ (scanNumber_length h)
            · simp at h

/-- The lexemes of a text, up to the first one that cannot be passed over. -/
def lexemes : List Char → List Lexeme
  | [] => []
  | c :: rest =>
    if isGap c then lexemes rest
    else
      match _h : scan c rest with
      -- nothing can be said of what comes after, and it is dropped
      | (l, none) => [l]
      | (l, some after) => l :: lexemes after
termination_by s => s.length
decreasing_by
  · simp
  · have := scan_length (congrArg Prod.snd _h)
    simp only [List.length_cons]
    omega

end TokenSpans.Json
