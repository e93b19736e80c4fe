import TokenSpans.Text.Hidden

/-!
# Quoted text

The form in which a text is shown inside a message or a dump: between double quotes, with
the common controls, the quote and the backslash written with a backslash, and every hidden
character written by its number in lower-case hexadecimal.

The form is made so that it can be read back: between the quotes, neither a quote nor a
backslash ever stands for itself alone, so the quote that closes the text cannot be mistaken
for one that belongs to it. `Proofs/Delimiting.lean` proves this from how single characters
are written, and has from it that two texts with the same form are the same text.
-/

namespace TokenSpans.Text

/-- The digits of a number in lower-case hexadecimal, without padding. -/
def hexDigits (n : Nat) : List Char :=
  Nat.toDigits 16 n

/-- How one character is written between the quotes. The short forms come before the test
for hidden characters, since the controls among them are hidden as well and would be written
by number. -/
def quoteChar (c : Char) : List Char :=
  if c = '\t' then ['\\', 't']
  else if c = '\r' then ['\\', 'r']
  else if c = '\n' then ['\\', 'n']
  else if c = '\x00' then ['\\', '0']
  else if c = '"' then ['\\', '"']
  else if c = '\\' then ['\\', '\\']
  else if isHidden c then ['\\', 'u', '\x7b'] ++ hexDigits c.toNat ++ ['\x7d']
  else [c]

/-- The quoted form of a list of characters. -/
def quoteChars (s : List Char) : List Char :=
  '"' :: s.flatMap quoteChar ++ ['"']

/-- The quoted form of a text. -/
def quoted (s : String) : String :=
  String.ofList (quoteChars s.toList)

/-- The form of a text that may be missing. A missing text is told from the text `None` by
its lack of quotes. -/
def quotedOption : Option String → String
  | none => "None"
  | some s => "Some(" ++ quoted s ++ ")"

end TokenSpans.Text
