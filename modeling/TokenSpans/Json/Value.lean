import TokenSpans.Text.Columns

/-!
# Values and their text

A JSON value is written in one of two layouts: without any gaps, or with every item and member on a
line of its own, two spaces further in than the container. In a text, quotes, backslashes and the
characters below the space are escaped, and nothing else is.

Only what is ever written has a constructor: numbers are natural numbers, as all counts are.
Members keep the order in which they are given and may repeat a name, so a value is closer
to a text than to a dictionary.

The two layouts are each a block of three functions that call each other, one for values,
one for further items and one for further members. The first item stands apart, as it has no
comma before it. The layout without gaps is the one that readers are given, and
`Proofs/Json/Documents.lean` proves that it is put together again to the same value. The
layout in lines is for the eye.
-/

namespace TokenSpans.Json

/-- A value to be written; members keep their order. -/
inductive Value
  | null
  | bool (b : Bool)
  | number (n : Nat)
  | text (s : String)
  | list (items : List Value)
  | object (members : List (String × Value))

/-- A text that may be missing. -/
def Value.ofOption : Option String → Value
  | none => .null
  | some s => .text s

/-- How one character is written inside a text: five controls have a letter of their own,
and the others are written as four hexadecimal digits, of which the first two are zero. -/
def escapeChar (c : Char) : List Char :=
  if c = '"' then ['\\', '"']
  else if c = '\\' then ['\\', '\\']
  else if c = '\x08' then ['\\', 'b']
  else if c = '\x0c' then ['\\', 'f']
  else if c = '\n' then ['\\', 'n']
  else if c = '\r' then ['\\', 'r']
  else if c = '\t' then ['\\', 't']
  else if c.toNat < 0x20 then
    ['\\', 'u', '0', '0', Nat.digitChar (c.toNat / 16), Nat.digitChar (c.toNat % 16)]
  else [c]

/-- A text between quotes. -/
def writeText (s : String) : List Char :=
  '"' :: s.toList.flatMap escapeChar ++ ['"']

/-- How the two truth values are written: as the words `true` and `false`, in either layout. -/
def writeWord : Bool → List Char
  | true => ['t', 'r', 'u', 'e']
  | false => ['f', 'a', 'l', 's', 'e']

namespace Value

mutual

/-- The layout without gaps. -/
def compact : Value → List Char
  | .null => ['n', 'u', 'l', 'l']
  | .bool b => writeWord b
  | .number n => Text.decimal n
  | .text s => writeText s
  | .list [] => ['[', ']']
  | .list (v :: rest) => '[' :: compact v ++ compactItems rest ++ [']']
  | .object [] => ['{', '}']
  | .object ((key, v) :: rest) =>
    '{' :: writeText key ++ ':' :: compact v ++ compactMembers rest ++ ['}']

/-- Further items, a comma before each. -/
def compactItems : List Value → List Char
  | [] => []
  | v :: rest => ',' :: compact v ++ compactItems rest

/-- Further members, a comma before each. -/
def compactMembers : List (String × Value) → List Char
  | [] => []
  | (key, v) :: rest => ',' :: writeText key ++ ':' :: compact v ++ compactMembers rest

end

/-- A new line, `depth` steps in. -/
def newLine (depth : Nat) : List Char :=
  '\n' :: List.replicate (2 * depth) ' '

mutual

/-- The layout in lines, for a value `depth` steps in. -/
def lines (depth : Nat) : Value → List Char
  | .null => ['n', 'u', 'l', 'l']
  | .bool b => writeWord b
  | .number n => Text.decimal n
  | .text s => writeText s
  | .list [] => ['[', ']']
  | .list (v :: rest) =>
    '[' :: newLine (depth + 1) ++ lines (depth + 1) v ++ lineItems (depth + 1) rest ++
      newLine depth ++ [']']
  | .object [] => ['{', '}']
  | .object ((key, v) :: rest) =>
    '{' :: newLine (depth + 1) ++ writeText key ++ ':' :: ' ' :: lines (depth + 1) v ++
      lineMembers (depth + 1) rest ++ newLine depth ++ ['}']

/-- Further items, each on a line after a comma. -/
def lineItems (depth : Nat) : List Value → List Char
  | [] => []
  | v :: rest => ',' :: newLine depth ++ lines depth v ++ lineItems depth rest

/-- Further members, each on a line after a comma. -/
def lineMembers (depth : Nat) : List (String × Value) → List Char
  | [] => []
  | (key, v) :: rest =>
    ',' :: newLine depth ++ writeText key ++ ':' :: ' ' :: lines depth v ++
      lineMembers depth rest

end

end Value

end TokenSpans.Json
