import TokenSpans.Json.Document

/-!
# Readers

A reader walks a document and makes a value of a type, or tells what is wrong first. A record is
read from an object, member by member, or from a list of its fields in order. Members that a record
does not know are passed over; one that it knows may be there only once.

Readers take documents and not texts, so they are ordinary functions by cases on a tree, and
none of them needs a measure. The text is dealt with once, in `Document.ofText`, and once
more at the end of `read`, where nothing but gaps may follow.

Errors have an order: the defect that is reported is the first one that a reader meets when
it walks from left to right. Hence the care with endings: the items or members of a
container are read before it is asked whether the container is closed, and a value of the
wrong type is reported with its own defect if it has one (`mismatch`).
-/

namespace TokenSpans.Json

/-- What is wrong with a lexeme that stands where a value of another type is wanted. -/
def Lexeme.mismatch : Lexeme → Defect
  | .null s => s.mismatch
  | .bool s => s.mismatch
  | .number s => s.mismatch
  | .text s => s.mismatch
  | .openBrace | .openBracket => .mismatched
  | .closeBrace | .closeBracket | .colon | .comma | .stray => .malformed

/-- What is wrong with a document that stands where a value of another type is wanted. -/
def Document.mismatch : Document → Defect
  | .null s => s.mismatch
  | .bool s => s.mismatch
  | .number s => s.mismatch
  | .text s => s.mismatch
  | .list _ _ | .object _ _ => .mismatched
  | .stray => .malformed
  | .missing => .cut

/-- Whether a container is closed, or else what is wrong. Where a key is missing at the end
the text is cut. -/
def Ending.check : Ending → Except Defect Unit
  | .closed => .ok ()
  | .cut => .error .cut
  | .stray => .error .malformed
  | .keyless none => .error .cut
  | .keyless (some _) => .error .malformed

mutual

/-- Passes over a document of any type. -/
def Document.skip : Document → Except Defect Unit
  | .null s => s.skipping
  | .bool s => s.skipping
  | .number s => s.skipping
  | .text s => s.skipping
  | .list items ending => do
    skipItems items
    ending.check
  | .object members ending => do
    skipMembers members
    ending.check
  | .stray => .error .malformed
  | .missing => .error .cut

/-- Passes over the items of a list. -/
def skipItems : List Document → Except Defect Unit
  | [] => .ok ()
  | d :: rest => do
    d.skip
    skipItems rest

/-- Passes over the members of an object. -/
def skipMembers : List (Scalar (List Char) × Document) → Except Defect Unit
  | [] => .ok ()
  | (key, d) :: rest => do
    key.skipping
    d.skip
    skipMembers rest

end

/-- Makes a value of a type from a document. -/
abbrev Reader (α : Type) : Type :=
  Document → Except Defect α

namespace Reader

/-- A natural number that fits a word of 64 bits. -/
def nat : Reader Nat
  | .number s => do
    match ← s.reading with
    | some n => .ok n
    | none => .error .mismatched
  | d => .error d.mismatch

/-- One of the two truth values. -/
def bool : Reader Bool
  | .bool s => s.reading
  | d => .error d.mismatch

/-- A text, in which escapes have been resolved. -/
def text : Reader String
  | .text s => s.reading.map String.ofList
  | d => .error d.mismatch

/-- A value that may be null. -/
def option {α : Type} (reader : Reader α) : Reader (Option α)
  | .null s => s.reading.map (fun _ => none)
  | d => (reader d).map some

/-- The value that one of the names stands for. -/
def named {α : Type} (names : List (String × α)) (s : Scalar (List Char)) : Except Defect α := do
  let name ← s.reading
  match names.lookup (String.ofList name) with
  | some a => .ok a
  | none => .error .mismatched

/--
One of several names: as a text, or as the only key of an object whose value is null. A document of
another type is no name at all.
-/
def choice {α : Type} (names : List (String × α)) : Reader α
  | .text s => named names s
  | .object [] (.keyless none) => .error .cut
  | .object [] (.keyless (some l)) => .error l.mismatch
  | .object [] _ => .error .malformed
  | .object ((key, value) :: more) ending => do
    let a ← named names key
    match value with
    | .null s => s.reading
    | d => .error d.mismatch
    match more, ending with
    | [], .closed => .ok a
    | [], .cut => .error .cut
    | _, _ => .error .malformed
  | .missing => .error .cut
  | _ => .error .malformed

/-- A field of a record that is being read, with the fields read so far in `σ`. -/
structure Field (σ : Type) where
  /-- The key of its member. -/
  name : String
  /-- Whether the field has been read already. -/
  isRead : σ → Bool
  /-- Reads the field and puts it to those that were read. -/
  read : σ → Reader σ

/-- A field whose place in the record is a value that may be missing. -/
def Field.of {σ α : Type} (name : String) (reader : Reader α) (get : σ → Option α)
    (put : σ → α → σ) : Field σ where
  name := name
  isRead acc := (get acc).isSome
  read acc d := (reader d).map (put acc)

/-- Reads the members of an object in the order of the text. Which fields have been read is
known from `σ`, so a member that is there a second time is found when it is met. -/
def members {σ : Type} (fields : List (Field σ)) : σ → List Member → Except Defect σ
  | acc, [] => .ok acc
  | acc, (key, d) :: rest => do
    let name ← key.reading
    match fields.find? (fun f => f.name == String.ofList name) with
    | none => do
      d.skip
      members fields acc rest
    | some f =>
      if f.isRead acc then .error .mismatched
      else do
        let acc ← f.read acc d
        members fields acc rest

/-- Reads the items of a list as fields in order; there may be fewer, but not more. -/
def items {σ : Type} (ending : Ending) :
    List (Field σ) → σ → List Document → Except Defect σ
  | [], acc, [] => do
    ending.check
    .ok acc
  | [], _, _ :: _ => .error .malformed
  | _ :: _, acc, [] => do
    ending.check
    .ok acc
  | f :: fields, acc, d :: rest => do
    let acc ← f.read acc d
    items ending fields acc rest

/-- A record: its fields, the record with none read, and what is made of those that are. -/
def record {σ α : Type} (fields : List (Field σ)) (start : σ) (finish : σ → Option α) :
    Reader α
  | .object found ending => do
    let acc ← members fields start found
    ending.check
    match finish acc with
    | some a => .ok a
    | none => .error .mismatched
  | .list found ending => do
    let acc ← items ending fields start found
    match finish acc with
    | some a => .ok a
    | none => .error .mismatched
  | d => .error d.mismatch

/-- The values of a dictionary with any keys, in the order of the text. -/
def entries {α : Type} (reader : Reader α) : List Member → Except Defect (List (String × α))
  | [] => .ok []
  | (key, d) :: rest => do
    let name ← key.reading
    let a ← reader d
    let more ← entries reader rest
    .ok ((String.ofList name, a) :: more)

/-- A dictionary with any keys; a key may be there more than once, and all its values are
yielded. -/
def dictionary {α : Type} (reader : Reader α) : Reader (List (String × α))
  | .object found ending => do
    let found ← entries reader found
    ending.check
    .ok found
  | d => .error d.mismatch

end Reader

/-- Reads a whole text: one document, and only gaps after it. A defect inside the document
is reported before something that stands behind it. -/
def read {α : Type} (reader : Reader α) (s : List Char) : Except Defect α := do
  let (d, rest) := Document.ofText s
  let a ← reader d
  if rest.isEmpty then .ok a else .error .malformed

end TokenSpans.Json
