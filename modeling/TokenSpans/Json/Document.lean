import TokenSpans.Json.Lexeme

/-!
# Documents

A document as a tree. Every text has one: where the text stops being JSON the tree is closed with
what stands there in place of the missing value, and holds nothing of what comes after. So a reader
that walks the tree from the left meets the first thing wrong before all others.

Lexemes are put together by a machine with a stack of containers that are part way through. It takes
one lexeme at a time, however deep the document is.

The machine is not recursive in the depth of the document, and its one function that takes a
lexeme, `Move.take`, is a table: what is expected next, the innermost container and the
lexeme decide the move. Everything that is not in the table is a stray lexeme, which closes
the tree. Proofs about the machine go along the grammar, with any stack, which is left as it
was found (`Proofs/Json/Assembly.lean`).
-/

namespace TokenSpans.Json

/-- How a list or an object ends. -/
inductive Ending
  /-- With its closing bracket. -/
  | closed
  /-- With the end of the text after an item or a member. -/
  | cut
  /-- With something that is neither a comma nor the closing bracket. -/
  | stray
  /-- With something other than a key, or the end of the text, where a key has to be. -/
  | keyless (found : Option Lexeme)

/-- A document, or what there is of it. The last two constructors stand for what is not
there: a tree with one of them, or with an ending other than `closed`, comes from a text
that is not JSON. -/
inductive Document
  | null (s : Scalar Unit)
  | bool (s : Scalar Bool)
  | number (s : Scalar (Option Nat))
  | text (s : Scalar (List Char))
  | list (items : List Document) (ending : Ending)
  | object (members : List (Scalar (List Char) × Document)) (ending : Ending)
  /-- Something with which no value begins. -/
  | stray
  /-- The end of the text. -/
  | missing

/-- A key and its value. -/
abbrev Member : Type :=
  Scalar (List Char) × Document

/-- A container part way through: the last item or member comes first. -/
inductive Frame
  | list (done : List Document)
  /-- The value of `key` is next. -/
  | object (done : List Member) (key : Scalar (List Char))

/-- What is expected next. -/
inductive Expecting
  /-- A value; a list that was just opened may be closed in place of it. -/
  | value (mayClose : Bool)
  /-- A key after the members that are done; an object that was just opened may be closed. -/
  | key (mayClose : Bool) (done : List Member)
  /-- The colon after a key. -/
  | colon (done : List Member) (key : Scalar (List Char))
  /-- What follows a value that is complete. -/
  | after (d : Document)

/-- Closes all containers around a value that comes last. They are closed as if their
brackets were there, since the defect is in the value and a reader does not get past it. -/
def enclose : List Frame → Document → Document
  | [], d => d
  | .list done :: outer, d => enclose outer (.list (d :: done).reverse .closed)
  | .object done key :: outer, d => enclose outer (.object ((key, d) :: done).reverse .closed)

/-- Closes everything at the end of the text. Where a value is missing it is `missing` that
stands there; where an item or a key is missing it is the ending of the container that says
so. -/
def encloseAtEnd (stack : List Frame) : Expecting → Document
  | .value _ => enclose stack .missing
  | .key _ done => enclose stack (.object done.reverse (.keyless none))
  | .colon done key => enclose stack (.object ((key, .missing) :: done).reverse .closed)
  | .after d =>
    match stack with
    | [] => d
    | .list done :: outer => enclose outer (.list (d :: done).reverse .cut)
    | .object done key :: outer => enclose outer (.object ((key, d) :: done).reverse .cut)

/-- Closes everything at a lexeme that cannot be where it is. -/
def encloseAtStray (stack : List Frame) (l : Lexeme) : Expecting → Document
  | .value _ => enclose stack .stray
  | .key _ done => enclose stack (.object done.reverse (.keyless (some l)))
  | .colon done key => enclose stack (.object ((key, .stray) :: done).reverse .closed)
  | .after d =>
    match stack with
    | [] => d
    | .list done :: outer => enclose outer (.list (d :: done).reverse .stray)
    | .object done key :: outer => enclose outer (.object ((key, d) :: done).reverse .stray)

/-- What a lexeme does to the machine. -/
inductive Move
  /-- It goes on, expecting something else in other containers. -/
  | go (next : Expecting) (stack : List Frame)
  /-- It stops with this document. -/
  | stop (d : Document)

/-- Goes on after a scalar, or stops at one that cannot be passed over. -/
def Move.scalar {α : Type} (stack : List Frame) (make : Scalar α → Document) (s : Scalar α) :
    Move :=
  match s.skipping with
  | .ok _ => .go (.after (make s)) stack
  | .error _ => .stop (enclose stack (make s))

/-- Takes one lexeme. The rows of the table are those of the grammar: values wherever one is
expected, keys and colons inside objects, commas and closing brackets after a value. -/
def Move.take (expecting : Expecting) (stack : List Frame) (l : Lexeme) : Move :=
  match expecting, stack, l with
  | .value _, stack, .null s => .scalar stack .null s
  | .value _, stack, .bool s => .scalar stack .bool s
  | .value _, stack, .number s => .scalar stack .number s
  | .value _, stack, .text s => .scalar stack .text s
  | .value _, stack, .openBracket => .go (.value true) (.list [] :: stack)
  | .value _, stack, .openBrace => .go (.key true []) stack
  | .value true, .list [] :: outer, .closeBracket => .go (.after (.list [] .closed)) outer
  | .key true [], stack, .closeBrace => .go (.after (.object [] .closed)) stack
  | .key _ done, stack, .text s =>
    match s.skipping with
    | .ok _ => .go (.colon done s) stack
    | .error _ => .stop (enclose stack (.object ((s, .missing) :: done).reverse .closed))
  | .colon done key, stack, .colon => .go (.value false) (.object done key :: stack)
  | .after d, .list done :: outer, .comma => .go (.value false) (.list (d :: done) :: outer)
  | .after d, .list done :: outer, .closeBracket =>
    .go (.after (.list (d :: done).reverse .closed)) outer
  | .after d, .object done key :: outer, .comma => .go (.key false ((key, d) :: done)) outer
  | .after d, .object done key :: outer, .closeBrace =>
    .go (.after (.object ((key, d) :: done).reverse .closed)) outer
  | expecting, stack, l => .stop (encloseAtStray stack l expecting)

/-- Runs the machine: the document, and the lexemes after it. With nothing left on the stack
a value that is complete is the document, whatever follows. -/
def assemble : Expecting → List Frame → List Lexeme → Document × List Lexeme
  | .after d, [], rest => (d, rest)
  | expecting, stack, [] => (encloseAtEnd stack expecting, [])
  | expecting, stack, l :: rest =>
    match Move.take expecting stack l with
    | .go next stack => assemble next stack rest
    | .stop d => (d, [])

/-- The document at the beginning of a text, and the lexemes after it. -/
def Document.ofText (s : List Char) : Document × List Lexeme :=
  assemble (.value false) [] (lexemes s)

end TokenSpans.Json
