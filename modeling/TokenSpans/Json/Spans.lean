import TokenSpans.Json.Reader
import TokenSpans.Json.Value
import TokenSpans.Standard.Tokenise

/-!
# Spans and tokens in JSON

The written form of locations, spans and tokens, and the readers for it. A span without a label and
a token without spans leave the member out. Reading does not ask whether a span runs forwards.

The readers have the same shape as those of the settings: a draft with every field optional,
a list of fields, and `finish`, which here may fail, as a location without one of its
numbers is none. The order of the members is fixed when they are written and free when they
are read.

A collection of spans is an object with the names as keys. It is written in the order of the
names and read in any order, each span put in where its name belongs.
-/

namespace TokenSpans

open Json

namespace Location

/-- The three numbers, the offset first. -/
def toValue (l : Location) : Value :=
  .object [("offset", .number l.offset), ("line", .number l.line), ("column", .number l.column)]

/-- A location of which some numbers have been read. -/
structure Draft where
  offset : Option Nat
  line : Option Nat
  column : Option Nat

namespace Draft

def fields : List (Reader.Field Draft) :=
  [.of "offset" Reader.nat offset (fun d n => { d with offset := some n }),
    .of "line" Reader.nat line (fun d n => { d with line := some n }),
    .of "column" Reader.nat column (fun d n => { d with column := some n })]

/-- All three numbers are needed. -/
def finish (d : Draft) : Option Location := do
  return ⟨← d.offset, ← d.line, ← d.column⟩

end Draft

/-- Reads a location; each number has to fit a word. -/
def reader : Reader Location :=
  Reader.record Draft.fields ⟨none, none, none⟩ Draft.finish

end Location

namespace Span

/-- Both ends, and the label if there is one. -/
def toValue (s : Span) : Value :=
  let ends := [("start", s.start.toValue), ("end", s.stop.toValue)]
  match s.source with
  | none => .object ends
  | some label => .object (ends ++ [("source", .text label)])

/-- A span of which some fields have been read. -/
structure Draft where
  start : Option Location
  stop : Option Location
  source : Option (Option String)

namespace Draft

def fields : List (Reader.Field Draft) :=
  [.of "start" Location.reader start (fun d l => { d with start := some l }),
    .of "end" Location.reader stop (fun d l => { d with stop := some l }),
    .of "source" (Reader.option Reader.text) source (fun d s => { d with source := some s })]

/-- Both ends are needed. -/
def finish (d : Draft) : Option Span := do
  return ⟨← d.start, ← d.stop, d.source.join⟩

end Draft

/-- Reads a span, also one that runs backwards. -/
def reader : Reader Span :=
  Reader.record Draft.fields ⟨none, none, none⟩ Draft.finish

end Span

namespace Spans

/-- The names with their spans, in increasing order. -/
def toValue (s : Spans) : Value :=
  .object (s.entries.map (fun e => (e.1, e.2.toValue)))

/-- A name that is there more than once has the last of its spans. -/
def reader : Reader Spans := fun d => do
  let entries ← Reader.dictionary Span.reader d
  .ok (Spans.ofList entries)

end Spans

namespace Token

/-- The kind and the value, and the spans if there are any. -/
def toValue (t : Token) : Value :=
  let own := [("kind", Value.text t.kind), ("value", .text t.value)]
  if t.spans.isEmpty then .object own else .object (own ++ [("positions", t.spans.toValue)])

/-- A token of which some fields have been read. -/
structure Draft where
  kind : Option String
  value : Option String
  spans : Option Spans

namespace Draft

def fields : List (Reader.Field Draft) :=
  [.of "kind" Reader.text kind (fun d s => { d with kind := some s }),
    .of "value" Reader.text value (fun d s => { d with value := some s }),
    .of "positions" Spans.reader spans (fun d s => { d with spans := some s })]

/-- The kind and the value are needed. -/
def finish (d : Draft) : Option Token := do
  return ⟨← d.kind, ← d.value, d.spans.getD .empty⟩

end Draft

/-- Reads a token; its spans may be left out. -/
def reader : Reader Token :=
  Reader.record Draft.fields ⟨none, none, none⟩ Draft.finish

end Token

/-- The name of the spans and the tokens. -/
def TokenList.toValue (l : TokenList) : Value :=
  .object [("property", .text l.property), ("tokens", .list (l.tokens.map Token.toValue))]

end TokenSpans
