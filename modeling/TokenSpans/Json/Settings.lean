import TokenSpans.Json.Reader
import TokenSpans.Json.Value
import TokenSpans.Settings

/-!
# Settings in JSON

The written form of settings and the readers for it. What a text does not give takes the standard
value of the settings it belongs to, and is left open in a settings file.

Each record is read by way of a draft: the same record with every field optional, in which a
field is put when its member is met. The draft is what tells a member that is there twice
from one that is there once, and `finish` turns it into the record, with the standard values
for what was not given. In a settings file a field may also be given as null, so there the
draft has two layers of options, which `join` makes one: not given and null are the same.

`fields` is a list, and the reader of a record is one definition that takes such a list
(`Reader.record`). A further setting is a further entry.
-/

namespace TokenSpans

open Json

namespace Numbering

/-- The two names. -/
def names : List (String × Numbering) :=
  [(zero.name, zero), (one.name, one)]

/-- Reads one of the names, as they are written: capitals are not accepted in a file. -/
def reader : Reader Numbering :=
  Reader.choice names

/-- A numbering is written as its name. -/
def toValue (n : Numbering) : Value :=
  .text n.name

end Numbering

namespace CursorSettings

/-- The members in the order of the fields; a label that is missing is written as null. -/
def toValue (c : CursorSettings) : Value :=
  .object [("baseline", c.numbering.toValue), ("source", .ofOption c.source),
    ("emit_events", .bool c.announces)]

/-- Settings of a cursor of which some have been read. -/
structure Draft where
  numbering : Option Numbering
  source : Option (Option String)
  announces : Option Bool

namespace Draft

/-- The fields by the names of their members, in the order in which a list may give them. -/
def fields : List (Reader.Field Draft) :=
  [.of "baseline" Numbering.reader numbering (fun d n => { d with numbering := some n }),
    .of "source" (Reader.option Reader.text) source (fun d s => { d with source := some s }),
    .of "emit_events" Reader.bool announces (fun d b => { d with announces := some b })]

/-- What is not given is standard. -/
def finish (d : Draft) : CursorSettings where
  numbering := d.numbering.getD CursorSettings.standard.numbering
  source := d.source.getD CursorSettings.standard.source
  announces := d.announces.getD CursorSettings.standard.announces

end Draft

/-- Reads the settings of a cursor; an object without members gives the standard ones. -/
def reader : Reader CursorSettings :=
  Reader.record Draft.fields ⟨none, none, none⟩ (fun d => some d.finish)

end CursorSettings

namespace SpanSettings

/-- One member, with the name under which spans are kept. -/
def toValue (s : SpanSettings) : Value :=
  .object [("property", .text s.property)]

/-- One field; the draft is the name itself, if it is there. -/
def fields : List (Reader.Field (Option String)) :=
  [.of "property" Reader.text id (fun _ s => some s)]

/-- Reads where spans are kept. -/
def reader : Reader SpanSettings :=
  Reader.record fields none (fun property => some ⟨property.getD standard.property⟩)

end SpanSettings

namespace SettingsFile

/-- All members are written, and those that the file leaves open are null. -/
def toValue (f : SettingsFile) : Value :=
  .object
    [("baseline", (f.numbering.map Numbering.toValue).getD .null),
      ("property", .ofOption f.property),
      ("source", .ofOption f.source),
      ("emit_events", (f.announces.map Value.bool).getD .null),
      ("log_level", .ofOption f.level)]

/-- A settings file of which some fields have been read; each may be given as null. -/
structure Draft where
  numbering : Option (Option Numbering)
  property : Option (Option String)
  source : Option (Option String)
  announces : Option (Option Bool)
  level : Option (Option String)

namespace Draft

/-- The fields by the names of their members; each may be null. -/
def fields : List (Reader.Field Draft) :=
  [.of "baseline" (Reader.option Numbering.reader) numbering
      (fun d n => { d with numbering := some n }),
    .of "property" (Reader.option Reader.text) property (fun d s => { d with property := some s }),
    .of "source" (Reader.option Reader.text) source (fun d s => { d with source := some s }),
    .of "emit_events" (Reader.option Reader.bool) announces
      (fun d b => { d with announces := some b }),
    .of "log_level" (Reader.option Reader.text) level (fun d s => { d with level := some s })]

/-- What is not given, or given as null, is left open. -/
def finish (d : Draft) : SettingsFile where
  numbering := d.numbering.join
  property := d.property.join
  source := d.source.join
  announces := d.announces.join
  level := d.level.join

end Draft

/-- Reads a settings file. Members that are not settings are passed over. -/
def reader : Reader SettingsFile :=
  Reader.record Draft.fields ⟨none, none, none, none, none⟩ (fun d => some d.finish)

end SettingsFile

end TokenSpans
