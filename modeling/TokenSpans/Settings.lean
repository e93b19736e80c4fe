import TokenSpans.Filter
import TokenSpans.Numbering
import TokenSpans.Spans

/-!
# Settings

How a text is read and where its spans are kept. A settings file gives some of the settings and
leaves the others open; laying it over given settings replaces what it gives and nothing else, so
that laying two files one after the other is laying their merge.

The settings of the program and the contents of a file are two types. `Settings` has a value
in every field, while each field of `SettingsFile` may be open, and an open field is not the
same as one that is set to the standard value: only the latter replaces what is there.
`merge` and `applyCursor` use the same two operations, `or` and `getD`, field by field, and
this is all that the laws in `Proofs/Overlaying.lean` rest on.

A label is the one setting that can be replaced but not removed, as it is optional on both
sides: a file that leaves it open and one that would clear it look the same.
-/

namespace TokenSpans

/-- How a cursor counts, and what it tells others. -/
structure CursorSettings where
  numbering : Numbering
  /-- The label of the text, copied into every span. -/
  source : Option String
  /-- Whether the observer is told of completed spans. -/
  announces : Bool
  deriving DecidableEq, Repr

/-- Counting from one, without a label, with announcements. -/
def CursorSettings.standard : CursorSettings :=
  ⟨.one, none, true⟩

instance : Inhabited CursorSettings :=
  ⟨.standard⟩

/-- All fields with their names. -/
def CursorSettings.dump (c : CursorSettings) : String :=
  "CursorConfig \x7b baseline: " ++
    (match c.numbering with
      | .zero => "Zero"
      | .one => "One") ++
    ", source: " ++ Text.quotedOption c.source ++ s!", emit_events: {c.announces} \x7d"

/-- Where spans are kept. -/
structure SpanSettings where
  /-- The name under which the span of a token is kept. -/
  property : String
  deriving DecidableEq, Repr

/-- Keeping spans under the default name. -/
def SpanSettings.standard : SpanSettings :=
  ⟨Spans.primaryName⟩

instance : Inhabited SpanSettings :=
  ⟨.standard⟩

/-- All settings of the program. -/
structure Settings where
  limits : Limits
  cursor : CursorSettings
  span : SpanSettings
  deriving DecidableEq, Repr

/-- The settings where nothing is chosen: reports are let through from `info` on. -/
def Settings.standard : Settings :=
  ⟨Limits.uniform .info, .standard, .standard⟩

instance : Inhabited Settings :=
  ⟨.standard⟩

/-- Settings as far as a file gives them. All fields are optional, and none of them depends
on another. -/
structure SettingsFile where
  numbering : Option Numbering
  property : Option String
  source : Option String
  announces : Option Bool
  /-- The name of the global level, which need not be one that exists. -/
  level : Option String
  deriving DecidableEq, Repr

namespace SettingsFile

/-- The file that leaves everything open. -/
def blank : SettingsFile :=
  ⟨none, none, none, none, none⟩

instance : Inhabited SettingsFile :=
  ⟨blank⟩

/-- The settings of a cursor with those that the file gives in their place. -/
def applyCursor (f : SettingsFile) (c : CursorSettings) : CursorSettings where
  numbering := f.numbering.getD c.numbering
  source := f.source.or c.source
  announces := f.announces.getD c.announces

/-- The name for spans with the one that the file gives in its place. -/
def applySpan (f : SettingsFile) (s : SpanSettings) : SpanSettings where
  property := f.property.getD s.property

/-- One file over another: where both give a setting, that of `top` counts. The files are
merged without looking at what they give, also where both name a level and neither level
exists. -/
def merge (top base : SettingsFile) : SettingsFile where
  numbering := top.numbering.or base.numbering
  property := top.property.or base.property
  source := top.source.or base.source
  announces := top.announces.or base.announces
  level := top.level.or base.level

end SettingsFile

/-- The standard settings with a file laid over them; a level that does not exist is passed
over, as if the file had left it open. -/
def Settings.ofFile (f : SettingsFile) : Settings where
  limits := Limits.uniform ((f.level.bind Level.parse?).getD .info)
  cursor := f.applyCursor .standard
  span := f.applySpan .standard

end TokenSpans
