import TokenSpans.Settings

/-!
# Invocations

What a command line asks for, and the settings that come of it together with a settings file. What
is said on the command line counts for more than the file. Two things are peculiar: a source label
that nobody gives is the path of the input, and without any level only warnings and errors are let
through.

There are three layers: the standard settings, the file over them and the command line on
top. Most fields follow them field by field, and `settings` could be laid out as two
overlays but for the two peculiar ones, the label and the level, which is why they are
written out. `Proofs/CommandLine/Layers.lean` says of each field where it comes from.
-/

namespace TokenSpans.CommandLine

/-- What a command line asks for. -/
structure Invocation where
  /-- The path of the input; the standard input if there is none. -/
  input : Option String
  /-- The path of the settings file. -/
  config : Option String
  /-- The settings of the same names, open where nothing is said. -/
  numbering : Option Numbering
  property : Option String
  source : Option String
  /-- Whether tokens are written as JSON. -/
  json : Bool
  /-- The layout of log records, which has no part in a settings file. -/
  format : LogFormat
  /-- The name of the global limit, looked up only when the settings are made. -/
  level : Option String
  /-- The path of a file that the log is written to as well. -/
  logFile : Option String
  deriving DecidableEq, Repr

/-- The command line without any arguments. -/
def Invocation.plain : Invocation :=
  ⟨none, none, none, none, none, false, .compact, none, none⟩

instance : Inhabited Invocation :=
  ⟨.plain⟩

namespace Invocation

/-- The settings given on the command line, in the form of a file. Announcements cannot be
chosen there. -/
def asFile (i : Invocation) : SettingsFile where
  numbering := i.numbering
  property := i.property
  source := i.source
  announces := none
  level := i.level

/-- The global limit: the level given, which has to exist, or else that for warnings. The
name on the command line hides the one in the file, also if it is this name that does not
exist: the other is then not tried. -/
def limit (i : Invocation) (file : SettingsFile) : Except String Level :=
  match i.level.or file.level with
  | none => .ok .warn
  | some name =>
    match Level.parse? name with
    | some level => .ok level
    | none => .error name

/-- The settings for a run; it is an error to choose a level that does not exist. The file
is laid over the standard settings first, and its own level is then replaced by the limit.
-/
def settings (i : Invocation) (file : SettingsFile) : Except String Settings := do
  let base := Settings.ofFile file
  let global ← i.limit file
  .ok
    { limits := { base.limits with global }
      cursor :=
        { base.cursor with
          numbering := i.numbering.getD base.cursor.numbering
          source := i.source.or (base.cursor.source.or i.input) }
      span := { property := i.property.getD base.span.property } }

end Invocation

end TokenSpans.CommandLine
