import TokenSpans.CommandLine.Arguments
import TokenSpans.CommandLine.File
import TokenSpans.CommandLine.Listing
import TokenSpans.Json.Settings

/-!
# A run of the command

A run takes its arguments, reads the settings file, opens the log, reads the input and prints its
tokens, in this order, and the first thing that fails ends it. Where files and the standard input
come from is left to a `World`, so that a run can do its work on a disk or on a directory that is a
mere value.

The order is observable: a level that does not exist is reported before the log file is
made, the log file is made before the input is read, and an input that cannot be read ends
the run although the settings were fine. `perform` is written in a monad with an early exit,
so that each of these is one step and none is tried after another has failed.

Nothing is printed before the outcome is known. A run that finds no rule for some of its
input has tokens up to there, and prints none of them.
-/

namespace TokenSpans.CommandLine

/-- What a run leaves behind. -/
structure Outcome where
  /-- Zero if all went well, two if the arguments were not accepted, and one otherwise. -/
  code : Nat
  stdout : String
  stderr : String
  deriving DecidableEq, Repr

namespace Outcome

/-- A run that fails before there are tokens: the reason goes to the error stream alone. -/
def failed (reason : String) : Outcome :=
  ⟨1, "", "Error: " ++ reason ++ "\n"⟩

/-- A run whose arguments are not accepted. It has done nothing else by then. -/
def usage (e : ArgumentError) : Outcome :=
  ⟨2, "", "error: " ++ e.message ++ "\n\n" ++
    "Usage: posmark [OPTIONS] [FILE]\n\nFor more information, try '--help'.\n"⟩

end Outcome

/-- The name and version of the command. -/
def versionText : String :=
  "posmark 0.1.0\n"

/-- What the command does and takes. -/
def helpText : String :=
  "Print the tokens of a source file with their positions\n\n" ++
  "Usage: posmark [OPTIONS] [FILE]\n\n" ++
  "Arguments:\n" ++
  "  [FILE]  Input file (default: stdin)\n\n" ++
  "Options:\n" ++
  "      --config <CONFIG>          JSON configuration file\n" ++
  "      --baseline <BASELINE>      Line / column baseline: 0 or 1\n" ++
  "      --property <PROPERTY>      Property name positions are attached under\n" ++
  "      --source <SOURCE>          Source label copied into every position\n" ++
  "      --json                     Print tokens as JSON\n" ++
  "      --log-format <LOG_FORMAT>  Log format: pretty, compact, json\n" ++
  "      --log-level <LOG_LEVEL>    Log level: silent, error, warn, info, debug, trace\n" ++
  "      --log-file <PATH>          Also write logs to this file\n" ++
  "  -h, --help                     Print help\n" ++
  "  -V, --version                  Print version\n"

/-- What is wrong with a settings file, in one word for each kind. -/
def describe : Json.Defect → String
  | .cut => "unexpected end of the text"
  | .malformed => "malformed JSON"
  | .mismatched => "a value of another type"

/-- The settings file in a text that was read from a path. It is read as a whole before it
is used, so a file with a defect anywhere gives no settings at all. -/
def settingsFile (path : String) (content : Except FileError ByteArray) :
    Except String SettingsFile := do
  match content.bind decode with
  | .error e => .error s!"cannot read '{path}': {e.message}"
  | .ok text =>
    match Json.read SettingsFile.reader text.toList with
    | .error d => .error s!"cannot parse '{path}': {describe d}"
    | .ok file => .ok file

/-- The source in the bytes that were read from a path or from the standard input; the two
differ only in the words of the error. -/
def sourceText (path : Option String) (content : Except FileError ByteArray) :
    Except String String :=
  match content.bind decode, path with
  | .ok text, _ => .ok text
  | .error e, some path => .error s!"cannot read input file '{path}': {e.message}"
  | .error e, none => .error s!"cannot read stdin: {e.message}"

/-- The outcome for a source: its tokens, or why there are none. Whether tokens are printed
as rows or as JSON makes no difference to a failure. -/
def outcome (i : Invocation) (settings : Settings) (source : List Char) : Outcome :=
  match (Standard.tokenise settings source).value with
  | .ok tokens => ⟨0, if i.json then jsonListing tokens else listing tokens, ""⟩
  | .error f => ⟨1, "", explain settings.cursor.numbering source f⟩

/-- Does what is asked for and settles at the first thing that fails. The steps are those of
the module's first paragraph, and what fails is told as the text of the error. -/
def perform {m : Type → Type} [Monad m] (world : World m) (i : Invocation) :
    ExceptT String m Outcome := do
  let file ←
    match i.config with
    | none => pure SettingsFile.blank
    | some path => do
      let content ← world.readFile path
      ExceptT.mk (pure (settingsFile path content))
  -- before the log is opened: a level that does not exist leaves no file behind
  let settings ←
    match i.settings file with
    | .ok settings => pure settings
    | .error name => throw s!"invalid log level '{name}'"
  match ← (installLog world false i.logFile : m _) with
  | .ok () => pure ()
  | .error e => throw e.message
  let content ←
    match i.input with
    | some path => world.readFile path
    | none => world.readInput
  let source ← ExceptT.mk (pure (sourceText i.input content))
  return outcome i settings source.toList

/-- A whole run. Asking for the version or for help does not touch the world, nor do
arguments that are not accepted. -/
def run {m : Type → Type} [Monad m] (world : World m) (arguments : List String) : m Outcome := do
  match Command.parse arguments with
  | .error e => return .usage e
  | .ok .version => return ⟨0, versionText, ""⟩
  | .ok .help => return ⟨0, helpText, ""⟩
  | .ok (.run i) =>
    match ← (perform world i).run with
    | .ok outcome => return outcome
    | .error reason => return .failed reason

end TokenSpans.CommandLine
