import TokenSpans.CommandLine.Invocation

/-!
# Arguments

Arguments are taken from left to right. An option that needs a value takes it from behind an equals
sign, or from the next argument unless that looks like an option itself. The value is then held back
and looked at when the next option or operand is met, or at the end; an argument that is not
understood at all is reported before a value that is held back.

The value is held back because an operand may follow it: only when the next argument is seen
is it certain that the last setting is over. `Progress` therefore keeps at most one setting
in `held`, with its value or still without, and every argument that begins something new
first calls `settle`.

Taking an argument is one step (`take`), with one function for each form of argument, and a
run of the parser is a fold with an early end (`takeAll`): a step yields either the progress
so far or the command that it ends in, as for help.
-/

namespace TokenSpans.CommandLine

/-- What an argument can set: the operand, a flag, or an option with a value. -/
inductive Setting
  | input
  | config
  | numbering
  | property
  | source
  | json
  | format
  | level
  | logFile
  deriving DecidableEq, Repr

namespace Setting

/-- The name in messages, with the name of the value if there is one. -/
def label : Setting → String
  | input => "[FILE]"
  | config => "--config <CONFIG>"
  | numbering => "--baseline <BASELINE>"
  | property => "--property <PROPERTY>"
  | source => "--source <SOURCE>"
  | json => "--json"
  | format => "--log-format <LOG_FORMAT>"
  | level => "--log-level <LOG_LEVEL>"
  | logFile => "--log-file <PATH>"

/-- The long names of options that need a value. The flags are not in the list, and have
cases of their own. -/
def withValue : List (String × Setting) :=
  [("config", config), ("baseline", numbering), ("property", property), ("source", source),
    ("log-format", format), ("log-level", level), ("log-file", logFile)]

end Setting

/-- Why the arguments are not accepted. -/
inductive ArgumentError
  /-- An option has no value, or an empty one where a path is needed. -/
  | missingValue (label : String)
  /-- A value is none of those that the option knows. -/
  | invalidValue (value label reason : String)
  /-- An argument is not known, or there are too many. -/
  | unexpected (argument : String)
  /-- A setting is made twice. -/
  | repeated (label : String)
  /-- A flag has a value. -/
  | needlessValue (value label : String)
  deriving DecidableEq, Repr

namespace ArgumentError

/-- The first line of the explanation. -/
def message : ArgumentError → String
  | missingValue label => s!"a value is required for '{label}' but none was supplied"
  | invalidValue value label reason => s!"invalid value '{value}' for '{label}': {reason}"
  | unexpected argument => s!"unexpected argument '{argument}' found"
  | repeated label => s!"the argument '{label}' cannot be used multiple times"
  | needlessValue value label =>
    s!"unexpected value '{value}' for '{label}' found; no more were expected"

end ArgumentError

/-- What the arguments come to. -/
inductive Command
  | run (i : Invocation)
  | version
  | help
  deriving DecidableEq, Repr

/-- The arguments taken so far. -/
structure Progress where
  invocation : Invocation
  /-- The settings that are made already. -/
  made : List Setting
  /-- The last setting while it is held back, with its value if that is there. -/
  held : Option (Setting × Option String)
  /-- Whether options are over. -/
  operandsOnly : Bool
  /-- Whether the operand is there. -/
  hasInput : Bool

namespace Progress

/-- Nothing taken yet. -/
def start : Progress :=
  ⟨.plain, [], none, false, false⟩

/-- A path, which may not be empty. -/
def path (s : Setting) (value : String) : Except ArgumentError String :=
  if value.isEmpty then .error (.missingValue s.label) else .ok value

/-- The invocation with one more setting. Numbering and layout are looked up at once and may
be refused here; a level is kept as it is, since only a run decides whether it exists. -/
def store (i : Invocation) (s : Setting) (value : String) : Except ArgumentError Invocation :=
  match s with
  | .input => return { i with input := some (← path s value) }
  | .config => return { i with config := some (← path s value) }
  | .numbering =>
    match Numbering.parse? value with
    | some n => .ok { i with numbering := some n }
    | none =>
      .error (.invalidValue value s.label s!"invalid baseline '{value}', expected 0 or 1")
  | .property => .ok { i with property := some value }
  | .source => .ok { i with source := some value }
  | .json => .ok { i with json := true }
  | .format =>
    match LogFormat.parse? value with
    | some format => .ok { i with format }
    | none => .error (.invalidValue value s.label s!"invalid log format '{value}'")
  | .level => .ok { i with level := some value }
  | .logFile => return { i with logFile := some (← path s value) }

/-- Makes a setting that may be made only once. The value is not looked at if the setting is
repeated. -/
def make (p : Progress) (s : Setting) (value : String) : Except ArgumentError Progress := do
  if s ∈ p.made then .error (.repeated s.label)
  else .ok { p with invocation := ← store p.invocation s value, made := s :: p.made }

/-- Makes the setting that is held back. One that still waits for its value has come to an
end without it. -/
def settle (p : Progress) : Except ArgumentError Progress :=
  match p.held with
  | none => .ok p
  | some (s, none) => .error (.missingValue s.label)
  | some (s, some value) => { p with held := none }.make s value

/-- Takes an operand: there is room for one. A second one is reported before the setting
that is held back is looked at. -/
def operand (p : Progress) (argument : String) : Except ArgumentError Progress := do
  if p.hasInput then .error (.unexpected argument)
  else .ok { ← p.settle with held := some (.input, some argument), hasInput := true }

/-- The name and the value of a long option, given what follows the two dashes. Only the
first equals sign separates; others belong to the value. -/
def splitLong (s : List Char) : List Char × Option (List Char) :=
  match s.span (fun c => c != '=') with
  | (name, []) => (name, none)
  | (name, _ :: value) => (name, some value)

/-- Takes a long option, given what follows the two dashes. A value behind an equals sign is
made at once, one in the next argument is waited for. -/
def longOption (p : Progress) (s : List Char) : Except ArgumentError (Progress ⊕ Command) := do
  let (name, value) := splitLong s
  let name := String.ofList name
  let label := "--" ++ name
  match Setting.withValue.lookup name, value with
  | some setting, some value =>
    let p ← p.settle
    return .inl (← p.make setting (String.ofList value))
  | some setting, none => return .inl { ← p.settle with held := some (setting, none) }
  | none, value =>
    if name = "json" ∨ name = "version" ∨ name = "help" then
      match value with
      | some value => .error (.needlessValue (String.ofList value) label)
      | none =>
        let p ← p.settle
        if name = "json" then return .inl (← p.make .json "")
        else if name = "version" then return .inr .version
        else return .inr .help
    else .error (.unexpected label)

/-- Takes short options, given the first letter after the dash: only two exist. -/
def shortOption (p : Progress) (c : Char) : Except ArgumentError (Progress ⊕ Command) := do
  if c = 'V' then
    let _ ← p.settle
    return .inr .version
  else if c = 'h' then
    let _ ← p.settle
    return .inr .help
  else .error (.unexpected (String.ofList ['-', c]))

/-- Takes an argument that is no option: a value that is waited for, or an operand. Behind
two dashes nothing is waited for any more. -/
def plainArgument (p : Progress) (argument : String) : Except ArgumentError Progress :=
  match p.held, p.operandsOnly with
  | some (s, none), false => .ok { p with held := some (s, some argument) }
  | _, _ => p.operand argument

/-- Takes one argument; some end the taking. -/
def take (p : Progress) (argument : String) : Except ArgumentError (Progress ⊕ Command) :=
  if p.operandsOnly then (p.operand argument).map .inl
  else
    match argument.toList with
    | ['-', '-'] => .ok (.inl { p with operandsOnly := true })
    | '-' :: '-' :: rest => p.longOption rest
    | '-' :: c :: _ => p.shortOption c
    | _ => (p.plainArgument argument).map .inl

/-- Takes all arguments that are left. At the end of the list the setting that is held back
is made. -/
def takeAll (p : Progress) : List String → Except ArgumentError Command
  | [] => do
    let p ← p.settle
    .ok (.run p.invocation)
  | argument :: rest => do
    match ← p.take argument with
    | .inl p => p.takeAll rest
    | .inr command => .ok command

end Progress

/-- What a list of arguments asks for. -/
def Command.parse (arguments : List String) : Except ArgumentError Command :=
  Progress.start.takeAll arguments

end TokenSpans.CommandLine
