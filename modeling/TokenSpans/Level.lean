import TokenSpans.Text.LowerCase

/-!
# Log levels

Five levels from the gravest to the most talkative. A level set as a limit lets through the reports
of its own level and of all graver ones.

The grave levels have the small ranks, so passing a limit is a comparison of numbers and
raising a limit only lets more through. There is no level below `error`: a reporter that is
to be silent still lets errors through, and the name for it in `choices` is a second name
for the same level.
-/

namespace TokenSpans

/-- How grave a report is. -/
inductive Level
  | error
  | warn
  | info
  | debug
  | trace
  deriving DecidableEq, Repr, Inhabited

namespace Level

/-- The place in the order, from the gravest on. Levels are compared by it and by nothing
else. -/
def rank : Level → Nat
  | error => 0
  | warn => 1
  | info => 2
  | debug => 3
  | trace => 4

/-- Whether a report of this level passes a limit. -/
def within (level limit : Level) : Bool :=
  level.rank ≤ limit.rank

/-- All levels, the gravest first. -/
def all : List Level :=
  [error, warn, info, debug, trace]

/-- The name in log records. -/
def name : Level → String
  | error => "ERROR"
  | warn => "WARN"
  | info => "INFO"
  | debug => "DEBUG"
  | trace => "TRACE"

/-- The names under which levels may be chosen; the silent one leaves only errors. -/
def choices : List (String × Level) :=
  [("silent", error), ("error", error), ("warn", warn), ("info", info), ("debug", debug),
    ("trace", trace)]

/-- Reads the name of a level in the full lower-case form of the text. -/
def parse? (s : String) : Option Level :=
  choices.lookup (String.ofList (Text.lowerCase s.toList))

end Level

/-- How log records are laid out. -/
inductive LogFormat
  | pretty
  | compact
  | json
  deriving DecidableEq, Repr, Inhabited

namespace LogFormat

/-- The names under which layouts may be chosen. -/
def choices : List (String × LogFormat) :=
  [("pretty", pretty), ("compact", compact), ("json", json)]

/-- Reads the name of a layout in the full lower-case form of the text. -/
def parse? (s : String) : Option LogFormat :=
  choices.lookup (String.ofList (Text.lowerCase s.toList))

end LogFormat

end TokenSpans
