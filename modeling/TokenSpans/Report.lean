import TokenSpans.Filter
import TokenSpans.Location
import TokenSpans.Role

/-!
# Reports

What the library says about its work while it works, one constructor for each thing it can say. The
level, the part, the message and the fields of a report are functions of it.

A report is what happened, and not yet a record in a log: its words and fields are computed
from it, and whether it is let through is asked of a filter only when the records are
written. So results about runs speak of reports, in their order and whole
(`Proofs/Standard/Narration.lean`), and hold for every level.

Each function below has a case for every constructor, written out in groups instead of a
default case, so a new report does not get a level or a part by accident.
-/

namespace TokenSpans

/-- One thing said about the work. -/
inductive Report
  /-- Text was read: its bytes, and the place after it. -/
  | read (bytes : Nat) (now : Location)
  /-- A marker was set for a property. -/
  | marked (property : String) (start : Location)
  /-- A span was completed under a property; the offsets of its ends. -/
  | completed (property : String) (start stop : Nat)
  /-- An observer is about to be told of a span. -/
  | notifying (property : String)
  /-- A marked production yielded no item. -/
  | nothingProduced (offset : Nat)
  /-- Marking was installed on a host of this role. -/
  | installed (role : Role) (property : String)
  /-- A host without a role was refused. -/
  | refused
  /-- A lexer was set up. -/
  | lexerCreated
  | ruleRegistered (kind : String)
  /-- A rule was asked for that does not exist. -/
  | unknownRule (kind : String)
  /-- A rule took text as a token; the place is that after the token. -/
  | produced (kind value : String) (line column : Nat)
  | noRuleMatched (here : Location)
  | endOfInput
  /-- Tokenising a source of so many bytes: the record all later ones belong to. -/
  | tokenising (bytes : Nat)
  | started
  /-- Text was left over at this offset; its beginning is given. -/
  | stoppedEarly (offset : Nat) (snippet : List Char)
  /-- All text was taken, in so many tokens. -/
  | finished (tokens : Nat)
  deriving DecidableEq, Repr

/-- The value of a field of a report. -/
inductive FieldValue
  | number (n : Nat)
  | text (s : String)
  deriving DecidableEq, Repr

namespace Report

/-- How grave a report is: refusals are warnings, and what happens at every character is
traced. -/
def level : Report → Level
  | refused | unknownRule _ | noRuleMatched _ => .warn
  | tokenising _ | started | finished _ => .info
  | notifying _ | installed _ _ | ruleRegistered _ | produced _ _ _ _ | stoppedEarly _ _ => .debug
  | read _ _ | marked _ _ | completed _ _ _ | nothingProduced _ | lexerCreated | endOfInput =>
    .trace

/-- The part of the program that says it, which decides on the limit that applies. -/
def part : Report → Part
  | read _ _ => .cursor
  | marked _ _ | completed _ _ _ | notifying _ | nothingProduced _ | installed _ _ | refused =>
    .position
  | lexerCreated | ruleRegistered _ | unknownRule _ | produced _ _ _ _ | noRuleMatched _
  | endOfInput | tokenising _ | started | stoppedEarly _ _ | finished _ => .lexer

/-- Whether the report opens a stretch of work rather than telling of an event in it. -/
def isOpening : Report → Bool
  | tokenising _ => true
  | _ => false

/-- The words of a report; what differs from one report to the next stands in its fields. -/
def message : Report → String
  | read _ _ => "Consumed input"
  | marked _ _ => "Marked start"
  | completed _ _ _ => "Completed position"
  | notifying _ => "Emitting position event"
  | nothingProduced _ => "Nothing produced"
  | installed _ _ => "Installed position plugin"
  | refused => "Refusing to install onto a target without capability marker"
  | lexerCreated => "Creating new RuleLexer"
  | ruleRegistered _ => "Registered rule"
  | unknownRule _ => "Unknown rule"
  | produced _ _ _ _ => "Produced token"
  | noRuleMatched _ => "No rule matched"
  | endOfInput => "End of input"
  | tokenising _ => "tokenize_with_config"
  | started => "Starting tokenizer"
  | stoppedEarly _ _ => "Tokenizer stopped early"
  | finished tokens => s!"Tokenizer completed: {tokens} tokens"

/-- The three numbers of a place as fields. -/
def placeFields (l : Location) : List (String × FieldValue) :=
  [("offset", .number l.offset), ("line", .number l.line), ("column", .number l.column)]

/-- The fields of a report in the order in which they are written. -/
def fields : Report → List (String × FieldValue)
  | read bytes now => ("bytes", .number bytes) :: placeFields now
  | marked property start => ("property", .text property) :: placeFields start
  | completed property start stop =>
    [("property", .text property), ("start", .number start), ("end", .number stop)]
  | notifying property => [("property", .text property)]
  | nothingProduced offset => [("offset", .number offset)]
  | installed role property =>
    [("capability", .text role.name), ("property", .text property)]
  | ruleRegistered kind => [("kind", .text kind)]
  | unknownRule kind => [("kind", .text kind)]
  | produced kind value line column =>
    [("kind", .text kind), ("value", .text value), ("line", .number line),
      ("column", .number column)]
  | noRuleMatched here => placeFields here
  | tokenising bytes => [("len", .number bytes)]
  | stoppedEarly offset snippet =>
    [("offset", .number offset), ("snippet", .text (String.ofList snippet))]
  | refused | lexerCreated | endOfInput | started | finished _ => []

/-- Whether a filter lets the report through. -/
def passes (f : Filter) (r : Report) : Bool :=
  f.lets r.part.target r.level

end Report

end TokenSpans
