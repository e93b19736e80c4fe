import TokenSpans.Text.Bytes
import TokenSpans.Text.Quoted

/-!
# Rules

A matcher looks at the text ahead and says how many bytes of it to take, or that it takes none. A
rule gives what its matcher takes a kind. A rule never takes nothing: a matcher that matches zero
bytes counts as one that does not match.

A matcher is any function: nothing keeps it from answering with a length inside a character
or beyond the end of the text, and the results about lexers hold for those as well, since
reading rounds such a length to the end of a character and stops at the end of the text. The
four shapes that come with a name (`literal`, `single`, `oneOf`, `runOf`) always answer with
a boundary; `fixed` and `never` are there to tell what happens with matchers that do not
look at the text.

Zero is filtered out in `matchLength` and nowhere else. It is what makes every step of a
lexer shorten the text ahead, so `matchLength_pos` and `firstMatch_pos` stand here, before
the lexer whose recursion needs them.
-/

namespace TokenSpans

/-- Says how many bytes to take from the beginning of a text, or that there is nothing to
take. -/
abbrev Matcher : Type :=
  List Char → Option Nat

namespace Matcher

/-- Takes one fixed text, also the empty one, which a rule then counts as no match. -/
def literal (text : List Char) : Matcher :=
  fun s => if text.isPrefixOf s then some (Text.byteLength text) else none

/-- Takes one fixed character. -/
def single (expected : Char) : Matcher :=
  fun s =>
    match s with
    | [] => none
    | c :: _ => if c = expected then some c.utf8Size else none

/-- Takes one character with a property. -/
def oneOf (p : Char → Bool) : Matcher :=
  fun s =>
    match s with
    | [] => none
    | c :: _ => if p c then some c.utf8Size else none

/-- Takes the longest run of characters with a property, if it is not empty. -/
def runOf (p : Char → Bool) : Matcher :=
  fun s =>
    let bytes := Text.byteLength (s.takeWhile p)
    if 0 < bytes then some bytes else none

/-- Takes a fixed number of bytes whatever the text. -/
def fixed (bytes : Nat) : Matcher :=
  fun _ => some bytes

/-- Takes nothing. -/
def never : Matcher :=
  fun _ => none

end Matcher

/-- A matcher and the kind of what it takes. -/
structure Rule where
  kind : String
  matcher : Matcher

namespace Rule

/-- How many bytes the rule takes: never zero. -/
def matchLength (r : Rule) (s : List Char) : Option Nat :=
  (r.matcher s).filter (fun bytes => 0 < bytes)

/-- The first rule that takes something, and how much it takes. The order of the rules
decides, not the lengths: a later rule that would take more is not asked. -/
def firstMatch (rules : List Rule) (s : List Char) : Option (Rule × Nat) :=
  rules.findSome? (fun r => (r.matchLength s).map (fun bytes => (r, bytes)))

/-- The kind; the matcher cannot be shown. -/
def dump (r : Rule) : String :=
  "Rule \x7b kind: " ++ Text.quoted r.kind ++ ", .. \x7d"

/-- What a rule takes is at least one byte. -/
theorem matchLength_pos {r : Rule} {s : List Char} {bytes : Nat}
    (h : r.matchLength s = some bytes) : 0 < bytes := by
  simpa using (Option.filter_eq_some_iff.1 h).2

/-- What the first rule takes is at least one byte, whatever the rules are. -/
theorem firstMatch_pos {rules : List Rule} {s : List Char} {r : Rule} {bytes : Nat}
    (h : firstMatch rules s = some (r, bytes)) : 0 < bytes := by
  obtain ⟨rule, _, hrule⟩ := List.exists_of_findSome?_eq_some h
  obtain ⟨n, hn, heq⟩ := Option.map_eq_some_iff.1 hrule
  cases heq
  exact matchLength_pos hn

end Rule

end TokenSpans
