import TokenSpans.Text.LowerCase

/-!
# Roles of hosts

A host declares what it is, and marking is installed only on hosts that declare something.

There is no role for a host that declares nothing: such a host has no role at all, and
tracking it ends in the fault `noRole`. The names are those that hosts give of themselves,
and are read back without regard to ASCII capitals.
-/

namespace TokenSpans

/-- What a host declares itself to be. -/
inductive Role
  | lexer
  | tokenizer
  deriving DecidableEq, Repr, Inhabited

namespace Role

/-- The name a host gives of itself. -/
def name : Role → String
  | lexer => "lexer"
  | tokenizer => "tokenizer"

/-- Reads a role's name; ASCII capitals count as small letters. -/
def parse? (s : String) : Option Role :=
  let small := String.ofList (Text.lowerAscii s.toList)
  if small = "lexer" then some lexer
  else if small = "tokenizer" then some tokenizer
  else none

end Role

end TokenSpans
