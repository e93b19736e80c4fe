import TokenSpans.Standard.Tokenise

/-!
# Settings chosen once

A process has one set of settings. They may be chosen before they are first needed; asking for them
when none are chosen chooses the standard ones. Once chosen they stay.

The cell is written at most once. There are two calls that write it, `choose` and `current`,
and whichever comes first decides: asking for the settings is not a mere look at them.
Tokenising asks for them too. `Chosen` is the cell as a value that each call takes and
returns, so that a history of calls is a fold (`Chosen/Calls.lean`) and that the cell is
written once is a theorem (`Proofs/Choosing.lean`).
-/

namespace TokenSpans

/-- The settings of a process, if they are chosen yet. -/
structure Chosen where
  settings? : Option Settings

namespace Chosen

/-- A process that has only begun. -/
def fresh : Chosen :=
  ⟨none⟩

/-- The reason why settings cannot be chosen: they were chosen before, by whichever call. -/
inductive Refusal
  | alreadyChosen
  deriving DecidableEq, Repr

/-- The refusal in words. -/
def Refusal.message : Refusal → String
  | alreadyChosen => "Config already initialized"

/-- Whether the settings are chosen. This is the one question that does not choose them. -/
def isChosen (c : Chosen) : Bool :=
  c.settings?.isSome

/-- Chooses the settings, if they are not chosen yet. -/
def choose (c : Chosen) (settings : Settings) : Chosen × Except Refusal Unit :=
  match c.settings? with
  | some _ => (c, .error .alreadyChosen)
  | none => (⟨some settings⟩, .ok ())

/-- The settings in use; they are chosen from then on, even if nothing was ever chosen by
name. -/
def current (c : Chosen) : Chosen × Settings :=
  let settings := c.settings?.getD .standard
  (⟨some settings⟩, settings)

/-- The tokens of a source under the settings in use. -/
def tokenise (c : Chosen) (source : List Char) : Chosen × Action TokenList :=
  let used := c.current
  (used.1, Standard.tokenise used.2 source)

end Chosen

end TokenSpans
