import Mathlib.Data.List.Induction
import TokenSpans.Settings

/-!
# Settings files laid over one another

A settings file acts on the settings of a cursor and of spans: what it gives replaces what was there
(`valueOf_apply`). Two files one after the other act as their merge (`apply_merge`), and merging is
associative with the blank file as its unit, so files in a row act as a single one
(`applyAll_eq_apply_mergeAll`).

All of this is said once for any setting that a file may give. The source label is the setting that
may be missing in the settings themselves, so what a file gives there is a label that is present: it
can replace a label but not take one away.

Four fields with four types would make four proofs of each law. They are one family here:
`Setting` names the field, `Setting.Value` is its type, and `given?` and `valueOf` look it
up, so each law is proved of an arbitrary setting and carried to whole settings by
`Overlaid.ext_valueOf`. Only two lemmas go through the fields, one for laying over and one
for merging, and a fifth setting would add a case to each.

The level is left out of the family. It does not act on these settings but on the limits,
and a name that does not exist acts on nothing.
-/

namespace TokenSpans

/-- The settings that a file lays over those of a cursor and of spans. The level is not one of
them. -/
inductive Setting
  | numbering
  | source
  | announces
  | property
  deriving DecidableEq, Repr

/-- What a setting may be set to. -/
def Setting.Value : Setting → Type
  | numbering => Numbering
  | source => Option String
  | announces => Bool
  | property => String

/-- The settings that files are laid over. -/
abbrev Overlaid : Type :=
  CursorSettings × SpanSettings

namespace Overlaid

/-- What a setting is set to. -/
def valueOf (held : Overlaid) : (s : Setting) → s.Value
  | .numbering => held.1.numbering
  | .source => held.1.source
  | .announces => held.1.announces
  | .property => held.2.property

/-- Settings are the same if each of them is. -/
theorem ext_valueOf {held held' : Overlaid} (h : ∀ s, held.valueOf s = held'.valueOf s) :
    held = held' := by
  obtain ⟨⟨numbering, source, announces⟩, ⟨property⟩⟩ := held
  obtain ⟨⟨numbering', source', announces'⟩, ⟨property'⟩⟩ := held'
  obtain rfl : numbering = numbering' := h .numbering
  obtain rfl : source = source' := h .source
  obtain rfl : announces = announces' := h .announces
  obtain rfl : property = property' := h .property
  rfl

end Overlaid

namespace SettingsFile

/-- What a file gives for a setting. -/
def given? (f : SettingsFile) : (s : Setting) → Option s.Value
  | .numbering => f.numbering
  | .source => f.source.map some
  | .announces => f.announces
  | .property => f.property

/-- A file laid over the settings of a cursor and of spans. -/
def apply (f : SettingsFile) (held : Overlaid) : Overlaid :=
  (f.applyCursor held.1, f.applySpan held.2)

/-- Files laid over settings one after the other. -/
def applyAll (files : List SettingsFile) (held : Overlaid) : Overlaid :=
  files.foldl (fun held f => f.apply held) held

/-- The single file that comes of files one after the other, each over those before it. -/
def mergeAll (files : List SettingsFile) : SettingsFile :=
  files.foldl (fun base top => top.merge base) blank

variable (f g : SettingsFile) (held : Overlaid)

/-! ## One setting under a file

Both operations, looked at in one setting, are operations on options: laying over takes what
is given or else what was there, and merging takes the first of two that is given. -/

/-- A setting under a file is what the file gives, or else what it was. -/
theorem valueOf_apply (s : Setting) :
    (f.apply held).valueOf s = (f.given? s).getD (held.valueOf s) := by
  cases s with
  | numbering => rfl
  | source =>
    obtain ⟨numbering, property, source, announces, level⟩ := f
    cases source <;> rfl
  | announces => rfl
  | property => rfl

/-- A merged file gives what the top one gives, or else what the other one does. -/
theorem given?_merge (s : Setting) : (g.merge f).given? s = (g.given? s).or (f.given? s) := by
  cases s with
  | numbering => rfl
  | source => exact Option.map_or
  | announces => rfl
  | property => rfl

/-! ## Merging

Files under merging are a monoid in which every element is idempotent, since `or` on options
is one and the fields do not interact. -/

/-- Of three files it does not matter which two are merged first. -/
theorem merge_assoc (h : SettingsFile) : (h.merge g).merge f = h.merge (g.merge f) := by
  simp only [merge, Option.or_assoc]

/-- A file over the blank one is the file. -/
theorem merge_blank : f.merge blank = f := by
  simp only [merge, blank, Option.or_none]

/-- The blank file over another one is the other one. -/
theorem blank_merge : blank.merge f = f := by
  simp only [merge, blank, Option.none_or]

/-- A file over itself is the file. -/
theorem merge_self : f.merge f = f := by
  simp only [merge, Option.or_self]

/-! ## Merging acts by laying over

The action law connects the two: laying a merged file is laying both. From it the laws for
files in a row follow by induction on the list, from its end, since the last file is the one
on top. -/

/-- The blank file leaves settings as they are. -/
theorem apply_blank : blank.apply held = held := rfl

/-- **Laying one file after another is laying their merge.** -/
theorem apply_merge : (g.merge f).apply held = g.apply (f.apply held) := by
  apply Overlaid.ext_valueOf
  intro s
  rw [valueOf_apply, valueOf_apply, valueOf_apply, given?_merge, Option.getD_or]

/-- Files in a row act as their merge. -/
theorem applyAll_eq_apply_mergeAll (files : List SettingsFile) :
    applyAll files held = (mergeAll files).apply held := by
  induction files using List.reverseRecOn with
  | nil => rfl
  | append_singleton files top ih =>
    have hmerge : top.merge (mergeAll files) = mergeAll (files ++ [top]) := by
      rw [mergeAll, mergeAll, List.foldl_append]
      rfl
    calc applyAll (files ++ [top]) held
        = top.apply (applyAll files held) := List.foldl_append
      _ = top.apply ((mergeAll files).apply held) := by rw [ih]
      _ = (top.merge (mergeAll files)).apply held := (apply_merge ..).symm
      _ = (mergeAll (files ++ [top])).apply held := by rw [hmerge]

variable {f g}

/-- Files of which no setting is given by both may change places. -/
theorem apply_comm_of_disjoint (h : ∀ s, f.given? s = none ∨ g.given? s = none) :
    g.apply (f.apply held) = f.apply (g.apply held) := by
  apply Overlaid.ext_valueOf
  intro s
  rw [valueOf_apply, valueOf_apply, valueOf_apply, valueOf_apply]
  rcases h s with hnone | hnone
  · rw [hnone, Option.getD_none, Option.getD_none]
  · rw [hnone, Option.getD_none, Option.getD_none]

/-- A label that is there under a file stays, or is replaced by another one. -/
theorem isSome_source_apply (hsource : held.1.source.isSome) :
    (f.apply held).1.source.isSome := by
  rw [apply, applyCursor, Option.isSome_or, hsource, Bool.or_true]

/-- A level that does not exist is passed over, and all other settings are kept. -/
theorem ofFile_of_parse?_eq_none {name : String} (hlevel : f.level = some name)
    (hname : Level.parse? name = none) :
    Settings.ofFile f = Settings.ofFile { f with level := none } := by
  simp only [Settings.ofFile, hlevel, Option.bind_some, hname]
  rfl

/-- **Settings files act by right-biased merging.** One file after another comes to the same as the
single file that has what the later one gives, and the rest from the earlier one. Merging is
associative, with the blank file as unit. So a file laid twice is laid once, files in a row are laid
as their merge, and two files that give different settings may be laid in either order. A setting
that a file does not give stays as it was, one that it gives is replaced, and no file takes a label
away. The level changes none of these settings; one that does not exist leaves the settings of the
program as they are without it. -/
theorem files_act_by_merging :
    (∀ (f g : SettingsFile) (held : Overlaid),
        g.apply (f.apply held) = (g.merge f).apply held) ∧
      ((∀ f g h : SettingsFile, (h.merge g).merge f = h.merge (g.merge f)) ∧
        (∀ f : SettingsFile, f.merge blank = f ∧ blank.merge f = f) ∧
        ∀ held, blank.apply held = held) ∧
      (∀ (f : SettingsFile) (held : Overlaid), f.apply (f.apply held) = f.apply held) ∧
      (∀ files held, applyAll files held = (mergeAll files).apply held) ∧
      (∀ (f g : SettingsFile) (held : Overlaid), (∀ s, f.given? s = none ∨ g.given? s = none) →
        g.apply (f.apply held) = f.apply (g.apply held)) ∧
      (∀ (f : SettingsFile) (held : Overlaid) (s : Setting),
        (f.given? s = none → (f.apply held).valueOf s = held.valueOf s) ∧
          ∀ value, f.given? s = some value → (f.apply held).valueOf s = value) ∧
      (∀ (f : SettingsFile) (held : Overlaid), held.1.source.isSome →
        (f.apply held).1.source.isSome) ∧
      (∀ (f : SettingsFile) (held : Overlaid) (level : Option String),
        { f with level }.apply held = f.apply held) ∧
      ∀ (f : SettingsFile) (name : String), f.level = some name → Level.parse? name = none →
        Settings.ofFile f = Settings.ofFile { f with level := none } ∧
          (Settings.ofFile f).limits = Settings.standard.limits ∧
          ((Settings.ofFile f).cursor, (Settings.ofFile f).span) =
            f.apply (Settings.standard.cursor, Settings.standard.span) := by
  refine ⟨fun f g held => (apply_merge f g held).symm,
    ⟨fun f g h => merge_assoc f g h, fun f => ⟨merge_blank f, blank_merge f⟩, apply_blank⟩, ?_,
    fun files held => applyAll_eq_apply_mergeAll held files,
    fun f g held => apply_comm_of_disjoint held, ?_, fun f held => isSome_source_apply held,
    fun f held level => rfl, ?_⟩
  · intro f held
    rw [← apply_merge, merge_self]
  · intro f held s
    rw [valueOf_apply]
    constructor
    · intro hnone
      rw [hnone, Option.getD_none]
    · intro value hvalue
      rw [hvalue, Option.getD_some]
  · intro f name hlevel hname
    have hfile := ofFile_of_parse?_eq_none hlevel hname
    refine ⟨hfile, ?_, rfl⟩
    rw [hfile]
    rfl

end SettingsFile

end TokenSpans
