import TokenSpans.CommandLine.Invocation

/-!
# Settings from layers

The settings of a run come from three layers: the command line, the settings file and the standard
settings. They are those of a single file that has what the command line gives laid over what the
file gives (`settings_eq`), but for the source label and the level where neither layer has one.

Only a level can be wrong, and only the one that counts: a good level on the command line hides a
bad one of the file, and a bad one on the command line is not made good by the file.

Taking each field from the first layer that has it is associative, and a command line can be
written as a settings file (`asFile`). So two layers over the standard one are one file over
it, and the merging of files, with its laws in `TokenSpans.Proofs.Overlaying`, applies to
command lines too.

The two fields that go another way are kept out of the equation by giving them as arguments:
the level is turned into a limit before the rest is looked at, and the label falls back to
the input. What remains of the theorem is to say for these two when they agree with the
single file.
-/

namespace TokenSpans.CommandLine.Invocation

variable (i : Invocation) (file : SettingsFile)

/-! ## Two layers as one file

`overlaid` is the one file, and `settingsAt` what it makes of the settings once the level is
known. The equation between the two ways to get there is the only place where the fields are
gone through one by one. -/

/-- The file that has what the command line gives, and the rest from the file. -/
def overlaid : SettingsFile :=
  i.asFile.merge file

/-- The settings of a run whose level exists: those of the overlaid file with this level, and with
the input for a label that is not given. -/
def settingsAt (global : Level) : Settings where
  limits := .uniform global
  cursor :=
    { (Settings.ofFile (i.overlaid file)).cursor with
      source := (i.overlaid file).source.or i.input }
  span := (Settings.ofFile (i.overlaid file)).span

/-- Whatever the two layers give, the settings depend on the overlaid file and the input alone. -/
theorem settings_eq : i.settings file = (i.limit file).map (i.settingsAt file) := by
  have hsettings : ∀ global, (⟨.uniform global,
      ⟨i.numbering.getD (file.numbering.getD .one), i.source.or ((file.source.or none).or i.input),
        file.announces.getD true⟩,
      ⟨i.property.getD (file.property.getD Spans.primaryName)⟩⟩ : Settings) =
        i.settingsAt file global := by
    intro global
    rw [settingsAt, overlaid, SettingsFile.merge, Option.or_none, ← Option.or_assoc,
      ← Option.getD_or, ← Option.getD_or]
    rfl
  rw [settings]
  cases i.limit file with
  | error name => rfl
  | ok global => exact congrArg Except.ok (hsettings global)

variable {i : Invocation} {file : SettingsFile}

/-! ## The level that counts

A level is a name until it is looked up. The name is taken from the first layer that has
one, whether or not it is good, and only then looked up, so a bad name in front is not
passed over. -/

/-- The level is wrong exactly if the one that counts does not exist. -/
theorem limit_eq_error_iff {name : String} : i.limit file = .error name ↔
    (i.overlaid file).level = some name ∧ Level.parse? name = none := by
  change _ ↔ i.level.or file.level = some name ∧ _
  rw [limit]
  cases i.level.or file.level with
  | none => simp
  | some found =>
    dsimp only
    cases hparse : Level.parse? found with
    | none =>
      constructor
      · rintro ⟨⟩
        exact ⟨rfl, hparse⟩
      · rintro ⟨⟨⟩, -⟩
        rfl
    | some level =>
      constructor
      · rintro ⟨⟩
      · rintro ⟨⟨⟩, hnone⟩
        cases hparse.symm.trans hnone

/-- The limit is the level that counts, or that for warnings where no layer has one. -/
theorem limit_eq_ok_iff {global : Level} : i.limit file = .ok global ↔
    ((i.overlaid file).level = none ∧ global = .warn) ∨
      ∃ name, (i.overlaid file).level = some name ∧ Level.parse? name = some global := by
  change _ ↔ (i.level.or file.level = none ∧ _) ∨ ∃ name, i.level.or file.level = some name ∧ _
  rw [limit]
  cases i.level.or file.level with
  | none => simp [eq_comm]
  | some found =>
    dsimp only
    cases hparse : Level.parse? found with
    | none =>
      constructor
      · rintro ⟨⟩
      · rintro (⟨⟨⟩, -⟩ | ⟨name, ⟨⟩, hname⟩)
        cases hparse.symm.trans hname
    | some level =>
      constructor
      · rintro ⟨⟩
        exact .inr ⟨found, rfl, hparse⟩
      · rintro (⟨⟨⟩, -⟩ | ⟨name, ⟨⟩, hname⟩)
        cases hparse.symm.trans hname
        rfl

/-- There are no settings exactly if the level that counts does not exist. -/
theorem settings_eq_error_iff {name : String} : i.settings file = .error name ↔
    (i.overlaid file).level = some name ∧ Level.parse? name = none := by
  rw [settings_eq, ← limit_eq_error_iff]
  cases i.limit file with
  | error found =>
    constructor
    · rintro ⟨⟩
      rfl
    · rintro ⟨⟩
      rfl
  | ok global => exact ⟨nofun, nofun⟩

/-- Otherwise they are those of the overlaid file at that level. -/
theorem settings_eq_ok_iff {settings : Settings} : i.settings file = .ok settings ↔
    ∃ global, i.limit file = .ok global ∧ settings = i.settingsAt file global := by
  rw [settings_eq]
  cases i.limit file with
  | error name => exact ⟨nofun, nofun⟩
  | ok global =>
    constructor
    · rintro ⟨⟩
      exact ⟨global, rfl, rfl⟩
    · rintro ⟨_, ⟨⟩, rfl⟩
      rfl

/-! ## The two exceptions

For the label and for the level there is one lemma each where a layer gives it, and one
where none does. -/

/-- A label that one of the layers gives is that of the overlaid file. -/
theorem cursor_settingsAt_of_some {global : Level} (h : (i.source.or file.source).isSome) :
    (i.settingsAt file global).cursor = (Settings.ofFile (i.asFile.merge file)).cursor := by
  obtain ⟨label, hlabel⟩ := Option.isSome_iff_exists.mp h
  have hsource : (i.asFile.merge file).source = some label := hlabel
  rw [settingsAt, overlaid, hsource, Settings.ofFile, SettingsFile.applyCursor, hsource]
  rfl

/-- Where no layer gives a label it is the path of the input. -/
theorem cursor_settingsAt_of_none {global : Level} (h : i.source.or file.source = none) :
    (i.settingsAt file global).cursor =
      { (Settings.ofFile (i.asFile.merge file)).cursor with source := i.input } := by
  have hsource : (i.asFile.merge file).source = none := h
  rw [settingsAt, overlaid, hsource]
  rfl

/-- A level that one of the layers gives makes the limit that it makes in the overlaid file. -/
theorem limits_settingsAt_of_some {global : Level} (hlimit : i.limit file = .ok global)
    (h : (i.level.or file.level).isSome) :
    (i.settingsAt file global).limits = (Settings.ofFile (i.asFile.merge file)).limits := by
  rcases limit_eq_ok_iff.mp hlimit with ⟨hnone, -⟩ | ⟨name, hname, hlevel⟩
  · have hlevel : i.level.or file.level = none := hnone
    rw [hlevel] at h
    cases h
  · have hmerged : (i.asFile.merge file).level = some name := hname
    rw [Settings.ofFile, hmerged, Option.bind_some, hlevel]
    rfl

/-- Where no layer gives a level the limit is not the standard one. -/
theorem limits_settingsAt_of_none {global : Level} (hlimit : i.limit file = .ok global)
    (h : i.level.or file.level = none) :
    (i.settingsAt file global).limits = .uniform .warn ∧
      (Settings.ofFile (i.asFile.merge file)).limits = .uniform .info := by
  have hmerged : (i.asFile.merge file).level = none := h
  constructor
  · rcases limit_eq_ok_iff.mp hlimit with ⟨-, rfl⟩ | ⟨name, hname, -⟩
    · rfl
    · cases h.symm.trans hname
  · rw [Settings.ofFile, hmerged]
    rfl

/-- **The settings of a run are those of one file**, the one that has what the command line gives
laid over what the settings file gives. There are none exactly if the level that counts does not
exist, and that is the one of the command line if it gives any. Otherwise the settings are those of
the overlaid file, with two exceptions: where neither layer gives a label, it is the path of the
input, and where neither gives a level, the limit is that for warnings in place of the standard one.
No part has a limit of its own, and announcements are up to the settings file. -/
theorem settings_of_layers (i : Invocation) (file : SettingsFile) :
    (∀ name, i.settings file = .error name ↔
        i.level.or file.level = some name ∧ Level.parse? name = none) ∧
      (∀ name level, i.level = some name → Level.parse? name = some level →
        ∃ settings, i.settings file = .ok settings ∧ settings.limits.global = level) ∧
      (∀ name, i.level = some name → Level.parse? name = none → i.settings file = .error name) ∧
      ∀ settings, i.settings file = .ok settings →
        settings.span = (Settings.ofFile (i.asFile.merge file)).span ∧
          ((i.source.or file.source).isSome →
            settings.cursor = (Settings.ofFile (i.asFile.merge file)).cursor) ∧
          (i.source.or file.source = none → settings.cursor =
            { (Settings.ofFile (i.asFile.merge file)).cursor with source := i.input }) ∧
          ((i.level.or file.level).isSome →
            settings.limits = (Settings.ofFile (i.asFile.merge file)).limits) ∧
          (i.level.or file.level = none → settings.limits = .uniform .warn ∧
            (Settings.ofFile (i.asFile.merge file)).limits = .uniform .info) ∧
          (∀ part, settings.limits.own? part = none) ∧
          settings.cursor.announces = file.announces.getD true := by
  have hcounts : ∀ name, i.level = some name → (i.overlaid file).level = some name := by
    intro name hname
    rw [overlaid, SettingsFile.merge, asFile, hname]
    rfl
  refine ⟨fun name => settings_eq_error_iff, ?_, ?_, ?_⟩
  · intro name level hname hlevel
    have hlimit := limit_eq_ok_iff.mpr (.inr ⟨name, hcounts name hname, hlevel⟩)
    exact ⟨_, settings_eq_ok_iff.mpr ⟨level, hlimit, rfl⟩, rfl⟩
  · intro name hname hnone
    exact settings_eq_error_iff.mpr ⟨hcounts name hname, hnone⟩
  · intro settings hsettings
    obtain ⟨global, hlimit, rfl⟩ := settings_eq_ok_iff.mp hsettings
    refine ⟨rfl, cursor_settingsAt_of_some, cursor_settingsAt_of_none,
      limits_settingsAt_of_some hlimit, limits_settingsAt_of_none hlimit, ?_, rfl⟩
    intro part
    cases part <;> rfl

end TokenSpans.CommandLine.Invocation
