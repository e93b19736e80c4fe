import TokenSpans.Json.Settings
import TokenSpans.Proofs.Json.Records

/-!
# Settings written and read

Settings are read from their written form as they were. Beside that, an object text is read as
settings by its members alone: their order and layout make no difference, and neither do members
with other names, whatever their values (`OrderFree`). A member that is left out is standard in the
settings of a cursor and of spans (`StandardIfAbsent`), and in a settings file null is the same as
nothing.

There are three records of settings, and what is said of them is the same except for the
names. All of it is got from `TokenSpans.Proofs.Json.Records` by showing that the fields of
each are independent, and that is by `rfl` for every pair: a field is a place in a draft,
and putting something into one place leaves the others as they are.

The settings file stands apart in one point. Its fields may be null, and null is stored in
the draft as a value that was read, so that a second member of that name is still an error.
Only `finish` forgets the difference (`SettingsFile.finish_of_null`). Hence leaving out a
null member is a theorem and not a matter of definition.
-/

namespace TokenSpans

namespace Json

/-- A text that may be missing is written as null or as a text. -/
theorem Reader.option_text_document (s : Option String) :
    Reader.option Reader.text (Value.ofOption s).document = .ok s := by
  cases s with
  | none => rfl
  | some s => exact congrArg (Except.map some) (Reader.text_document s)

/-- A text that may be missing has no numbers. -/
theorem Value.inWords_ofOption (s : Option String) : (Value.ofOption s).InWords := by
  cases s <;> trivial

end Json

open Json

namespace Numbering

/-- Both numberings are read from their names. -/
theorem readsBack : reader.ReadsBack toValue := by
  intro n
  cases n <;> rfl

end Numbering

/-! ## Settings of a cursor

For each of the three fields there is a theorem that it is standard if its member is absent.
They differ in which field is excepted when it is checked that all others leave its place
alone. -/

namespace CursorSettings

/-- The three fields are places of their own. -/
theorem independent : Reader.Independent Draft.fields where
  apart := by
    simp only [Draft.fields, List.pairwise_cons, List.forall_mem_cons]
    refine ⟨⟨?_, ?_, List.forall_mem_nil _⟩, ⟨?_, List.forall_mem_nil _⟩, List.forall_mem_nil _,
      .nil⟩
    all_goals
      exact Reader.Field.apart_of (by decide) (fun _ _ => rfl) (fun _ _ => rfl) fun _ _ _ => rfl
  marks := by
    simp only [Draft.fields, List.forall_mem_cons]
    refine ⟨?_, ?_, ?_, List.forall_mem_nil _⟩
    all_goals
      exact Reader.Field.marks_of fun _ _ => rfl

/-- The three members are read into the three fields; a label that is missing is written as
null. -/
theorem readsBack : reader.ReadsBack toValue := by
  rintro ⟨numbering, source, announces⟩
  have hnumbering := Numbering.readsBack numbering
  have hsource := Reader.option_text_document source
  refine Reader.record_of_members ⟨some numbering, some source, some announces⟩ ?_ rfl
  exact (Reader.members_cons rfl rfl (Reader.read_field hnumbering) _).trans <|
    (Reader.members_cons rfl rfl (Reader.read_field hsource) _).trans <|
      (Reader.members_cons rfl rfl rfl _).trans rfl

/-- No number is written. -/
theorem inWords_toValue (c : CursorSettings) : c.toValue.InWords :=
  ⟨trivial, Value.inWords_ofOption c.source, trivial, trivial⟩

/-- Without a member for the numbering it is the standard one. -/
theorem standardIfAbsent_numbering :
    StandardIfAbsent reader "baseline" numbering standard.numbering := by
  refine standardIfAbsent_record independent (.head _) ?_ rfl fun _ => rfl
  refine List.forall_mem_cons.mpr ⟨fun hne => absurd rfl hne, List.forall_mem_cons.mpr ⟨?_,
    List.forall_mem_singleton.mpr ?_⟩⟩
  all_goals
    exact fun _ => Reader.Field.keeps_of fun _ _ => rfl

/-- Without a member for the label there is none. -/
theorem standardIfAbsent_source :
    StandardIfAbsent reader "source" source standard.source := by
  refine standardIfAbsent_record independent (.tail _ (.head _)) ?_ rfl fun _ => rfl
  refine List.forall_mem_cons.mpr ⟨?_, List.forall_mem_cons.mpr ⟨fun hne => absurd rfl hne,
    List.forall_mem_singleton.mpr ?_⟩⟩
  all_goals
    exact fun _ => Reader.Field.keeps_of fun _ _ => rfl

/-- Without a member for announcements they are on. -/
theorem standardIfAbsent_announces :
    StandardIfAbsent reader "emit_events" announces standard.announces := by
  refine standardIfAbsent_record independent (.tail _ (.tail _ (.head _))) ?_ rfl fun _ => rfl
  refine List.forall_mem_cons.mpr ⟨?_, List.forall_mem_cons.mpr ⟨?_,
    List.forall_mem_singleton.mpr fun hne => absurd rfl hne⟩⟩
  all_goals
    exact fun _ => Reader.Field.keeps_of fun _ _ => rfl

end CursorSettings

namespace SpanSettings

/-- A single field is independent. -/
theorem independent : Reader.Independent fields where
  apart := List.pairwise_singleton _ _
  marks := List.forall_mem_singleton.mpr (Reader.Field.marks_of fun _ _ => rfl)

/-- The one member is read into the one field. -/
theorem readsBack : reader.ReadsBack toValue := by
  rintro ⟨property⟩
  have hproperty := Reader.text_document property
  refine Reader.record_of_members (some property) ?_ rfl
  exact (Reader.members_cons rfl rfl (Reader.read_field hproperty) _).trans rfl

/-- Without a member for the name it is the standard one. -/
theorem standardIfAbsent_property :
    StandardIfAbsent reader "property" property standard.property :=
  standardIfAbsent_record independent (.head _)
    (List.forall_mem_singleton.mpr fun hne => absurd rfl hne) rfl fun _ => rfl

end SpanSettings

/-! ## Settings files

Here absence is told from null in the draft but not in the settings. A member counts if a
field is for it and its value is not null (`Gives`); members that do not count are silent,
and two files with the same members that count are read as the same. -/

namespace SettingsFile

/-- The names of the members of a settings file. -/
def names : List String :=
  ["baseline", "property", "source", "emit_events", "log_level"]

/-- The five fields are places of their own. -/
theorem independent : Reader.Independent Draft.fields where
  apart := by
    simp only [Draft.fields, List.pairwise_cons, List.forall_mem_cons]
    refine ⟨⟨?_, ?_, ?_, ?_, List.forall_mem_nil _⟩, ⟨?_, ?_, ?_, List.forall_mem_nil _⟩,
      ⟨?_, ?_, List.forall_mem_nil _⟩, ⟨?_, List.forall_mem_nil _⟩, List.forall_mem_nil _, .nil⟩
    all_goals
      exact Reader.Field.apart_of (by decide) (fun _ _ => rfl) (fun _ _ => rfl) fun _ _ _ => rfl
  marks := by
    simp only [Draft.fields, List.forall_mem_cons]
    refine ⟨?_, ?_, ?_, ?_, ?_, List.forall_mem_nil _⟩
    all_goals
      exact Reader.Field.marks_of fun _ _ => rfl

/-- What is left open is written as null, and is read as left open. -/
theorem readsBack : reader.ReadsBack toValue := by
  rintro ⟨numbering, property, source, announces, level⟩
  have hnumbering : Reader.option Numbering.reader
      ((numbering.map Numbering.toValue).getD .null).document = .ok numbering := by
    cases numbering with
    | none => rfl
    | some n => exact congrArg (Except.map some) (Numbering.readsBack n)
  have hannounces : Reader.option Reader.bool
      ((announces.map Value.bool).getD .null).document = .ok announces := by
    cases announces <;> rfl
  have hproperty := Reader.option_text_document property
  have hsource := Reader.option_text_document source
  have hlevel := Reader.option_text_document level
  refine Reader.record_of_members
    ⟨some numbering, some property, some source, some announces, some level⟩ ?_ rfl
  exact (Reader.members_cons rfl rfl (Reader.read_field hnumbering) _).trans <|
    (Reader.members_cons rfl rfl (Reader.read_field hproperty) _).trans <|
      (Reader.members_cons rfl rfl (Reader.read_field hsource) _).trans <|
        (Reader.members_cons rfl rfl (Reader.read_field hannounces) _).trans <|
          (Reader.members_cons rfl rfl (Reader.read_field hlevel) _).trans rfl

/-- No number is written. -/
theorem inWords_toValue (f : SettingsFile) : f.toValue.InWords := by
  have hnumbering : ((f.numbering.map Numbering.toValue).getD .null).InWords := by
    cases f.numbering <;> trivial
  have hannounces : ((f.announces.map Value.bool).getD .null).InWords := by
    cases f.announces <;> trivial
  exact ⟨hnumbering, Value.inWords_ofOption f.property, Value.inWords_ofOption f.source,
    hannounces, Value.inWords_ofOption f.level, trivial⟩

/-- Whether a member of a settings file gives something. -/
def Gives (m : Member) : Prop :=
  (∃ f ∈ Draft.fields, Reader.Named f.name m) ∧ m.2 ≠ .null (.sound ())

/-- Null read into a field that has not been read leaves open what was left open. -/
theorem finish_of_null {f : Reader.Field Draft} (hf : f ∈ Draft.fields) {acc next : Draft}
    (hunread : f.isRead acc = false) (hread : f.read acc (.null (.sound ())) = .ok next) :
    next.finish = acc.finish := by
  -- whichever of the five fields it is, null is put into its place, which was empty
  simp only [Draft.fields, List.mem_cons, List.not_mem_nil, or_false] at hf
  rcases hf with rfl | rfl | rfl | rfl | rfl
  all_goals
    have hnone := Option.isNone_iff_eq_none.mp (Option.isSome_eq_false_iff.mp hunread)
    obtain rfl := Except.ok.inj hread
    rw [Draft.finish, Draft.finish, hnone]
    rfl

/-- A member that gives nothing leaves what is made of the draft as it was. -/
theorem finish_of_not_gives (acc : Draft) (m : Member) (next : Draft) (hm : ¬ Gives m)
    (htakes : Reader.Takes Draft.fields acc m next) : next.finish = acc.finish := by
  cases htakes with
  | passed => rfl
  | @field f _ hf hnamed hunread hvalue =>
    have hnull : m.2 = .null (.sound ()) := by
      by_contra hne
      exact hm ⟨⟨f, hf, hnamed⟩, hne⟩
    rw [hnull] at hvalue
    exact finish_of_null hf hunread hvalue

/-- **Null is the same as nothing**: a member whose value is null may be left out. -/
theorem read_of_null {before after : List MemberText} {m : MemberText} {s s' : List Char}
    {f : SettingsFile} (hs : IsObject (before ++ m :: after) s) (hm : m.IsNull)
    (hread : read reader s = .ok f) (hs' : IsObject (before ++ after) s') :
    read reader s' = .ok f := by
  obtain ⟨last, hlast, hfinish⟩ := hs.read_record_iff.mp hread
  -- the member may as well come last, behind all that is read without it
  have hperm : (before ++ m :: after).Perm ((before ++ after) ++ [m]) :=
    List.perm_middle.trans (List.perm_append_singleton m (before ++ after)).symm
  have hmoved := Reader.members_perm independent (hperm.map MemberText.member) hlast
  rw [List.map_append] at hmoved
  obtain ⟨mid, hmid, hrest⟩ := (Reader.members_append_iff independent).mp hmoved
  have hnull : ∀ found ∈ [m].map MemberText.member, ¬ Gives found :=
    List.forall_mem_singleton.mpr fun hgives => hgives.2 (MemberText.member_of_null hm)
  refine hs'.read_record_iff.mpr ⟨mid, hmid, ?_⟩
  rw [← Reader.finish_of_silent independent finish_of_not_gives hnull hrest]
  exact hfinish

/-- Two files that give the same are the same. -/
theorem eq_of_gives {members members' : List MemberText} {s s' : List Char} {f f' : SettingsFile}
    (hs : IsObject members s) (hs' : IsObject members' s') (hread : read reader s = .ok f)
    (hread' : read reader s' = .ok f')
    (hsame : ∀ m : MemberText, m.Known names → ¬ m.IsNull → (m ∈ members ↔ m ∈ members')) :
    f = f' := by
  obtain ⟨last, hlast, hfinish⟩ := hs.read_record_iff.mp hread
  obtain ⟨last', hlast', hfinish'⟩ := hs'.read_record_iff.mp hread'
  have hknown : ∀ {members s}, IsObject members s → ∀ m ∈ members, Gives m.member →
      m.Known names ∧ ¬ m.IsNull := by
    rintro members s hs m hm ⟨⟨f, hf, hnamed⟩, hvalue⟩
    refine ⟨⟨f.name, List.mem_map_of_mem hf, (hs.name_iff hm).mpr hnamed⟩, fun hnull => ?_⟩
    exact hvalue (MemberText.member_of_null hnull)
  have hgives : ∀ m, Gives m →
      (m ∈ members.map MemberText.member ↔ m ∈ members'.map MemberText.member) := by
    intro found hgives
    constructor
    · intro hfound
      obtain ⟨m, hm, rfl⟩ := List.mem_map.mp hfound
      obtain ⟨hname, hvalue⟩ := hknown hs m hm hgives
      exact List.mem_map_of_mem ((hsame m hname hvalue).mp hm)
    · intro hfound
      obtain ⟨m, hm, rfl⟩ := List.mem_map.mp hfound
      obtain ⟨hname, hvalue⟩ := hknown hs' m hm hgives
      exact List.mem_map_of_mem ((hsame m hname hvalue).mpr hm)
  rw [← Option.some.inj hfinish, ← Option.some.inj hfinish']
  exact Reader.finish_eq_of_counted independent finish_of_not_gives (fun _ hm => hm.1) hgives hlast
    hlast'

end SettingsFile

/-- **Settings are read as they were written, and by their members alone.** All settings files and
all settings of cursors and spans are read from what they are written as. An object text that is
read as one of them is read as the same in any layout and order of its members and with any further
members besides, a settings file also without members whose value is null. Members of the settings
of a cursor or of spans that are not there are standard, whichever they are. So the settings made of
a file depend on those members only that it knows and that are not null. -/
theorem settings_read_by_members :
    (∀ f : SettingsFile, read SettingsFile.reader f.toValue.compact = .ok f) ∧
      (∀ c : CursorSettings, read CursorSettings.reader c.toValue.compact = .ok c) ∧
      (∀ p : SpanSettings, read SpanSettings.reader p.toValue.compact = .ok p) ∧
      OrderFree SettingsFile.reader SettingsFile.names ∧
      OrderFree CursorSettings.reader ["baseline", "source", "emit_events"] ∧
      OrderFree SpanSettings.reader ["property"] ∧
      (∀ before m after s s' f, IsObject (before ++ m :: after) s → m.IsNull →
        read SettingsFile.reader s = .ok f → IsObject (before ++ after) s' →
          read SettingsFile.reader s' = .ok f) ∧
      (CursorSettings.standard = ⟨.one, none, true⟩ ∧
        StandardIfAbsent CursorSettings.reader "baseline" CursorSettings.numbering
          CursorSettings.standard.numbering ∧
        StandardIfAbsent CursorSettings.reader "source" CursorSettings.source
          CursorSettings.standard.source ∧
        StandardIfAbsent CursorSettings.reader "emit_events" CursorSettings.announces
          CursorSettings.standard.announces) ∧
      (SpanSettings.standard = ⟨"position"⟩ ∧
        StandardIfAbsent SpanSettings.reader "property" SpanSettings.property
          SpanSettings.standard.property) ∧
      ∀ members members' s s' f f', IsObject members s → IsObject members' s' →
        read SettingsFile.reader s = .ok f → read SettingsFile.reader s' = .ok f' →
          (∀ m : MemberText, m.Known SettingsFile.names → ¬ m.IsNull →
            (m ∈ members ↔ m ∈ members')) →
          Settings.ofFile f = Settings.ofFile f' := by
  refine ⟨fun f => SettingsFile.readsBack.read_compact f.inWords_toValue,
    fun c => CursorSettings.readsBack.read_compact c.inWords_toValue,
    fun p => SpanSettings.readsBack.read_compact ⟨trivial, trivial⟩,
    orderFree_record SettingsFile.independent _, orderFree_record CursorSettings.independent _,
    orderFree_record SpanSettings.independent _, ?_,
    ⟨rfl, CursorSettings.standardIfAbsent_numbering, CursorSettings.standardIfAbsent_source,
      CursorSettings.standardIfAbsent_announces⟩,
    ⟨rfl, SpanSettings.standardIfAbsent_property⟩, ?_⟩
  · intro before m after s s' f hs hm hread hs'
    exact SettingsFile.read_of_null hs hm hread hs'
  · intro members members' s s' f f' hs hs' hread hread' hsame
    exact congrArg Settings.ofFile (SettingsFile.eq_of_gives hs hs' hread hread' hsame)

/-- A member with another name in front, whose value is a number beyond double precision. -/
theorem settings_read_by_members_beside_another :
    read SpanSettings.reader "\x7b\"x\":1e999,\"property\":\"loc\"\x7d".toList =
      .ok ⟨"loc"⟩ := by
  obtain ⟨-, -, hwritten, -, -, hfree, -⟩ := settings_read_by_members
  have hexponent : IsExponent ('e' :: ([] ++ Text.decimal 999)) :=
    .letter (.inl rfl) (.inl rfl) (isWhole_decimal 999).digits
  have hnumeral : IsNumeral "1e999".toList :=
    .mk (.inl rfl) (isWhole_decimal 1) .none hexponent
  have hback : Reader.ReadsBack Reader.text Value.text := Reader.text_document
  have hname : read Reader.text (writeText "x") = .ok "x" := hback.read_compact trivial
  have hs := isObject_compact [("property", .text "loc")]
  refine hfree _ _ ⟨"loc"⟩ hs (hwritten ⟨"loc"⟩) _
    [⟨writeText "x", "1e999".toList⟩, MemberText.compact ("property", .text "loc")]
    [⟨writeText "x", "1e999".toList⟩] ⟨?_, ?_, ?_⟩ (.swap _ _ [])
    (List.forall_mem_singleton.mpr ⟨"x", hname, by decide⟩)
  · exact List.forall_mem_cons.mpr ⟨isQuoted_writeText "x", hs.keys⟩
  · exact List.forall_mem_cons.mpr ⟨.number hnumeral, hs.values⟩
  · refine ⟨[writeText "x" ++ ':' :: "1e999".toList,
        Value.compactMember ("property", .text "loc")], _,
      .cons ⟨_, _, spaced_self _, spaced_self _, rfl⟩ (spaced_compact [("property", .text "loc")]),
      ⟨[], List.forall_mem_nil _, ?_⟩, spaced_self _⟩
    decide

end TokenSpans
