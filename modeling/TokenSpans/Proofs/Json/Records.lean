import Mathlib.Data.List.Pairwise
import Mathlib.Data.List.Perm.Basic
import TokenSpans.Proofs.Json.Readers

/-!
# Records and the order of members

A record is read member by member, and a member is either passed over or read into the field with
its name (`Reader.Takes`, `Reader.members_cons_iff`). Where no field of the record is touched by the
others (`Reader.Independent`), two members that follow one another may change places
(`Reader.Takes.swap`), hence members may come in any order (`Reader.members_perm`). All else is got
by moving the members in question to the end: those that no field is for make no difference there,
those that are left out leave the fields of the others as they were, and those that do not count do
not count (`Reader.finish_eq_of_counted`).

The same then holds of object texts, whatever their layout (`orderFree_record`,
`standardIfAbsent_record`).

`Takes` is the step of the reader as a relation. It hides in which order the fields are
searched and what the draft of a record looks like, so every statement below is for any
record with independent fields. The run lemmas are by induction on the members; that two
neighbours may change places is the one fact about two steps, and permutations are made of
it.

Whether a text can be read at all is part of each statement. A member that is there twice
makes every text with it unreadable, in whatever order, and this is also why a member can be
taken to the end: the field it is for was not read by any of the others.
-/

namespace TokenSpans.Json

namespace Reader

variable {σ : Type}

/-- Whether the key of a member is this name. -/
def Named (name : String) (m : Member) : Prop :=
  m.1.reading.map String.ofList = .ok name

/-- A key is one name. -/
theorem Named.unique {name name' : String} {m : Member} (h : Named name m) (h' : Named name' m) :
    name = name' :=
  Except.ok.inj (h.symm.trans h')

/-- What the fields of a record make of one member, with `acc` read so far. -/
inductive Takes (fields : List (Field σ)) (acc : σ) (m : Member) : σ → Prop
  /-- no field is for it, and it can be passed over -/
  | passed {name : String} (named : Named name m) (unknown : ∀ f ∈ fields, f.name ≠ name)
      (skips : m.2.skip = .ok ()) : Takes fields acc m acc
  /-- it is read into a field that has not been read so far -/
  | field {f : Field σ} {next : σ} (mem : f ∈ fields) (named : Named f.name m)
      (unread : f.isRead acc = false) (value : f.read acc m.2 = .ok next) : Takes fields acc m next

/-- Two fields with different names of which neither touches the other. -/
structure Field.Apart (f g : Field σ) : Prop where
  /-- no member is for both -/
  name : f.name ≠ g.name
  /-- reading one does not mark the other as read -/
  isRead_right : ∀ acc d next, f.read acc d = .ok next → g.isRead next = g.isRead acc
  /-- and the other way round -/
  isRead_left : ∀ acc d next, g.read acc d = .ok next → f.isRead next = f.isRead acc
  /-- what is read by both in one order can be read in the other, with the same result -/
  swap_right : ∀ acc d e x y, f.read acc d = .ok x → g.read x e = .ok y →
    ∃ z, g.read acc e = .ok z ∧ f.read z d = .ok y
  /-- and the other way round -/
  swap_left : ∀ acc d e x y, g.read acc d = .ok x → f.read x e = .ok y →
    ∃ z, f.read acc e = .ok z ∧ g.read z d = .ok y

instance : Std.Symm (Field.Apart : Field σ → Field σ → Prop) where
  symm _ _ h := ⟨h.name.symm, h.isRead_left, h.isRead_right, h.swap_left, h.swap_right⟩

/-- Fields that are places of their own in the record are apart. -/
theorem Field.apart_of {α β : Type} {name name' : String} {reader : Reader α} {reader' : Reader β}
    {get : σ → Option α} {get' : σ → Option β} {put : σ → α → σ} {put' : σ → β → σ}
    (hname : name ≠ name') (hright : ∀ acc a, get' (put acc a) = get' acc)
    (hleft : ∀ acc b, get (put' acc b) = get acc)
    (hswap : ∀ acc a b, put' (put acc a) b = put (put' acc b) a) :
    (Field.of name reader get put).Apart (Field.of name' reader' get' put') where
  name := hname
  isRead_right acc d next h := by
    obtain ⟨a, -, rfl⟩ := of_map_eq_ok h
    exact congrArg Option.isSome (hright acc a)
  isRead_left acc d next h := by
    obtain ⟨b, -, rfl⟩ := of_map_eq_ok h
    exact congrArg Option.isSome (hleft acc b)
  swap_right acc d e x y hx hy := by
    obtain ⟨a, ha, rfl⟩ := of_map_eq_ok hx
    obtain ⟨b, hb, rfl⟩ := of_map_eq_ok hy
    refine ⟨put' acc b, read_field hb, ?_⟩
    rw [hswap]
    exact read_field ha
  swap_left acc d e x y hx hy := by
    obtain ⟨b, hb, rfl⟩ := of_map_eq_ok hx
    obtain ⟨a, ha, rfl⟩ := of_map_eq_ok hy
    refine ⟨put acc a, read_field ha, ?_⟩
    rw [← hswap]
    exact read_field hb

/-- Fields that do not touch each other, and know when they have been read. -/
structure Independent (fields : List (Field σ)) : Prop where
  /-- any two of them are apart -/
  apart : fields.Pairwise Field.Apart
  /-- one that has been read says so -/
  marks : ∀ f ∈ fields, ∀ acc d next, f.read acc d = .ok next → f.isRead next = true

/-- A field with a place in the record is read where there is something in its place. -/
theorem Field.marks_of {α : Type} {name : String} {reader : Reader α} {get : σ → Option α}
    {put : σ → α → σ} (h : ∀ acc a, get (put acc a) = some a) (acc : σ) (d : Document) (next : σ)
    (hread : (Field.of name reader get put).read acc d = .ok next) :
    (Field.of name reader get put).isRead next = true := by
  obtain ⟨a, -, rfl⟩ := of_map_eq_ok hread
  exact congrArg Option.isSome (h acc a)

/-- A field keeps what is at another place in the record. -/
theorem Field.keeps_of {α β : Type} {name : String} {reader : Reader α} {get : σ → Option α}
    {put : σ → α → σ} {place : σ → β} (h : ∀ acc a, place (put acc a) = place acc) (acc : σ)
    (d : Document) (next : σ) (hread : (Field.of name reader get put).read acc d = .ok next) :
    place next = place acc := by
  obtain ⟨a, -, rfl⟩ := of_map_eq_ok hread
  exact h acc a

namespace Independent

variable {fields : List (Field σ)} {f g : Field σ}

/-- Fields with different names are apart. -/
theorem apart_of_ne (h : Independent fields) (hf : f ∈ fields) (hg : g ∈ fields)
    (hne : f.name ≠ g.name) : f.Apart g :=
  h.apart.forall hf hg fun heq => hne (congrArg Field.name heq)

/-- Fields are told apart by their names. -/
theorem eq_of_name (h : Independent fields) (hf : f ∈ fields) (hg : g ∈ fields)
    (hname : f.name = g.name) : f = g := by
  by_contra hne
  exact (h.apart.forall hf hg hne).name hname

/-- The field that is found under a name is the one that has it. -/
theorem find?_name (h : Independent fields) (hf : f ∈ fields) :
    fields.find? (fun g => g.name == f.name) = some f := by
  cases hfind : fields.find? (fun g => g.name == f.name) with
  | none => exact absurd BEq.rfl (List.find?_eq_none.mp hfind f hf)
  | some g =>
    have hname : g.name = f.name := by simpa using List.find?_some hfind
    rw [h.eq_of_name (List.mem_of_find?_eq_some hfind) hf hname]

end Independent

section

variable {fields : List (Field σ)} {acc last : σ} {m : Member} {ms ms' : List Member}

/-- **A record is read member by member.** -/
theorem members_cons_iff (h : Independent fields) :
    members fields acc (m :: ms) = .ok last ↔
      ∃ next, Takes fields acc m next ∧ members fields next ms = .ok last := by
  obtain ⟨key, d⟩ := m
  constructor
  · intro hread
    obtain ⟨name, hname, hread⟩ := of_bind_eq_ok hread
    have hnamed : Named (String.ofList name) (key, d) := congrArg (Except.map String.ofList) hname
    split at hread
    · rename_i hfind
      obtain ⟨_, hskip, hread⟩ := of_bind_eq_ok hread
      refine ⟨acc, .passed hnamed (fun f hf heq => ?_) hskip, hread⟩
      exact List.find?_eq_none.mp hfind f hf (beq_iff_eq.mpr heq)
    · rename_i f hfind
      split at hread
      · cases hread
      · rename_i hunread
        obtain ⟨next, hnext, hread⟩ := of_bind_eq_ok hread
        have hf : f.name = String.ofList name := by simpa using List.find?_some hfind
        exact ⟨next, .field (List.mem_of_find?_eq_some hfind) (hf ▸ hnamed)
          (Bool.eq_false_iff.mpr hunread) hnext, hread⟩
  · rintro ⟨next, htakes, hread⟩
    cases htakes with
    | @passed name named unknown skips =>
      obtain ⟨letters, hletters, rfl⟩ := of_map_eq_ok named
      have hfind : fields.find? (fun f => f.name == String.ofList letters) = none :=
        List.find?_eq_none.mpr fun f hf heq => unknown f hf (beq_iff_eq.mp heq)
      rw [members, hletters]
      dsimp only [bind, Except.bind]
      rw [hfind]
      dsimp only
      rw [skips]
      exact hread
    | @field f _ mem named unread value =>
      obtain ⟨letters, hletters, hname⟩ := of_map_eq_ok named
      have hfind := h.find?_name mem
      rw [← hname] at hfind
      rw [members, hletters]
      dsimp only [bind, Except.bind]
      rw [hfind]
      dsimp only
      rw [unread, value]
      exact hread

/-- Members one after the other may be read in two parts. -/
theorem members_append_iff (h : Independent fields) :
    members fields acc (ms ++ ms') = .ok last ↔
      ∃ mid, members fields acc ms = .ok mid ∧ members fields mid ms' = .ok last := by
  induction ms generalizing acc with
  | nil =>
    constructor
    · exact fun hread => ⟨acc, rfl, hread⟩
    · rintro ⟨mid, hmid, hread⟩
      obtain rfl := Except.ok.inj hmid
      exact hread
  | cons m rest ih =>
    rw [List.cons_append, members_cons_iff h]
    simp only [members_cons_iff h, ih]
    constructor
    · rintro ⟨next, htakes, mid, hmid, hread⟩
      exact ⟨mid, ⟨next, htakes, hmid⟩, hread⟩
    · rintro ⟨mid, ⟨next, htakes, hmid⟩, hread⟩
      exact ⟨next, htakes, mid, hmid, hread⟩

/-- **Two members may change places.** They are not for the same field, since that would have been
read by the first. -/
theorem Takes.swap (h : Independent fields) {m m' : Member} {x y : σ}
    (hx : Takes fields acc m x) (hy : Takes fields x m' y) :
    ∃ z, Takes fields acc m' z ∧ Takes fields z m y := by
  cases hx with
  | passed named unknown skips =>
    exact ⟨y, hy, .passed named unknown skips⟩
  | @field f _ hf hnamed hunread hvalue =>
    cases hy with
    | passed named unknown skips =>
      exact ⟨acc, .passed named unknown skips, .field hf hnamed hunread hvalue⟩
    | @field g _ hg hnamed' hunread' hvalue' =>
      -- one field is not read twice
      have hne : f.name ≠ g.name := by
        intro heq
        obtain rfl := h.eq_of_name hf hg heq
        exact Bool.false_ne_true (hunread'.symm.trans (h.marks f hf acc m.2 x hvalue))
      have hapart := h.apart_of_ne hf hg hne
      obtain ⟨z, hz, hlast⟩ := hapart.swap_right acc m.2 m'.2 x y hvalue hvalue'
      refine ⟨z, .field hg hnamed' ?_ hz, .field hf hnamed ?_ hlast⟩
      · rw [← hapart.isRead_right acc m.2 x hvalue]
        exact hunread'
      · rw [hapart.isRead_left acc m'.2 z hz]
        exact hunread

/-- **Members may come in any order.** -/
theorem members_perm (h : Independent fields) (hperm : ms.Perm ms')
    (hread : members fields acc ms = .ok last) : members fields acc ms' = .ok last := by
  induction hperm generalizing acc with
  | nil => exact hread
  | cons m _ ih =>
    obtain ⟨next, htakes, hread⟩ := (members_cons_iff h).mp hread
    exact (members_cons_iff h).mpr ⟨next, htakes, ih hread⟩
  | swap m m' rest =>
    obtain ⟨x, hx, hread⟩ := (members_cons_iff h).mp hread
    obtain ⟨y, hy, hread⟩ := (members_cons_iff h).mp hread
    obtain ⟨z, hz, hy⟩ := hx.swap h hy
    exact (members_cons_iff h).mpr ⟨z, hz, (members_cons_iff h).mpr ⟨y, hy, hread⟩⟩
  | trans _ _ ih ih' => exact ih' (ih hread)

/-! ## Members that no field is for

They change nothing and are only passed over. It has to be possible to pass over them, which
a member of any object text is. -/

/-- Members that no field is for leave the record as it was. -/
theorem members_unknown (h : Independent fields)
    (hms : ∀ m ∈ ms, (∃ name, Named name m ∧ ∀ f ∈ fields, f.name ≠ name) ∧ m.2.skip = .ok ()) :
    members fields acc ms = .ok acc := by
  induction ms with
  | nil => rfl
  | cons m rest ih =>
    obtain ⟨⟨⟨name, hnamed, hunknown⟩, hskip⟩, hrest⟩ := List.forall_mem_cons.mp hms
    exact (members_cons_iff h).mpr ⟨acc, .passed hnamed hunknown hskip, ih hrest⟩

/-! ## Members that are missing

What is left out is moved to the end first. Then both texts begin with the same members, and
the one that is shorter stops earlier; whatever comes behind is for other fields, since each
of the fields in front has been read. So leaving out a member can change only what its own
field holds. -/

section

variable {α : Type} {finish : σ → α} {counts : Member → Prop}

/-- What no member changes that does not count is the same behind all of them. -/
theorem finish_of_silent (h : Independent fields)
    (hsilent : ∀ acc m next, ¬ counts m → Takes fields acc m next → finish next = finish acc)
    (hms : ∀ m ∈ ms, ¬ counts m) (hread : members fields acc ms = .ok last) :
    finish last = finish acc := by
  induction ms generalizing acc with
  | nil =>
    obtain rfl := Except.ok.inj hread
    rfl
  | cons m rest ih =>
    obtain ⟨hm, hrest⟩ := List.forall_mem_cons.mp hms
    obtain ⟨next, htakes, hread⟩ := (members_cons_iff h).mp hread
    rw [ih hrest hread]
    exact hsilent acc m next hm htakes

end

/-- What the field of one name holds is the same behind members with other names. -/
theorem place_of_absent {β : Type} (h : Independent fields) {place : σ → β} {name : String}
    (hplace : ∀ g ∈ fields, g.name ≠ name → ∀ acc d next, g.read acc d = .ok next →
      place next = place acc)
    (habsent : ∀ m ∈ ms, ¬ Named name m) (hread : members fields acc ms = .ok last) :
    place last = place acc := by
  have hsilent : ∀ acc m next, ¬ Named name m → Takes fields acc m next →
      place next = place acc := by
    intro acc m next hm htakes
    cases htakes with
    | passed => rfl
    | @field g _ hg hnamed _ hvalue =>
      refine hplace g hg (fun heq => hm ?_) acc m.2 next hvalue
      rw [← heq]
      exact hnamed
  exact finish_of_silent h hsilent habsent hread

variable {f : Field σ}

/-- A field that has been read stays so, and no member is for it any more. -/
theorem isRead_of_members (h : Independent fields) (hf : f ∈ fields) (hacc : f.isRead acc = true)
    (hread : members fields acc ms = .ok last) :
    f.isRead last = true ∧ ∀ m ∈ ms, ¬ Named f.name m := by
  induction ms generalizing acc with
  | nil =>
    obtain rfl := Except.ok.inj hread
    exact ⟨hacc, List.forall_mem_nil _⟩
  | cons m rest ih =>
    obtain ⟨next, htakes, hread⟩ := (members_cons_iff h).mp hread
    cases htakes with
    | passed named unknown =>
      obtain ⟨hlast, hrest⟩ := ih hacc hread
      refine ⟨hlast, List.forall_mem_cons.mpr ⟨fun hnamed => ?_, hrest⟩⟩
      exact unknown f hf (hnamed.unique named)
    | @field g _ hg hnamed hunread hvalue =>
      have hne : f.name ≠ g.name := by
        intro heq
        obtain rfl := h.eq_of_name hf hg heq
        exact Bool.false_ne_true (hunread.symm.trans hacc)
      have hkept := (h.apart_of_ne hf hg hne).isRead_left acc m.2 next hvalue
      obtain ⟨hlast, hrest⟩ := ih (hkept.trans hacc) hread
      exact ⟨hlast, List.forall_mem_cons.mpr ⟨fun hnamed' => hne (hnamed'.unique hnamed), hrest⟩⟩

/-- A field that a member is for has been read in the end. -/
theorem isRead_of_named (h : Independent fields) (hf : f ∈ fields) (hm : m ∈ ms)
    (hnamed : Named f.name m) (hread : members fields acc ms = .ok last) :
    f.isRead last = true := by
  obtain ⟨before, after, rfl⟩ := List.append_of_mem hm
  obtain ⟨mid, -, hread⟩ := (members_append_iff h).mp hread
  obtain ⟨next, htakes, hread⟩ := (members_cons_iff h).mp hread
  refine (isRead_of_members h hf ?_ hread).1
  cases htakes with
  | passed named unknown => exact absurd (hnamed.unique named) (unknown f hf)
  | @field g _ hg hnamed' _ hvalue =>
    obtain rfl := h.eq_of_name hf hg (hnamed.unique hnamed')
    exact h.marks f hf mid m.2 next hvalue

/-- **Members may be left out.** The fields of those that stay hold what they held. -/
theorem members_sublist (h : Independent fields) (hsub : ms'.Sublist ms)
    (hread : members fields acc ms = .ok last) :
    ∃ mid rest, members fields acc ms' = .ok mid ∧ members fields mid rest = .ok last ∧
      ∀ f ∈ fields, (∃ m ∈ ms', Named f.name m) → ∀ m ∈ rest, ¬ Named f.name m := by
  obtain ⟨rest, hperm⟩ := hsub.exists_perm_append
  -- those that are left out come last, where what is read before them stands already
  obtain ⟨mid, hmid, hlast⟩ := (members_append_iff h).mp (members_perm h hperm hread)
  refine ⟨mid, rest, hmid, hlast, ?_⟩
  rintro f hf ⟨m, hm, hnamed⟩
  exact (isRead_of_members h hf (isRead_of_named h hf hm hnamed hmid) hlast).2

/-! ## Members that count

Which members count is a parameter: it may depend on the name, on the value, or on both. A
reader of settings lets a null member not count, though a field is for it. Of the members
that count each is there once, or else the text could not be read, so that two texts with
the same such members have them in the same number and differ in their order only. -/

/-- Members that fields are for are all different: the field of a member is read before the others
come, and then no further member may be for it. -/
theorem nodup_of_members (h : Independent fields) (hknown : ∀ m ∈ ms, ∃ f ∈ fields, Named f.name m)
    (hread : members fields acc ms = .ok last) : ms.Nodup := by
  induction ms generalizing acc with
  | nil => exact List.nodup_nil
  | cons m rest ih =>
    obtain ⟨⟨f, hf, hnamed⟩, hrest⟩ := List.forall_mem_cons.mp hknown
    obtain ⟨next, htakes, hread'⟩ := (members_cons_iff h).mp hread
    refine List.nodup_cons.mpr ⟨fun hmem => ?_, ih hrest hread'⟩
    -- the member alone has its field read
    have hfirst : members fields acc [m] = .ok next :=
      (members_cons_iff h).mpr ⟨next, htakes, rfl⟩
    have hisRead := isRead_of_named h hf List.mem_cons_self hnamed hfirst
    exact (isRead_of_members h hf hisRead hread').2 m hmem hnamed

variable {α : Type} {finish : σ → α} {counts : Member → Prop}

/-- The members that count make the same of the record as all members. -/
theorem exists_counted (h : Independent fields) [DecidablePred counts]
    (hsilent : ∀ acc m next, ¬ counts m → Takes fields acc m next → finish next = finish acc)
    (hread : members fields acc ms = .ok last) :
    ∃ mid, members fields acc (ms.filter counts) = .ok mid ∧ finish last = finish mid := by
  -- the members that do not count are moved to the end
  have hperm := (List.filter_append_perm (fun m => decide (counts m)) ms).symm
  obtain ⟨mid, hmid, hlast⟩ := (members_append_iff h).mp (members_perm h hperm hread)
  refine ⟨mid, hmid, finish_of_silent h hsilent (fun m hm => ?_) hlast⟩
  simpa using (List.mem_filter.mp hm).2

/-- **What is made of a record depends on the members that count**, and on nothing else. -/
theorem finish_eq_of_counted (h : Independent fields)
    (hsilent : ∀ acc m next, ¬ counts m → Takes fields acc m next → finish next = finish acc)
    (hknown : ∀ m, counts m → ∃ f ∈ fields, Named f.name m) {last' : σ}
    (hsame : ∀ m, counts m → (m ∈ ms ↔ m ∈ ms'))
    (hread : members fields acc ms = .ok last) (hread' : members fields acc ms' = .ok last') :
    finish last = finish last' := by
  classical
  obtain ⟨mid, hmid, hlast⟩ := exists_counted h hsilent hread
  obtain ⟨mid', hmid', hlast'⟩ := exists_counted h hsilent hread'
  have hcounts : ∀ ms : List Member, ∀ m ∈ ms.filter (fun m => decide (counts m)), counts m :=
    fun ms m hm => of_decide_eq_true (List.mem_filter.mp hm).2
  have hnodup := nodup_of_members h (fun m hm => hknown m (hcounts ms m hm)) hmid
  have hnodup' := nodup_of_members h (fun m hm => hknown m (hcounts ms' m hm)) hmid'
  -- both texts have the same members that count, each of them once
  have hperm : (ms.filter (fun m => decide (counts m))).Perm
      (ms'.filter (fun m => decide (counts m))) := by
    rw [List.perm_ext_iff_of_nodup hnodup hnodup']
    intro m
    simp only [List.mem_filter, decide_eq_true_eq]
    constructor
    · exact fun hm => ⟨(hsame m hm.2).mp hm.1, hm.2⟩
    · exact fun hm => ⟨(hsame m hm.2).mpr hm.1, hm.2⟩
  obtain rfl := Except.ok.inj ((members_perm h hperm hmid).symm.trans hmid')
  rw [hlast, hlast']

end

end Reader

/-! ## Records from object texts

Up to here members were parts of a document. From here on they are parts of a text in any
layout, and `IsObject.read_record_iff` is the bridge: a record is read from the text as it
is from the members of the text. `OrderFree` and `StandardIfAbsent` speak of texts alone, so
that what they say is independent of how reading is done. -/

/-- The name of a member, if its key is a text. -/
def MemberText.name (m : MemberText) : Except Defect String :=
  read Reader.text m.key

/-- The name of a member in a text is the one of the member in the document. -/
theorem MemberText.name_eq {m : MemberText} (h : IsQuoted m.key) :
    m.name = m.member.1.reading.map String.ofList := by
  rw [name, read, (makes_quoted h).ofText]
  change (do let a ← (quotedScalar m.key).reading.map String.ofList; .ok a) = _
  rw [member]
  cases (quotedScalar m.key).reading <;> rfl

section

variable {α β : Type}

/-- Whether the key of a member is a text that is none of the names. A key with half of a surrogate
pair alone is no text, so it is no name either. -/
def MemberText.Unknown (names : List String) (m : MemberText) : Prop :=
  ∃ name, m.name = .ok name ∧ name ∉ names

/-- Whether the key of a member is one of the names. -/
def MemberText.Known (names : List String) (m : MemberText) : Prop :=
  ∃ name ∈ names, m.name = .ok name

/-- Whether the value of a member is written as null. -/
def MemberText.IsNull (m : MemberText) : Prop :=
  m.value = "null".toList

/-- Whether no member has the name. -/
def Absent (name : String) (members : List MemberText) : Prop :=
  ∀ m ∈ members, m.name ≠ .ok name

/-- An object text is read as the same with its members in another order and layout, and with
further members that have none of the names, but any values. -/
def OrderFree (reader : Reader α) (names : List String) : Prop :=
  ∀ s members a, IsObject members s → read reader s = .ok a →
    ∀ s' members' extra, IsObject members' s' → members'.Perm (members ++ extra) →
      (∀ m ∈ extra, m.Unknown names) → read reader s' = .ok a

/-- An object text can be read with any of its members left out. If none with the name is left, what
`get` yields is standard, or else it is what it was. -/
def StandardIfAbsent (reader : Reader α) (name : String) (get : α → β) (standard : β) : Prop :=
  ∀ s members a, IsObject members s → read reader s = .ok a →
    ∀ s' members', IsObject members' s' → members'.Sublist members →
      ∃ a', read reader s' = .ok a' ∧ (Absent name members' → get a' = standard) ∧
        (¬ Absent name members' → get a' = get a)

end

section

variable {α σ : Type} {members : List MemberText} {m : MemberText} {s : List Char}

/-- A record is read from an object text as from its members. -/
theorem IsObject.read_record_iff {fields : List (Reader.Field σ)} {start : σ}
    {finish : σ → Option α} {a : α} (h : IsObject members s) :
    read (Reader.record fields start finish) s = .ok a ↔
      ∃ acc, Reader.members fields start (members.map MemberText.member) = .ok acc ∧
        finish acc = some a := by
  rw [read_eq_ok_iff, h.ofText]
  constructor
  · rintro ⟨hread, -⟩
    obtain ⟨acc, hacc, hread⟩ := of_bind_eq_ok hread
    obtain ⟨_, -, hread⟩ := of_bind_eq_ok hread
    split at hread
    · rename_i a' ha'
      obtain rfl := Except.ok.inj hread
      exact ⟨acc, hacc, ha'⟩
    · cases hread
  · rintro ⟨acc, hacc, hfinish⟩
    exact ⟨Reader.record_of_members acc hacc hfinish, rfl⟩

/-- A member has a name in the text where it has it in the document. -/
theorem IsObject.name_iff (h : IsObject members s) (hm : m ∈ members) {name : String} :
    m.name = .ok name ↔ Reader.Named name m.member := by
  rw [MemberText.name_eq (h.keys m hm), Reader.Named]

/-- A member of an object text can be passed over. -/
theorem IsObject.skip_member (h : IsObject members s) (hm : m ∈ members) :
    m.member.2.skip = .ok () :=
  (h.values m hm).makes.2

/-- In an object text without members of the name no member is for the field. -/
theorem IsObject.not_named (h : IsObject members s) {name : String}
    (habsent : Absent name members) :
    ∀ m ∈ members.map MemberText.member, ¬ Reader.Named name m := by
  intro m hm
  obtain ⟨m, hmem, rfl⟩ := List.mem_map.mp hm
  exact fun hnamed => habsent m hmem ((h.name_iff hmem).mpr hnamed)

variable {fields : List (Reader.Field σ)} {start : σ}

/-- **A record with independent fields is free of the order of its members.** -/
theorem orderFree_record (h : Reader.Independent fields) (finish : σ → Option α) :
    OrderFree (Reader.record fields start finish) (fields.map Reader.Field.name) := by
  intro s members a hs hread s' members' extra hs' hperm hextra
  obtain ⟨acc, hacc, hfinish⟩ := hs.read_record_iff.mp hread
  have hunknown : Reader.members fields acc (extra.map MemberText.member) = .ok acc := by
    refine Reader.members_unknown h fun m hm => ?_
    obtain ⟨m, hmem, rfl⟩ := List.mem_map.mp hm
    have hmem' : m ∈ members' := hperm.mem_iff.mpr (List.mem_append_right members hmem)
    obtain ⟨name, hname, hnot⟩ := hextra m hmem
    refine ⟨⟨name, (hs'.name_iff hmem').mp hname, fun f hf heq => hnot ?_⟩, hs'.skip_member hmem'⟩
    exact heq ▸ List.mem_map_of_mem hf
  refine hs'.read_record_iff.mpr ⟨acc, Reader.members_perm h ?_
    ((Reader.members_append_iff h).mpr ⟨acc, hacc, hunknown⟩), hfinish⟩
  rw [← List.map_append]
  exact (hperm.map MemberText.member).symm

/-- A field with a place of its own in the record, which is empty at first. -/
theorem standardIfAbsent_record {γ : Type} (h : Reader.Independent fields) {finish : σ → α}
    {name : String} {reader : Reader γ} {place : σ → Option γ} {put : σ → γ → σ} {get : α → γ}
    {standard : γ} (hf : Reader.Field.of name reader place put ∈ fields)
    (hplace : ∀ g ∈ fields, g.name ≠ name → ∀ acc d next, g.read acc d = .ok next →
      place next = place acc)
    (hstart : place start = none) (hget : ∀ acc, get (finish acc) = (place acc).getD standard) :
    StandardIfAbsent (Reader.record fields start fun acc => some (finish acc)) name get
      standard := by
  intro s members a hs hread s' members' hs' hsub
  obtain ⟨last, hlast, hfinish⟩ := hs.read_record_iff.mp hread
  obtain rfl := Option.some.inj hfinish
  obtain ⟨mid, rest, hmid, hrest, hapart⟩ :=
    Reader.members_sublist h (hsub.map MemberText.member) hlast
  refine ⟨finish mid, hs'.read_record_iff.mpr ⟨mid, hmid, rfl⟩, fun habsent => ?_, fun hthere => ?_⟩
  · rw [hget, Reader.place_of_absent h hplace (hs'.not_named habsent) hmid, hstart]
    rfl
  · have hnamed : ∃ m ∈ members'.map MemberText.member, Reader.Named name m := by
      by_contra hnone
      refine hthere fun m hm hname => hnone ⟨m.member, List.mem_map_of_mem hm, ?_⟩
      exact (hs'.name_iff hm).mp hname
    rw [hget, hget, Reader.place_of_absent h hplace (hapart _ hf hnamed) hrest]

end

end TokenSpans.Json
