import TokenSpans.Json.Reader
import TokenSpans.Json.Value
import TokenSpans.Proofs.Json.Documents
import TokenSpans.Proofs.Json.Words

/-!
# Written forms without loss

A written form is without loss if what is written is read as it was, and if reading a text of
whatever layout and writing it again settles it (`Lossless`). Two things make it so
(`Lossless.of_readsBack`): the reader takes the written value back from its document
(`Reader.ReadsBack`), and it yields only values that can be written without loss (`Reader.Yields`).
The latter goes from the reader of a part to that of the whole, to records field by field and to
dictionaries.

The text drops out at once. A text is read where its document is (`read_eq_ok_iff`), the
document of a written value is known (`Document.ofText_compact`), and so is that the numbers
of any document fit a word. All that is left to show of a type is about its reader and its
written value, both of which are trees.

`Lossless` has its third clause because two texts may be read as one value. What is written
is then one of the many texts that say the same, and the clause says that writing once is
enough: after that reading and writing changes nothing.
-/

namespace TokenSpans.Json

/-- Inversion for a computation of two steps that is right. -/
theorem of_bind_eq_ok {ε α β : Type} {x : Except ε α} {f : α → Except ε β} {b : β}
    (h : x >>= f = .ok b) : ∃ a, x = .ok a ∧ f a = .ok b := by
  cases x with
  | error e => cases h
  | ok a => exact ⟨a, rfl, h⟩

/-- Inversion for a computation that is right, and whose value is changed afterwards. -/
theorem of_map_eq_ok {ε α β : Type} {x : Except ε α} {f : α → β} {b : β}
    (h : x.map f = .ok b) : ∃ a, x = .ok a ∧ f a = b := by
  cases x with
  | error e => cases h
  | ok a => exact ⟨a, rfl, Except.ok.inj h⟩

/-! ## Writing and reading

The three parts of being without loss are related. The second follows from the first where
reading yields only values that fit, and the third follows from the second. They are all
stated, since they say different things to one who uses them. -/

section

variable {α : Type}

/-- What a text is written as once it has been read. -/
def rewrite (reader : Reader α) (write : α → Value) (s : List Char) : Except Defect (List Char) :=
  (read reader s).map fun a => (write a).compact

/-- A written form without loss for the values that `fits` holds of. -/
structure Lossless (reader : Reader α) (write : α → Value) (fits : α → Prop) : Prop where
  /-- what fits is read as it was -/
  read_compact : ∀ a, fits a → read reader (write a).compact = .ok a
  /-- what any text is read as can be written without loss -/
  read_again : ∀ s a, read reader s = .ok a → fits a ∧ read reader (write a).compact = .ok a
  /-- and then it is written as before -/
  rewrite_again : ∀ s t, rewrite reader write s = .ok t → rewrite reader write t = .ok t

/-- The reader takes what was written from its document. -/
def Reader.ReadsBack (reader : Reader α) (write : α → Value) : Prop :=
  ∀ a, reader (write a).document = .ok a

/-- The reader makes only values that `p` holds of from documents whose numbers fit a word. -/
def Reader.Yields (reader : Reader α) (p : α → Prop) : Prop :=
  ∀ d a, d.InWords → reader d = .ok a → p a

variable {reader : Reader α} {write : α → Value} {fits : α → Prop}

/-- A text is read where its document is and nothing comes after it. -/
theorem read_eq_ok_iff {s : List Char} {a : α} :
    read reader s = .ok a ↔
      reader (Document.ofText s).1 = .ok a ∧ (Document.ofText s).2 = [] := by
  rw [read]
  constructor
  · intro h
    obtain ⟨a', ha', hrest⟩ := of_bind_eq_ok h
    split at hrest
    · rename_i hend
      obtain rfl := Except.ok.inj hrest
      exact ⟨ha', List.isEmpty_iff.mp hend⟩
    · cases hrest
  · rintro ⟨ha, hend⟩
    dsimp only
    rw [ha, hend]
    rfl

/-- What a text is read as fits, if the reader yields nothing else. -/
theorem Reader.Yields.of_read (h : reader.Yields fits) {s : List Char} {a : α}
    (hread : read reader s = .ok a) : fits a :=
  h _ a (Document.inWords_ofText s) (read_eq_ok_iff.mp hread).1

/-- What is written is read, if its numbers fit a word. -/
theorem Reader.ReadsBack.read_compact (h : reader.ReadsBack write) {a : α}
    (hwords : (write a).InWords) : read reader (write a).compact = .ok a := by
  rw [read_eq_ok_iff, Document.ofText_compact hwords]
  exact ⟨h a, rfl⟩

/-- **A form is without loss** if it is read back from its documents and reading yields nothing that
could not be written. -/
theorem Lossless.of_readsBack (hback : reader.ReadsBack write)
    (hwords : ∀ a, fits a → (write a).InWords) (hyields : reader.Yields fits) :
    Lossless reader write fits where
  read_compact a ha := hback.read_compact (hwords a ha)
  read_again s a hread :=
    have ha := hyields.of_read hread
    ⟨ha, hback.read_compact (hwords a ha)⟩
  rewrite_again s t h := by
    obtain ⟨a, hread, rfl⟩ := of_map_eq_ok h
    have hagain := hback.read_compact (hwords a (hyields.of_read hread))
    rw [rewrite, hagain]
    rfl

end

namespace Reader

variable {α σ : Type} {reader : Reader α} {p : α → Prop}

/-! ## Readers of written values

A record is read member by member, and in what is written every member is a field that has
not been read. So a written record is read by one step for each of its members
(`members_cons`), and the fields that were left out stay missing. The reader of a part is
used through what it makes of its document, and is not opened. -/

/-- A member that is a field not read so far. -/
theorem members_cons {fields : List (Field σ)} {f : Field σ} {acc next : σ} {name : String}
    {d : Document} (hfind : fields.find? (fun f => f.name == name) = some f)
    (hunread : f.isRead acc = false) (hread : f.read acc d = .ok next) (rest : List Member) :
    members fields acc ((.sound name.toList, d) :: rest) = members fields next rest := by
  rw [members]
  dsimp only [Scalar.sound, bind, Except.bind]
  rw [String.ofList_toList, hfind]
  dsimp only
  rw [hunread, hread]
  rfl

/-- A field whose value was written. -/
theorem read_field {name : String} {get : σ → Option α} {put : σ → α → σ} {acc : σ} {d : Document}
    {a : α} (h : reader d = .ok a) : (Field.of name reader get put).read acc d = .ok (put acc a) :=
  congrArg (Except.map (put acc)) h

/-- A record whose members are read, with all of its fields that are needed. -/
theorem record_of_members {fields : List (Field σ)} {start : σ} {finish : σ → Option α}
    {found : List Member} {a : α} (acc : σ) (hmembers : members fields start found = .ok acc)
    (hfinish : finish acc = some a) :
    record fields start finish (.object found .closed) = .ok a := by
  rw [record, hmembers]
  dsimp only [bind, Except.bind, Ending.check]
  rw [hfinish]

/-- A written text is read as it was. -/
theorem text_document (s : String) : text (.text (.sound s.toList)) = .ok s :=
  congrArg Except.ok String.ofList_toList

/-- The members of a dictionary that was written. -/
theorem entries_documents {write : α → Value} (h : reader.ReadsBack write)
    (found : List (String × α)) :
    entries reader (Value.memberDocuments (found.map fun e => (e.1, write e.2))) = .ok found := by
  induction found with
  | nil => rfl
  | cons e rest ih =>
    have hname : String.ofList e.1.toList = e.1 := String.ofList_toList
    rw [List.map_cons, Value.memberDocuments, entries, ih, h]
    exact congrArg (fun name => Except.ok ((name, e.2) :: rest)) hname

/-- A dictionary that was written is read with all its entries, in their order. -/
theorem dictionary_document {write : α → Value} (h : reader.ReadsBack write)
    (found : List (String × α)) :
    dictionary reader (Value.object (found.map fun e => (e.1, write e.2))).document =
      .ok found := by
  rw [Value.document, dictionary, entries_documents h]
  rfl

/-! ## What readers yield

Here the document may be any, so a reader has to be followed through all that it accepts. A
record may come from an object or from a list, with fields in any order, some of them
missing. What is carried along is an invariant on the record as far as it has been read,
which every field keeps; for a reader that is built from others it is enough to know what
those yield. -/

/-- Of some values nothing is asked. -/
theorem yields_true (reader : Reader α) : reader.Yields fun _ => True :=
  fun _ _ _ _ => trivial

/-- A number that is read fits a word. -/
theorem yields_nat : nat.Yields (· ≤ Word.max) := by
  intro d n hd h
  cases hd with
  | number fits =>
    obtain ⟨found, hfound, hn⟩ := of_bind_eq_ok h
    cases found with
    | none => cases hn
    | some n' =>
      obtain rfl := Except.ok.inj hn
      exact fits n' hfound
  | _ => cases h

/-- Members of an object keep what every field keeps. -/
theorem Yields.members {fields : List (Field σ)} {inv : σ → Prop}
    (hfields : ∀ f ∈ fields, ∀ acc, inv acc → (f.read acc).Yields inv) {found : List Member}
    {acc last : σ} (hfound : ∀ m ∈ found, m.2.InWords) (hacc : inv acc)
    (h : members fields acc found = .ok last) : inv last := by
  induction found generalizing acc with
  | nil =>
    obtain rfl := Except.ok.inj h
    exact hacc
  | cons m rest ih =>
    obtain ⟨hm, hrest⟩ := List.forall_mem_cons.mp hfound
    obtain ⟨name, -, h⟩ := of_bind_eq_ok h
    split at h
    -- a member that no field is for is passed over
    · obtain ⟨_, -, h⟩ := of_bind_eq_ok h
      exact ih hrest hacc h
    · rename_i f hf
      split at h
      · cases h
      · obtain ⟨next, hnext, h⟩ := of_bind_eq_ok h
        exact ih hrest (hfields f (List.mem_of_find?_eq_some hf) acc hacc m.2 next hm hnext) h

/-- Items of a list that are read as fields keep what every field keeps. -/
theorem Yields.items {fields : List (Field σ)} {inv : σ → Prop} {ending : Ending}
    (hfields : ∀ f ∈ fields, ∀ acc, inv acc → (f.read acc).Yields inv) {found : List Document}
    {acc last : σ} (hfound : ∀ d ∈ found, d.InWords) (hacc : inv acc)
    (h : items ending fields acc found = .ok last) : inv last := by
  induction found generalizing fields acc with
  | nil =>
    -- there may be fewer items than fields, and then only the ending is checked
    have hend : (do
        ending.check
        .ok acc : Except Defect σ) = .ok last := by
      cases fields with
      | nil => exact h
      | cons f more => exact h
    obtain ⟨_, -, hlast⟩ := of_bind_eq_ok hend
    obtain rfl := Except.ok.inj hlast
    exact hacc
  | cons d rest ih =>
    cases fields with
    | nil => cases h
    | cons f more =>
      obtain ⟨hf, hmore⟩ := List.forall_mem_cons.mp hfields
      obtain ⟨hd, hrest⟩ := List.forall_mem_cons.mp hfound
      obtain ⟨next, hnext, h⟩ := of_bind_eq_ok h
      exact ih hmore hrest (hf acc hacc d next hd hnext) h

/-- A record has what its fields keep. -/
theorem Yields.record {fields : List (Field σ)} {start : σ} {finish : σ → Option α}
    (inv : σ → Prop) (hstart : inv start)
    (hfields : ∀ f ∈ fields, ∀ acc, inv acc → (f.read acc).Yields inv)
    (hfinish : ∀ acc a, inv acc → finish acc = some a → p a) :
    (record fields start finish).Yields p := by
  intro d a hd h
  cases hd with
  | object fits ending =>
    obtain ⟨acc, hacc, h⟩ := of_bind_eq_ok h
    obtain ⟨_, -, h⟩ := of_bind_eq_ok h
    split at h
    · rename_i a' ha'
      obtain rfl := Except.ok.inj h
      exact hfinish acc a' (Yields.members hfields fits hstart hacc) ha'
    · cases h
  | list fits ending =>
    obtain ⟨acc, hacc, h⟩ := of_bind_eq_ok h
    split at h
    · rename_i a' ha'
      obtain rfl := Except.ok.inj h
      exact hfinish acc a' (Yields.items hfields fits hstart hacc) ha'
    · cases h
  | _ => cases h

/-- The field of a value that may be missing keeps what putting the value keeps. -/
theorem Yields.field (h : reader.Yields p) {inv : σ → Prop} {name : String} {get : σ → Option α}
    {put : σ → α → σ} (hput : ∀ acc a, inv acc → p a → inv (put acc a)) :
    ∀ acc, inv acc → ((Field.of name reader get put).read acc).Yields inv := by
  intro acc hacc d next hd hread
  obtain ⟨a, ha, rfl⟩ := of_map_eq_ok hread
  exact hput acc a hacc (h d a hd ha)

/-- The values of the members are what their reader yields. -/
theorem Yields.entries (h : reader.Yields p) {members : List Member} {found : List (String × α)}
    (hmembers : ∀ m ∈ members, m.2.InWords) (hread : entries reader members = .ok found) :
    ∀ e ∈ found, p e.2 := by
  induction members generalizing found with
  | nil =>
    obtain rfl := Except.ok.inj hread
    exact List.forall_mem_nil _
  | cons m rest ih =>
    obtain ⟨hm, hrest⟩ := List.forall_mem_cons.mp hmembers
    obtain ⟨name, -, hread⟩ := of_bind_eq_ok hread
    obtain ⟨a, ha, hread⟩ := of_bind_eq_ok hread
    obtain ⟨more, hmore, hread⟩ := of_bind_eq_ok hread
    obtain rfl := Except.ok.inj hread
    exact List.forall_mem_cons.mpr ⟨h m.2 a hm ha, ih hrest hmore⟩

/-- The values in a dictionary are what their reader yields. -/
theorem Yields.dictionary (h : reader.Yields p) :
    (dictionary reader).Yields fun found => ∀ e ∈ found, p e.2 := by
  intro d found hd hread
  cases hd with
  | object fits ending =>
    obtain ⟨found', hfound', hread⟩ := of_bind_eq_ok hread
    obtain ⟨_, -, hread⟩ := of_bind_eq_ok hread
    obtain rfl := Except.ok.inj hread
    exact h.entries fits hfound'
  | _ => cases hread

end Reader

end TokenSpans.Json
