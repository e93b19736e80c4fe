import TokenSpans.Json.Spans
import TokenSpans.Proofs.Json.Readers
import TokenSpans.Proofs.Spans

/-!
# Spans and tokens written without loss

Locations, spans, named spans and tokens are written without loss, all of them whose numbers fit a
word: spans that run backwards, texts of any characters, labels that are missing or empty. A member
that is left out is read as what it was left out for. The same holds of whatever a text is read as,
so reading and writing settles every text that can be read (`spans_and_tokens_lossless`).

For each of the four types the same is done in the same order: what it means that its
numbers fit a word, that it is then written as a value with such numbers
(`inWords_toValue`), that it is read back from that value (`readsBack`), and that reading
yields no other values (`yields`). The first three are about writing, and the last is about
every text. `Lossless.of_readsBack` puts them together. Each type uses the lemmas of the one
inside it: spans those of locations, named spans those of spans, tokens those of named
spans.

While a record is read, its fields are held in a draft, and each field is allowed to be
missing. The condition on numbers is therefore stated for drafts too, and `finish` carries
it from the draft to the record.
-/

namespace TokenSpans

open Json

namespace Location

/-- Whether all three numbers fit a word. -/
structure InWords (l : Location) : Prop where
  offset : l.offset ≤ Word.max
  line : l.line ≤ Word.max
  column : l.column ≤ Word.max

/-- Whether the numbers read so far fit a word. -/
structure Draft.InWords (d : Draft) : Prop where
  offset : ∀ n ∈ d.offset, n ≤ Word.max
  line : ∀ n ∈ d.line, n ≤ Word.max
  column : ∀ n ∈ d.column, n ≤ Word.max

/-- A location is written with its own three numbers. -/
theorem inWords_toValue {l : Location} (h : l.InWords) : l.toValue.InWords := by
  simp only [toValue, Value.InWords, Value.MembersInWords]
  exact ⟨h.offset, h.line, h.column, trivial⟩

/-- The three members are read into the three fields. -/
theorem readsBack : reader.ReadsBack toValue := by
  intro l
  refine Reader.record_of_members ⟨some l.offset, some l.line, some l.column⟩ ?_ rfl
  exact (Reader.members_cons rfl rfl rfl _).trans <|
    (Reader.members_cons rfl rfl rfl _).trans <| (Reader.members_cons rfl rfl rfl _).trans rfl

/-- A location is made of the numbers that were read. -/
theorem Draft.inWords_finish {d : Draft} {l : Location} (h : d.InWords) (hl : d.finish = some l) :
    l.InWords := by
  obtain ⟨offset, hoffset, hl⟩ := Option.bind_eq_some_iff.mp hl
  obtain ⟨line, hline, hl⟩ := Option.bind_eq_some_iff.mp hl
  obtain ⟨column, hcolumn, hl⟩ := Option.bind_eq_some_iff.mp hl
  obtain rfl := Option.some.inj hl
  exact ⟨h.offset offset hoffset, h.line line hline, h.column column hcolumn⟩

/-- Every number of a location is read by the reader of numbers. -/
theorem yields : reader.Yields InWords := by
  refine Reader.Yields.record Draft.InWords ⟨nofun, nofun, nofun⟩ ?_
    fun _ _ => Draft.inWords_finish
  refine List.forall_mem_cons.mpr ⟨?_, List.forall_mem_cons.mpr ⟨?_,
    List.forall_mem_singleton.mpr ?_⟩⟩
  · exact Reader.yields_nat.field fun d n hd hn => { hd with offset := by rintro _ ⟨⟩; exact hn }
  · exact Reader.yields_nat.field fun d n hd hn => { hd with line := by rintro _ ⟨⟩; exact hn }
  · exact Reader.yields_nat.field fun d n hd hn => { hd with column := by rintro _ ⟨⟩; exact hn }

/-- **Locations are written without loss.** -/
theorem lossless : Lossless reader toValue InWords :=
  .of_readsBack readsBack (fun _ => inWords_toValue) yields

end Location

namespace Span

/-- Whether the numbers of both ends fit a word. -/
structure InWords (s : Span) : Prop where
  start : s.start.InWords
  stop : s.stop.InWords

/-- Whether the numbers of the ends read so far fit a word. -/
structure Draft.InWords (d : Draft) : Prop where
  start : ∀ l ∈ d.start, l.InWords
  stop : ∀ l ∈ d.stop, l.InWords

/-- A span is written with the numbers of its two ends. -/
theorem inWords_toValue {s : Span} (h : s.InWords) : s.toValue.InWords := by
  have hstart := Location.inWords_toValue h.start
  have hstop := Location.inWords_toValue h.stop
  rw [toValue]
  split
  · simp only [Value.InWords, Value.MembersInWords]
    exact ⟨hstart, hstop, trivial⟩
  · simp only [Value.InWords, Value.MembersInWords, List.cons_append, List.nil_append]
    exact ⟨hstart, hstop, trivial, trivial⟩

/-- A label that is missing was left out, and an empty one was not. -/
theorem readsBack : reader.ReadsBack toValue := by
  rintro ⟨start, stop, source⟩
  have hstart := Location.readsBack start
  have hstop := Location.readsBack stop
  cases source with
  | none =>
    refine Reader.record_of_members ⟨some start, some stop, none⟩ ?_ rfl
    exact (Reader.members_cons rfl rfl (Reader.read_field hstart) _).trans <|
      (Reader.members_cons rfl rfl (Reader.read_field hstop) _).trans rfl
  | some label =>
    have hlabel : Reader.option Reader.text (.text (.sound label.toList)) = .ok (some label) :=
      congrArg (Except.map some) (Reader.text_document label)
    refine Reader.record_of_members ⟨some start, some stop, some (some label)⟩ ?_ rfl
    exact (Reader.members_cons rfl rfl (Reader.read_field hstart) _).trans <|
      (Reader.members_cons rfl rfl (Reader.read_field hstop) _).trans <|
        (Reader.members_cons rfl rfl (Reader.read_field hlabel) _).trans rfl

/-- A span is made of the ends that were read. -/
theorem Draft.inWords_finish {d : Draft} {s : Span} (h : d.InWords) (hs : d.finish = some s) :
    s.InWords := by
  obtain ⟨start, hstart, hs⟩ := Option.bind_eq_some_iff.mp hs
  obtain ⟨stop, hstop, hs⟩ := Option.bind_eq_some_iff.mp hs
  obtain rfl := Option.some.inj hs
  exact ⟨h.start start hstart, h.stop stop hstop⟩

/-- What is read as an end is a location whose numbers fit. -/
theorem yields : reader.Yields InWords := by
  refine Reader.Yields.record Draft.InWords ⟨nofun, nofun⟩ ?_ fun _ _ => Draft.inWords_finish
  refine List.forall_mem_cons.mpr ⟨?_, List.forall_mem_cons.mpr ⟨?_,
    List.forall_mem_singleton.mpr ?_⟩⟩
  · exact Location.yields.field fun d l hd hl => { hd with start := by rintro _ ⟨⟩; exact hl }
  · exact Location.yields.field fun d l hd hl => { hd with stop := by rintro _ ⟨⟩; exact hl }
  · exact (Reader.yields_true _).field fun d label hd _ => ⟨hd.start, hd.stop⟩

/-- **Spans are written without loss**, also those that run backwards. -/
theorem lossless : Lossless reader toValue InWords :=
  .of_readsBack readsBack (fun _ => inWords_toValue) yields

end Span

namespace Spans

/-- Whether the numbers of all spans fit a word. -/
def InWords (spans : Spans) : Prop :=
  ∀ e ∈ spans.entries, e.2.InWords

/-- Named spans are written with the numbers of all of them. -/
theorem inWords_toValue {spans : Spans} (h : spans.InWords) : spans.toValue.InWords := by
  -- over any list of entries, sorted or not
  have hmembers : ∀ entries : List (String × Span), (∀ e ∈ entries, e.2.InWords) →
      Value.MembersInWords (entries.map fun e => (e.1, e.2.toValue)) := by
    intro entries
    induction entries with
    | nil => exact fun _ => trivial
    | cons e rest ih =>
      intro hentries
      obtain ⟨he, hrest⟩ := List.forall_mem_cons.mp hentries
      exact ⟨Span.inWords_toValue he, ih hrest⟩
  exact hmembers spans.entries h

/-- The entries are in order already, so putting them in one after the other changes nothing. -/
theorem readsBack : reader.ReadsBack toValue := by
  intro spans
  rw [reader, toValue, Reader.dictionary_document Span.readsBack]
  exact congrArg Except.ok (ofList_entries spans)

/-- What is read under each name is a span whose numbers fit, and keeping the last one of a name
adds none. -/
theorem yields : reader.Yields InWords := by
  intro d spans hd hread
  obtain ⟨entries, hentries, hspans⟩ := of_bind_eq_ok hread
  obtain rfl := Except.ok.inj hspans
  intro e he
  exact Span.yields.dictionary d entries hd hentries e (mem_of_mem_ofList he)

/-- **Named spans are written without loss**, in the order of their names. -/
theorem lossless : Lossless reader toValue InWords :=
  .of_readsBack readsBack (fun _ => inWords_toValue) yields

/-- Spans are read as the entries of the text put one after the other. -/
theorem exists_entries_of_read {s : List Char} {spans : Spans} (h : read reader s = .ok spans) :
    ∃ entries, read (Reader.dictionary Span.reader) s = .ok entries ∧ spans = ofList entries := by
  obtain ⟨hspans, hend⟩ := read_eq_ok_iff.mp h
  obtain ⟨entries, hentries, hofList⟩ := of_bind_eq_ok hspans
  exact ⟨entries, read_eq_ok_iff.mpr ⟨hentries, hend⟩, (Except.ok.inj hofList).symm⟩

end Spans

namespace Token

/-- Whether the numbers of all spans fit a word. -/
def InWords (t : Token) : Prop :=
  t.spans.InWords

/-- A token is written with the numbers of its spans. -/
theorem inWords_toValue {t : Token} (h : t.InWords) : t.toValue.InWords := by
  have hspans := Spans.inWords_toValue h
  rw [toValue]
  split
  · exact ⟨trivial, trivial, trivial⟩
  · exact ⟨trivial, trivial, hspans, trivial⟩

/-- Spans were left out only where there are none. -/
theorem readsBack : reader.ReadsBack toValue := by
  rintro ⟨kind, value, spans⟩
  have hkind := Reader.text_document kind
  have hvalue := Reader.text_document value
  rw [toValue]
  dsimp only
  split
  · rename_i hempty
    have hspans : spans = .empty := by
      obtain ⟨entries, sorted⟩ := spans
      obtain rfl : entries = [] := List.isEmpty_iff.mp hempty
      rfl
    subst hspans
    refine Reader.record_of_members ⟨some kind, some value, none⟩ ?_ rfl
    exact (Reader.members_cons rfl rfl (Reader.read_field hkind) _).trans <|
      (Reader.members_cons rfl rfl (Reader.read_field hvalue) _).trans rfl
  · refine Reader.record_of_members ⟨some kind, some value, some spans⟩ ?_ rfl
    exact (Reader.members_cons rfl rfl (Reader.read_field hkind) _).trans <|
      (Reader.members_cons rfl rfl (Reader.read_field hvalue) _).trans <|
        (Reader.members_cons rfl rfl (Reader.read_field (Spans.readsBack spans)) _).trans rfl

/-- A token without spans has no numbers, and one with spans has theirs. -/
theorem yields : reader.Yields InWords := by
  refine Reader.Yields.record (fun d : Draft => ∀ spans ∈ d.spans, spans.InWords) nofun ?_ ?_
  · refine List.forall_mem_cons.mpr ⟨?_, List.forall_mem_cons.mpr ⟨?_,
      List.forall_mem_singleton.mpr ?_⟩⟩
    · exact (Reader.yields_true _).field fun d s hd _ => hd
    · exact (Reader.yields_true _).field fun d s hd _ => hd
    · exact Spans.yields.field fun d spans hd hspans => by rintro _ ⟨⟩; exact hspans
  · intro d t hd ht
    obtain ⟨kind, hkind, ht⟩ := Option.bind_eq_some_iff.mp ht
    obtain ⟨value, hvalue, ht⟩ := Option.bind_eq_some_iff.mp ht
    obtain rfl := Option.some.inj ht
    change (d.spans.getD .empty).InWords
    cases hspans : d.spans with
    | none => exact List.forall_mem_nil _
    | some spans => exact hd spans hspans

/-- **Tokens are written without loss**, with and without spans. -/
theorem lossless : Lossless reader toValue InWords :=
  .of_readsBack readsBack (fun _ => inWords_toValue) yields

end Token

/-- **Spans and tokens are written without loss.** Every location, span, collection of named spans
and token whose numbers fit a word is read from its written form as it was. Whatever a text is read
as, in any layout and order and with any members besides, has such numbers, is read again from its
written form, and is then written the same. A name that is there more than once in a text has the
last of its spans. -/
theorem spans_and_tokens_lossless :
    Lossless Location.reader Location.toValue Location.InWords ∧
      Lossless Span.reader Span.toValue Span.InWords ∧
      Lossless Spans.reader Spans.toValue Spans.InWords ∧
      Lossless Token.reader Token.toValue Token.InWords ∧
      ∀ s spans, read Spans.reader s = .ok spans →
        ∃ entries, read (Reader.dictionary Span.reader) s = .ok entries ∧
          ∀ name, spans.get? name = entries.reverse.lookup name := by
  refine ⟨Location.lossless, Span.lossless, Spans.lossless, Token.lossless, ?_⟩
  intro s spans h
  obtain ⟨entries, hentries, rfl⟩ := Spans.exists_entries_of_read h
  exact ⟨entries, hentries, Spans.get?_ofList entries⟩

/-- A token with a span that runs backwards from the largest number there is, under a name and with
a text that both need escapes, and with an empty label. -/
theorem spans_and_tokens_lossless_backwards :
    let token : Token := ⟨"word", "\"\\\n\x01𝄞",
      .ofList [("\tname", ⟨⟨Word.max, 1, 1⟩, ⟨0, Word.max, 0⟩, some ""⟩)]⟩
    read Token.reader token.toValue.compact = .ok token :=
  spans_and_tokens_lossless.2.2.2.1.read_compact _ <| List.forall_mem_singleton.mpr
    ⟨⟨by decide, by decide, by decide⟩, ⟨by decide, by decide, by decide⟩⟩

end TokenSpans
