import Mathlib.Data.List.Nodup
import TokenSpans.Spans

/-!
# Spans under names

What is put under a name is found there, and what is found under the names is all there is: two
collections in which the same is found are equal (`Spans.ext_get?`). A change of all spans reaches a
span that is put among them just the same, before or after, since the names decide where it goes and
these stay.

After `ext_get?` the order of the entries is no longer looked at: two ways to come to a
collection are compared by what is found under an arbitrary name. The order enters in one
lemma only, that entries with the names and spans in common are the same list, since both
are sorted (`mem_entries_iff` and `List.Perm.eq_of_pairwise`).
-/

namespace TokenSpans

/-! ## Sorted entries

Three facts about putting one entry into a sorted list, by induction along the list with a
case for a name that is smaller, equal or greater than the first. -/

/-- A span put under a name is found under it. -/
theorem lookup_putSorted_self (name : String) (span : Span) (entries : List (String × Span)) :
    (putSorted name span entries).lookup name = some span := by
  induction entries with
  | nil => exact List.lookup_cons_self
  | cons first rest ih =>
    obtain ⟨other, held⟩ := first
    rw [putSorted]
    split
    · exact List.lookup_cons_self
    · split
      · exact List.lookup_cons_self
      · rename_i hne
        have hother : (name == other) = false := beq_eq_false_iff_ne.mpr hne
        rw [List.lookup_cons, hother]
        exact ih

/-- A span put under one name leaves the other names as they are. -/
theorem lookup_putSorted_of_ne {name other : String} (h : name ≠ other) (span : Span)
    (entries : List (String × Span)) :
    (putSorted other span entries).lookup name = entries.lookup name := by
  have hother : (name == other) = false := beq_eq_false_iff_ne.mpr h
  induction entries with
  | nil => rw [putSorted, List.lookup_cons, hother]
  | cons first rest ih =>
    obtain ⟨found, held⟩ := first
    rw [putSorted]
    split
    · rw [List.lookup_cons, hother]
    · split
      · rename_i heq
        subst heq
        rw [List.lookup_cons, List.lookup_cons, hother]
      · rw [List.lookup_cons, List.lookup_cons, ih]

/-- A change of all spans and putting one among them commute. -/
theorem map_putSorted (f : Span → Span) (name : String) (span : Span)
    (entries : List (String × Span)) :
    (putSorted name span entries).map (fun e => (e.1, f e.2)) =
      putSorted name (f span) (entries.map fun e => (e.1, f e.2)) := by
  induction entries with
  | nil => rfl
  | cons first rest ih =>
    obtain ⟨other, held⟩ := first
    -- where the span is put is decided by the names, and these stay
    simp only [putSorted, List.map_cons]
    split
    · rfl
    · split
      · rfl
      · rw [List.map_cons, ih]

namespace Spans

@[simp] theorem get?_insert_self (spans : Spans) (name : String) (span : Span) :
    (spans.insert name span).get? name = some span :=
  lookup_putSorted_self ..

/-- What is found after a span was put: that span under its name, and what was there under
all others. -/
theorem get?_insert (spans : Spans) (name other : String) (span : Span) :
    (spans.insert other span).get? name = if name = other then some span else spans.get? name := by
  split
  · rename_i h
    rw [h, get?_insert_self]
  · rename_i h
    exact lookup_putSorted_of_ne h span spans.entries

@[simp] theorem get?_empty (name : String) : empty.get? name = none := rfl

/-! ## What is found is all there is

A collection keeps its entries sorted by name and without repetition, and carries the proof.
So an entry and what is found under its name are the same thing, and equality of collections
is equality of what is found. -/

/-- Every name is in use once. -/
theorem nodup_names (spans : Spans) : spans.names.Nodup := by
  rw [names, List.Nodup, List.pairwise_map]
  refine spans.sorted.imp ?_
  intro e e' hless heq
  rw [heq] at hless
  exact String.lt_irrefl _ hless

/-- A span is found under a name where the two are an entry: no name has two. -/
theorem mem_entries_iff {spans : Spans} {name : String} {span : Span} :
    (name, span) ∈ spans.entries ↔ spans.get? name = some span := by
  rw [get?, List.lookup_eq_some_iff]
  constructor
  · intro hmem
    obtain ⟨before, after, hsplit⟩ := List.append_of_mem hmem
    refine ⟨before, after, hsplit, fun e he => ?_⟩
    -- what stands before an entry has a smaller name
    have hsorted := spans.sorted
    rw [hsplit] at hsorted
    have hless := (List.pairwise_append.mp hsorted).2.2 e he (name, span) List.mem_cons_self
    exact bne_iff_ne.mpr fun heq => String.lt_irrefl _ (heq ▸ hless)
  · rintro ⟨before, after, hsplit, -⟩
    rw [hsplit]
    exact List.mem_append_right _ List.mem_cons_self

/-- Two collections with the same spans under the same names are equal. -/
theorem ext_get? {spans spans' : Spans} (h : ∀ name, spans.get? name = spans'.get? name) :
    spans = spans' := by
  have hperm : spans.entries.Perm spans'.entries := by
    rw [List.perm_ext_iff_of_nodup (List.Nodup.of_map _ spans.nodup_names)
      (List.Nodup.of_map _ spans'.nodup_names)]
    rintro ⟨name, span⟩
    rw [mem_entries_iff, mem_entries_iff, h]
  have hentries : spans.entries = spans'.entries :=
    hperm.eq_of_pairwise (fun e e' _ _ hless hless' =>
      absurd (String.lt_trans hless hless') (String.lt_irrefl _)) spans.sorted spans'.sorted
  cases spans
  cases spans'
  cases hentries
  rfl

/-- Spans under different names are put in either order. -/
theorem insert_insert_of_ne {name other : String} (h : name ≠ other) (spans : Spans)
    (span span' : Span) :
    (spans.insert name span).insert other span' = (spans.insert other span').insert name span := by
  refine ext_get? fun asked => ?_
  rw [get?_insert, get?_insert, get?_insert, get?_insert]
  by_cases hname : asked = name
  · rw [if_neg (hname ▸ h), if_pos hname, if_pos hname]
  · rw [if_neg hname, if_neg hname]

/-- A name is in use where a span is found under it. -/
theorem mem_names_iff {spans : Spans} {name : String} :
    name ∈ spans.names ↔ ∃ span, spans.get? name = some span := by
  rw [names, List.mem_map]
  constructor
  · rintro ⟨⟨_, span⟩, hmem, rfl⟩
    exact ⟨span, mem_entries_iff.mp hmem⟩
  · rintro ⟨span, hget⟩
    exact ⟨(name, span), mem_entries_iff.mpr hget, rfl⟩

/-! ## Spans kept, put in a row and changed

Each operation on a collection is described by what is found afterwards under an arbitrary
name. Further equations between operations then follow by `ext_get?`, without looking at
entries. -/

/-- The spans under the given names, without those under any other. -/
def only (kept : List String) (spans : Spans) : Spans where
  entries := spans.entries.filter (fun e => kept.contains e.1)
  sorted := spans.sorted.filter _

/-- Of the names that are kept the spans are found, and under the others nothing. -/
theorem get?_only (kept : List String) (spans : Spans) (name : String) :
    (spans.only kept).get? name = if name ∈ kept then spans.get? name else none := by
  apply Option.ext
  intro span
  rw [← mem_entries_iff, only, List.mem_filter, mem_entries_iff]
  split
  · rename_i h
    simp [h]
  · rename_i h
    simp [h]

/-- Of spans put one after the other the last one under a name is found. -/
theorem get?_ofList (entries : List (String × Span)) (name : String) :
    (ofList entries).get? name = entries.reverse.lookup name := by
  -- over any collection, since the induction goes on with one that has a span more
  have hfold : ∀ spans : Spans,
      (entries.foldl (fun spans e => spans.insert e.1 e.2) spans).get? name =
        (entries.reverse.lookup name).or (spans.get? name) := by
    induction entries with
    | nil => exact fun _ => rfl
    | cons e rest ih =>
      intro spans
      rw [List.foldl_cons, ih, List.reverse_cons, List.lookup_append, Option.or_assoc, get?_insert,
        List.lookup_cons]
      split
      · rename_i h
        rw [h, BEq.rfl]
        rfl
      · rename_i h
        rw [beq_eq_false_iff_ne.mpr h]
        rfl
  rw [ofList, hfold, get?_empty, Option.or_none]

/-- What is found among entries, looked through from the last one, is one of them. -/
theorem mem_of_lookup_reverse {entries : List (String × Span)} {name : String} {span : Span}
    (h : entries.reverse.lookup name = some span) : (name, span) ∈ entries := by
  obtain ⟨before, after, hsplit, -⟩ := List.lookup_eq_some_iff.mp h
  rw [← List.mem_reverse, hsplit]
  exact List.mem_append_right _ List.mem_cons_self

/-- Spans put one after the other come from the list that was put. -/
theorem mem_of_mem_ofList {entries : List (String × Span)} {e : String × Span}
    (h : e ∈ (ofList entries).entries) : e ∈ entries := by
  rw [mem_entries_iff, get?_ofList] at h
  exact mem_of_lookup_reverse h

/-- The entries of a collection, put one after the other, are the collection. -/
theorem ofList_entries (spans : Spans) : ofList spans.entries = spans := by
  refine ext_get? fun name => ?_
  rw [get?_ofList]
  cases h : spans.entries.reverse.lookup name with
  | none =>
    rw [List.lookup_eq_none_iff] at h
    exact (List.lookup_eq_none_iff.mpr fun e he => h e (List.mem_reverse.mpr he)).symm
  | some span => exact (mem_entries_iff.mp (mem_of_lookup_reverse h)).symm

/-- What is found under a name changes along with all spans. -/
theorem get?_mapValues (f : Span → Span) (spans : Spans) (name : String) :
    (spans.mapValues f).get? name = (spans.get? name).map f := by
  have hlookup : ∀ entries : List (String × Span),
      (entries.map fun e => (e.1, f e.2)).lookup name = (entries.lookup name).map f := by
    intro entries
    induction entries with
    | nil => rfl
    | cons e rest ih =>
      rw [List.map_cons, List.lookup_cons, List.lookup_cons]
      split
      · rfl
      · exact ih
  exact hlookup spans.entries

/-- A span put among others changes along with them. -/
theorem mapValues_insert (f : Span → Span) (spans : Spans) (name : String) (span : Span) :
    (spans.insert name span).mapValues f = (spans.mapValues f).insert name (f span) := by
  simp only [insert, mapValues, map_putSorted]

end Spans

/-- An item carries the span that was attached to it last. -/
theorem HoldsSpans.get?_attach {ι : Type} [HoldsSpans ι] (item : ι) (name : String) (span : Span) :
    (HoldsSpans.spans (HoldsSpans.attach item name span)).get? name = some span := by
  rw [HoldsSpans.spans_attach, Spans.get?_insert_self]

end TokenSpans
