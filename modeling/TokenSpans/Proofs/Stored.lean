import Mathlib.Data.List.Dedup
import Mathlib.Data.List.Induction
import TokenSpans.Json.Spans
import TokenSpans.Proofs.Json.Objects
import TokenSpans.Proofs.Spans
import TokenSpans.Spans.Calls

/-!
# What becomes of spans that are stored

After any calls a collection has under each name the span that was stored there last, and nothing
else (`get?_stored`). Since collections with the same spans under the same names are equal, the
order in which different names were used is forgotten, and what remains of it is the order of the
names.

What is stored last is said of the list of calls alone (`lastStored`), by filtering the
calls with a name and taking the last one, without any collection. The induction goes over
the calls from the end, where one more call is one more insertion and changes what is found
under one name only.

The order of names is that of texts, and for a text it is made explicit as the order of the
numbers of its characters, since this is what a reader of the written form can check.
-/

namespace TokenSpans

open Json

/-- The span that gives way was found under the name: nothing behind the place where the name
belongs has that name. -/
theorem givesWay_eq_lookup {entries : List (String × Span)}
    (h : entries.Pairwise (fun a b => a.1 < b.1)) (name : String) :
    givesWay name entries = entries.lookup name := by
  induction entries with
  | nil => rfl
  | cons first rest ih =>
    obtain ⟨other, held⟩ := first
    obtain ⟨hhead, htail⟩ := List.pairwise_cons.mp h
    rw [givesWay, List.lookup_cons]
    by_cases hlt : name < other
    · rw [if_pos hlt]
      have hne : ∀ e ∈ (other, held) :: rest, name ≠ e.1 := by
        rintro e he rfl
        rcases List.mem_cons.mp he with rfl | he
        · exact String.lt_irrefl _ hlt
        · exact String.lt_irrefl _ (String.lt_trans hlt (hhead e he))
      rw [← List.lookup_cons]
      exact (List.lookup_eq_none_iff.mpr fun e he => bne_iff_ne.mpr (hne e he)).symm
    · rw [if_neg hlt]
      by_cases heq : name = other
      · rw [if_pos heq, heq, BEq.rfl]
      · rw [if_neg heq, beq_eq_false_iff_ne.mpr heq]
        exact ih htail

/-! ## The order of names

Texts are compared character by character, and characters by their numbers, so the
comparison can be made on the lists of numbers. The proof is an induction on both texts that
has to look at the first character of each. -/

/-- The numbers of the characters of a text. -/
def Text.codePoints (s : String) : List Nat :=
  s.toList.map Char.toNat

/-- Texts are in the order of their code points. -/
theorem Text.lt_iff_codePoints {s t : String} :
    s < t ↔ List.Lex (· < ·) (codePoints s) (codePoints t) := by
  have hchars : ∀ a b : List Char,
      List.Lex (· < ·) a b ↔ List.Lex (· < ·) (a.map Char.toNat) (b.map Char.toNat) := by
    intro a
    induction a with
    | nil =>
      intro b
      cases b with
      | nil => exact ⟨nofun, nofun⟩
      | cons d b => exact ⟨fun _ => .nil, fun _ => .nil⟩
    | cons c a ih =>
      intro b
      cases b with
      | nil => exact ⟨nofun, nofun⟩
      | cons d b =>
        -- characters are compared by their numbers to begin with
        have hless : c < d ↔ c.toNat < d.toNat := Iff.rfl
        rw [List.map_cons, List.map_cons, List.cons_lex_cons_iff, List.cons_lex_cons_iff, hless,
          ← Char.toNat_inj, ih]
  exact hchars s.toList t.toList

namespace Spans

/-! ## What is found after any calls

From one call to the lists of all of them: each call inserts, whatever it yields, and a run
of calls is divided at any place into what was done before and what is done after. The reply
to an insertion is found by dividing the run there. -/

/-- The collection that is left by calls on one without spans. -/
def stored (calls : List Call) : Spans :=
  (empty.performAll calls).1

/-- The span of the last one of the calls that have this name. -/
def lastStored (calls : List Call) (name : String) : Option Span :=
  (calls.filter fun call => call.name = name).getLast?.map Call.span

/-- Nothing was stored last under a name that no call has used. -/
theorem lastStored_eq_none_iff {calls : List Call} {name : String} :
    lastStored calls name = none ↔ name ∉ calls.map Call.name := by
  rw [lastStored, Option.map_eq_none_iff, List.getLast?_eq_none_iff, List.filter_eq_nil_iff,
    List.mem_map, not_exists]
  exact forall_congr' fun call => by simp

/-- Putting a span under a name yields what was found there just before. -/
theorem exchange_eq (spans : Spans) (name : String) (span : Span) :
    spans.exchange name span = (spans.insert name span, spans.get? name) := by
  rw [exchange, givesWay_eq_lookup spans.sorted]
  rfl

/-- Both kinds of calls store in the same way. -/
theorem perform_fst (spans : Spans) (call : Call) :
    (spans.perform call).1 = spans.insert call.name call.span := by
  cases call with
  | insert name span => rfl
  | attach name span => rfl

/-- Calls are done one after the other. -/
theorem performAll_append (spans : Spans) (calls more : List Call) :
    spans.performAll (calls ++ more) =
      (((spans.performAll calls).1.performAll more).1,
        (spans.performAll calls).2 ++ ((spans.performAll calls).1.performAll more).2) := by
  induction calls generalizing spans with
  | nil => rfl
  | cons call rest ih =>
    rw [List.cons_append, performAll, performAll, ih]
    rfl

/-- Every call has a reply. -/
theorem length_performAll (spans : Spans) (calls : List Call) :
    (spans.performAll calls).2.length = calls.length := by
  induction calls generalizing spans with
  | nil => rfl
  | cons call rest ih => exact congrArg Nat.succ (ih _)

/-- One more call is one more insertion. -/
theorem stored_append_singleton (calls : List Call) (call : Call) :
    stored (calls ++ [call]) = (stored calls).insert call.name call.span := by
  rw [stored, performAll_append]
  exact perform_fst ..

/-- **The last span that was stored under a name is found there.** -/
theorem get?_stored (calls : List Call) (name : String) :
    (stored calls).get? name = lastStored calls name := by
  induction calls using List.reverseRecOn with
  | nil => rfl
  | append_singleton calls call ih =>
    rw [stored_append_singleton, get?_insert, lastStored, List.filter_append]
    by_cases hname : call.name = name
    · rw [if_pos hname.symm, List.filter_singleton, decide_eq_true hname]
      exact congrArg (Option.map Call.span) List.getLast?_concat.symm
    · rw [if_neg (Ne.symm hname), List.filter_singleton, decide_eq_false hname, ih]
      exact congrArg (fun found : List Call => found.getLast?.map Call.span)
        (List.append_nil _).symm

/-- The names in use are those that were stored under. -/
theorem mem_names_stored {calls : List Call} {name : String} :
    name ∈ (stored calls).names ↔ name ∈ calls.map Call.name := by
  rw [mem_names_iff, get?_stored, ← Option.isSome_iff_exists, Option.isSome_iff_ne_none, Ne,
    lastStored_eq_none_iff, not_not]

/-- There are as many names as different ones were stored under. -/
theorem size_stored (calls : List Call) :
    (stored calls).size = (calls.map Call.name).dedup.length := by
  have hperm : (stored calls).names.Perm (calls.map Call.name).dedup := by
    rw [List.perm_ext_iff_of_nodup (nodup_names _) (List.nodup_dedup _)]
    intro name
    rw [mem_names_stored, List.mem_dedup]
  rw [← hperm.length_eq, names, List.length_map, size]

/-- The names are in the order of their code points, each one once. -/
theorem pairwise_codePoints (spans : Spans) :
    spans.entries.Pairwise fun e e' =>
      List.Lex (· < ·) (Text.codePoints e.1) (Text.codePoints e'.1) :=
  spans.sorted.imp Text.lt_iff_codePoints.mp

/-- Spans are written in the order of their names. -/
theorem compact_toValue (spans : Spans) :
    spans.toValue.compact =
      objectText (spans.entries.map fun e => writeText e.1 ++ ':' :: e.2.toValue.compact) := by
  rw [toValue, Value.compact_object, List.map_map]
  rfl

/-- Calls that leave the same spans as the last ones leave the same collection. -/
theorem stored_congr {calls calls' : List Call}
    (h : ∀ name, lastStored calls name = lastStored calls' name) :
    stored calls = stored calls' := by
  refine ext_get? fun name => ?_
  rw [get?_stored, get?_stored, h]

/-- An insertion yields the span that was found under its name just before. -/
theorem reply_insert (calls more : List Call) (name : String) (span : Span) :
    (empty.performAll (calls ++ .insert name span :: more)).2[calls.length]? =
      some ((stored calls).get? name) := by
  rw [performAll_append, ← length_performAll empty calls,
    List.getElem?_append_right (Nat.le_refl _), Nat.sub_self, performAll, perform, exchange_eq]
  rfl

/-- **Named spans are a map.** After any calls that store spans, in a collection that was empty,
each name has the span that was stored there last, and a name that was never used has none; every
insertion has yielded what was found just before; there are as many spans as names, listed and
written in the order of the code points of the names; the primary span is the one under its name;
and calls in another order that store the same spans last leave the same collection and text. -/
theorem named_spans_keep_the_last (calls : List Call) :
    (∀ name, (stored calls).get? name = lastStored calls name ∧
        (HoldsSpans.spans (stored calls)).get? name = lastStored calls name ∧
        (lastStored calls name = none ↔ name ∉ calls.map Call.name)) ∧
      (∀ before name span after, calls = before ++ .insert name span :: after →
        (empty.performAll calls).2[before.length]? = some ((stored before).get? name)) ∧
      ((stored calls).size = (calls.map Call.name).dedup.length ∧
        ((stored calls).isEmpty = true ↔ (stored calls).size = 0)) ∧
      ((∀ name span, (name, span) ∈ (stored calls).entries ↔ lastStored calls name = some span) ∧
        (stored calls).entries.Pairwise (fun e e' =>
          List.Lex (· < ·) (Text.codePoints e.1) (Text.codePoints e'.1)) ∧
        (stored calls).toValue.compact = objectText ((stored calls).entries.map fun e =>
          writeText e.1 ++ ':' :: e.2.toValue.compact)) ∧
      (stored calls).primary? = (stored calls).get? "position" ∧
      ∀ calls', (∀ name, lastStored calls name = lastStored calls' name) →
        stored calls = stored calls' ∧
          (stored calls).toValue.compact = (stored calls').toValue.compact := by
  refine ⟨?_, ?_, ⟨size_stored calls, ?_⟩, ⟨?_, pairwise_codePoints _, compact_toValue _⟩, rfl, ?_⟩
  · intro name
    exact ⟨get?_stored calls name, get?_stored calls name, lastStored_eq_none_iff⟩
  · rintro before name span after rfl
    exact reply_insert before after name span
  · rw [isEmpty, size, List.isEmpty_iff, List.length_eq_zero_iff]
  · intro name span
    rw [mem_entries_iff, get?_stored]
  · intro calls' h
    rw [stored_congr h]
    exact ⟨rfl, rfl⟩

end Spans

end TokenSpans
