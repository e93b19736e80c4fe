import TokenSpans.Span

/-!
# Named spans

Several spans can be kept under names, one for each. The names are kept in increasing order, each
once, so that two collections with the same spans under the same names are equal.

The order is part of the type: a list of entries comes with the proof that its names
increase, so that the collection has one form, equality of collections is equality of lists,
and no lemma has to assume that a name occurs once. The price is paid in one place,
`pairwise_putSorted`; every other operation is built on `insert` or changes values only.
Names are compared as texts, by the numbers of their characters.
-/

namespace TokenSpans

/-- Puts a span under a name: in place of the one there, or where the name belongs in the order. -/
def putSorted (name : String) (span : Span) : List (String × Span) → List (String × Span)
  | [] => [(name, span)]
  | (other, held) :: rest =>
    if name < other then (name, span) :: (other, held) :: rest
    else if name = other then (name, span) :: rest
    else (other, held) :: putSorted name span rest

/-- A name put into a list is the new one or was there before. -/
theorem mem_putSorted {name : String} {span : Span} {entries : List (String × Span)}
    {e : String × Span} (h : e ∈ putSorted name span entries) : e.1 = name ∨ e ∈ entries := by
  induction entries with
  | nil =>
    simp only [putSorted, List.mem_singleton] at h
    exact Or.inl (by rw [h])
  | cons first rest ih =>
    obtain ⟨other, held⟩ := first
    simp only [putSorted] at h
    split at h
    · rcases List.mem_cons.1 h with h | h
      · exact Or.inl (by rw [h])
      · exact Or.inr h
    · split at h
      · rcases List.mem_cons.1 h with h | h
        · exact Or.inl (by rw [h])
        · exact Or.inr (List.mem_cons_of_mem _ h)
      · rcases List.mem_cons.1 h with h | h
        · exact Or.inr (by rw [h]; exact List.mem_cons_self)
        · exact (ih h).imp id (List.mem_cons_of_mem _)

/-- Putting a span keeps the names in increasing order. The cases are those of `putSorted`:
the name goes before the head, takes its place, or goes on into the tail. -/
theorem pairwise_putSorted {name : String} {span : Span} {entries : List (String × Span)}
    (h : entries.Pairwise (fun a b => a.1 < b.1)) :
    (putSorted name span entries).Pairwise (fun a b => a.1 < b.1) := by
  induction entries with
  | nil => simp [putSorted]
  | cons first rest ih =>
    obtain ⟨other, held⟩ := first
    obtain ⟨hhead, htail⟩ := List.pairwise_cons.1 h
    simp only [putSorted]
    split
    · rename_i hlt
      refine List.pairwise_cons.2 ⟨fun e he => ?_, h⟩
      rcases List.mem_cons.1 he with rfl | he
      · exact hlt
      · exact String.lt_trans hlt (hhead e he)
    · split
      · rename_i heq
        subst heq
        exact List.pairwise_cons.2 ⟨hhead, htail⟩
      · rename_i hlt hne
        -- neither smaller nor equal: the head stays, and is smaller than the new name as
        -- well
        refine List.pairwise_cons.2 ⟨fun e he => ?_, ih htail⟩
        rcases mem_putSorted he with hname | he
        · rw [hname]
          exact Std.lt_of_le_of_ne (Std.not_lt.1 hlt) (Ne.symm hne)
        · exact hhead e he

/-- Spans under names, one under each, in the order of the names. -/
structure Spans where
  entries : List (String × Span)
  sorted : entries.Pairwise (fun a b => a.1 < b.1)
  deriving DecidableEq, Repr

namespace Spans

/-- No span at all. -/
def empty : Spans :=
  ⟨[], List.Pairwise.nil⟩

instance : Inhabited Spans :=
  ⟨empty⟩

/-- The name under which a span is kept if no other is chosen. -/
def primaryName : String :=
  "position"

/-- The span under a name. -/
def get? (spans : Spans) (name : String) : Option Span :=
  spans.entries.lookup name

/-- The span under the default name. -/
def primary? (spans : Spans) : Option Span :=
  spans.get? primaryName

/-- Puts a span under a name, in place of the one that may be there. A later span always
wins. -/
def insert (spans : Spans) (name : String) (span : Span) : Spans :=
  ⟨putSorted name span spans.entries, pairwise_putSorted spans.sorted⟩

/-- The number of names. -/
def size (spans : Spans) : Nat :=
  spans.entries.length

/-- Whether no name is in use. -/
def isEmpty (spans : Spans) : Bool :=
  spans.entries.isEmpty

/-- The names in increasing order. -/
def names (spans : Spans) : List String :=
  spans.entries.map Prod.fst

/-- The spans put one after the other; of two under one name the later stays. The order of
the names in the list does not matter otherwise. -/
def ofList (entries : List (String × Span)) : Spans :=
  entries.foldl (fun spans e => spans.insert e.1 e.2) empty

/-- Every span changed in the same way, under the same names, so there is nothing to sort.
-/
def mapValues (f : Span → Span) (spans : Spans) : Spans where
  entries := spans.entries.map (fun e => (e.1, f e.2))
  sorted := by
    rw [List.pairwise_map]
    exact spans.sorted

/-- Every name with its span, in the form of a dictionary. -/
def dump (spans : Spans) : String :=
  "Positions(\x7b" ++
    String.intercalate ", " (spans.entries.map (fun e => Text.quoted e.1 ++ ": " ++ e.2.dump)) ++
    "\x7d)"

end Spans

/--
Items that carry spans: one can look at all of them and attach a further one. Attaching is an
insertion and does not touch the spans under other names.
-/
class HoldsSpans (ι : Type) where
  spans : ι → Spans
  attach : ι → String → Span → ι
  /-- All that is assumed of an item: it may keep other data, and change it, on attaching. -/
  spans_attach : ∀ item name span, spans (attach item name span) = (spans item).insert name span

instance : HoldsSpans Spans where
  spans := id
  attach := Spans.insert
  spans_attach _ _ _ := rfl

end TokenSpans
