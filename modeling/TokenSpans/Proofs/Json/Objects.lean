import TokenSpans.Json.Value

/-!
# Objects as the texts of their members

The writer has three functions that call each other, one of which begins a container and the
others go on with it, a comma before each item or member. A text between brackets with
commas between its parts is the same thing said without recursion, and this is the form in
which the grammar has it (`TokenSpans.Proofs.Json.Grammar`). The lemmas here turn the one
form into the other: a list is written item by item (`Value.compact_list`), and an object
member by member (`Value.compact_object`).

Nothing is said about what the parts are, so the same `objectText` serves members in any
layout. An object of a known type is shown to be such a text by giving its members.
-/

namespace TokenSpans.Json

/-- Texts of members with a comma between any two of them, in braces. -/
def objectText (members : List (List Char)) : List Char :=
  '{' :: (List.intercalate [','] members ++ ['}'])

/-- Every member but the first has a comma before it. -/
theorem intercalate_comma (first : List Char) (rest : List (List Char)) :
    List.intercalate [','] (first :: rest) = first ++ rest.flatMap (',' :: ·) := by
  induction rest generalizing first with
  | nil => simp
  | cons second more ih =>
    rw [List.intercalate_cons_cons, ih, List.flatMap_cons]
    simp

namespace Value

/-- Further items are their texts, a comma before each. -/
theorem compactItems_eq (items : List Value) :
    compactItems items = (items.map compact).flatMap (',' :: ·) := by
  induction items with
  | nil => rfl
  | cons v rest ih =>
    rw [compactItems, ih, List.map_cons, List.flatMap_cons]

/-- A list is written item by item. -/
theorem compact_list (items : List Value) :
    (list items).compact = '[' :: (List.intercalate [','] (items.map compact) ++ [']']) := by
  cases items with
  | nil => rfl
  | cons v rest =>
    rw [compact, compactItems_eq, List.map_cons, intercalate_comma]
    simp

/-- The text of a member without gaps. -/
def compactMember (m : String × Value) : List Char :=
  writeText m.1 ++ ':' :: m.2.compact

/-- Further members are their texts, a comma before each. -/
theorem compactMembers_eq (members : List (String × Value)) :
    compactMembers members = (members.map compactMember).flatMap (',' :: ·) := by
  induction members with
  | nil => rfl
  | cons m rest ih =>
    rw [compactMembers, ih, List.map_cons, List.flatMap_cons, compactMember]
    simp

/-- **An object is written member by member**, in the order of the members. -/
theorem compact_object (members : List (String × Value)) :
    (object members).compact = objectText (members.map compactMember) := by
  cases members with
  | nil => rfl
  | cons m rest =>
    rw [compact, compactMembers_eq, objectText, List.map_cons, intercalate_comma, compactMember]
    simp

end Value

end TokenSpans.Json
