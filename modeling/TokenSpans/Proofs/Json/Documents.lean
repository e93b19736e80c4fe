import TokenSpans.Proofs.Json.Assembly

/-!
# Written values as documents

A value that is written without gaps is cut into the lexemes it was written in and put together
again to the document with the same scalars (`Value.document`, `Document.ofText_compact`), as long
as its numbers fit a word.

`Value.document` is the expected answer, found by recursion on the value without looking at
any text. The machine knows nothing of values. That it comes to this answer is shown by the
mutual recursion in which values are written, so each of the three lemmas has the other two
as its induction hypotheses.

A number that fits no word is written all the same. It is still JSON, as is shown in
`TokenSpans.Proofs.Json.Grammar`, but it stands for no natural number when it is read, so
the condition on numbers cannot be left out here.
-/

namespace TokenSpans.Json

namespace Value

mutual

/-- Whether all numbers of a value fit a word. -/
def InWords : Value → Prop
  | .number n => n ≤ Word.max
  | .list items => ItemsInWords items
  | .object members => MembersInWords members
  | .null | .bool _ | .text _ => True

/-- Whether all numbers of all items fit a word. -/
def ItemsInWords : List Value → Prop
  | [] => True
  | v :: rest => InWords v ∧ ItemsInWords rest

/-- Whether all numbers of the values of all members fit a word. -/
def MembersInWords : List (String × Value) → Prop
  | [] => True
  | (_, v) :: rest => InWords v ∧ MembersInWords rest

end

mutual

/-- The document that a value is written as: nothing is wrong with it. -/
def document : Value → Document
  | .null => .null (.sound ())
  | .bool b => .bool (.sound b)
  | .number n => .number (.sound (some n))
  | .text s => .text (.sound s.toList)
  | .list items => .list (itemDocuments items) .closed
  | .object members => .object (memberDocuments members) .closed

/-- The documents of the items, in their order. -/
def itemDocuments : List Value → List Document
  | [] => []
  | v :: rest => document v :: itemDocuments rest

/-- The documents of the members, in their order. Every key is a text. -/
def memberDocuments : List (String × Value) → List Member
  | [] => []
  | (key, v) :: rest => (.sound key.toList, document v) :: memberDocuments rest

end

end Value

/-! ## Putting a written value together

Scalars are one lexeme each. For containers there is nothing to do but to name the gaps,
which are empty: the lemmas about lists and objects of the grammar apply to any layout. -/

/-- A written text stands for its characters. -/
theorem quotedScalar_writeText (s : String) : quotedScalar (writeText s) = .sound s.toList := by
  have hquoted := (isQuoted_writeText s).lexemes_append.2 []
  rw [lexemes_writeText] at hquoted
  exact (Lexeme.text.inj (List.cons.inj hquoted).1).symm

/-- A written member is its key with what its value makes. -/
theorem makesMember_compact {m : String × Value} {d : Document} (h : Makes m.2.compact d) :
    MakesMember (Value.compactMember m) (.sound m.1.toList, d) := by
  have hmember := MakesMember.of_spaced (m := MemberText.compact m) (isQuoted_writeText m.1) h
    ⟨_, _, spaced_self _, spaced_self _, rfl⟩
  rw [MemberText.compact, quotedScalar_writeText] at hmember
  exact hmember

mutual

/-- **A written value makes its document.** -/
theorem makes_compact (v : Value) (h : v.InWords) : Makes v.compact v.document := by
  match v with
  | .null => exact makes_null
  | .bool b => exact makes_bool b
  | .number n =>
    intro mayClose stack s hs
    rw [Value.InWords] at h
    rw [Value.compact, lexemes_decimal h hs]
    rfl
  | .text text =>
    have hmakes := makes_quoted (isQuoted_writeText text)
    rw [quotedScalar_writeText] at hmakes
    exact hmakes
  | .list items =>
    exact makes_list (forall₂_makes_compact items h)
      ⟨[], List.forall_mem_nil _, Value.compact_list items⟩
  | .object members =>
    exact makes_object (forall₂_makesMember_compact members h)
      ⟨[], List.forall_mem_nil _, Value.compact_object members⟩

/-- The written items of a list make their documents one by one. -/
theorem forall₂_makes_compact (items : List Value) (h : Value.ItemsInWords items) :
    List.Forall₂ Makes (items.map Value.compact) (Value.itemDocuments items) := by
  match items with
  | [] => exact .nil
  | v :: rest => exact .cons (makes_compact v h.1) (forall₂_makes_compact rest h.2)

/-- So do the written members of an object. -/
theorem forall₂_makesMember_compact (members : List (String × Value))
    (h : Value.MembersInWords members) :
    List.Forall₂ MakesMember (members.map Value.compactMember) (Value.memberDocuments members) := by
  match members with
  | [] => exact .nil
  | (key, v) :: rest =>
    exact .cons (makesMember_compact (m := (key, v)) (makes_compact v h.1))
      (forall₂_makesMember_compact rest h.2)

end

/-- **A written value is its document**, and no lexeme comes after it. -/
theorem Document.ofText_compact {v : Value} (h : v.InWords) :
    ofText v.compact = (v.document, []) :=
  (makes_compact v h).ofText

end TokenSpans.Json
