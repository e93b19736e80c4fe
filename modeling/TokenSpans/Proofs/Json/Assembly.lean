import TokenSpans.Json.Reader
import TokenSpans.Proofs.Json.Grammar

/-!
# Texts of the grammar as documents

Behind the text of a value the machine has a document, in the containers that it was in (`Makes`),
and the document can be passed over (`IsValue.makes`). So the document of an object text is that of
the members it was laid out from, one by one and in their order (`IsObject.ofText`).

The machine does not follow the grammar by itself: it has one loop, and where it is in a
document is in its stack. What makes it follow the grammar is that every value leaves the
stack as it found it. `Makes` says so for one text, in every stack and in front of every
other text, and that is strong enough to be its own induction hypothesis. Inside a container
the items are taken one by one, with the container on top of the stack; behind its last
bracket the stack is the one from before.

What a value stands for is not known here, only that it has some document. So the statements
are about `Document.ofText t` itself, the document that the machine makes of the text alone.
-/

namespace TokenSpans.Json

/-- Behind the text `t` of a value the machine has the document `d`, whatever the containers around
it and the text after it. -/
def Makes (t : List Char) (d : Document) : Prop :=
  ∀ mayClose stack s, EndsNumeral s →
    assemble (.value mayClose) stack (lexemes (t ++ s)) = assemble (.after d) stack (lexemes s)

/-- Behind the text `t` of a member the machine has its value, with its key in the container. -/
def MakesMember (t : List Char) (m : Member) : Prop :=
  ∀ mayClose done stack s, EndsNumeral s →
    assemble (.key mayClose done) stack (lexemes (t ++ s)) =
      assemble (.after m.2) (.object done m.1 :: stack) (lexemes s)

/-- What is written in the text of a member. -/
def MemberText.member (m : MemberText) : Member :=
  (quotedScalar m.key, (Document.ofText m.value).1)

namespace Makes

variable {t laid : List Char} {d : Document}

/-- Alone, the text is that document, and no lexeme comes after it. -/
theorem ofText (h : Makes t d) : Document.ofText t = (d, []) := by
  have hend := h false [] [] endsNumeral_nil
  rw [List.append_nil] at hend
  rw [Document.ofText, hend, lexemes, assemble]

/-- Gaps around a text make no difference. -/
theorem spaced (h : Makes t d) (hlaid : Spaced t laid) : Makes laid d := by
  obtain ⟨before, after, hbefore, hafter, rfl⟩ := hlaid
  intro mayClose stack s hs
  rw [List.append_assoc, List.append_assoc, lexemes_gaps hbefore,
    h mayClose stack _ (endsNumeral_gaps hafter hs), lexemes_gaps hafter]

end Makes

/-- A text with the key and the value of a member and gaps around them. -/
theorem MakesMember.of_spaced {m : MemberText} {laid : List Char} {d : Document}
    (hkey : IsQuoted m.key) (hvalue : Makes m.value d) (hlaid : m.Spaced laid) :
    MakesMember laid (quotedScalar m.key, d) := by
  obtain ⟨key, value, ⟨before, after, hbefore, hafter, rfl⟩, hspaced, rfl⟩ := hlaid
  obtain ⟨hskip, hlexemes⟩ := hkey.lexemes_append
  intro mayClose done stack s hs
  have hend := hvalue.spaced hspaced false (.object done (quotedScalar m.key) :: stack) s hs
  rw [List.append_assoc, List.append_assoc, List.append_assoc, lexemes_gaps hbefore, hlexemes,
    lexemes_gaps hafter, List.cons_append, lexemes_mark rfl rfl, ← hend]
  -- the first key of an object and one after a comma are taken alike
  have htake : ∀ stack, Move.take (.key mayClose done) stack (.text (quotedScalar m.key)) =
      .go (.colon done (quotedScalar m.key)) stack := by
    intro stack
    cases mayClose <;> cases done <;> simp only [Move.take, hskip]
  rw [assemble, htake]
  · rfl
  · rintro d ⟨⟩

/-! ## Containers

Items are taken from the front of the list of texts, and the machine holds those that are
done in reverse. So the induction is on the texts, for any item that comes before them and
any that are done, and what is shown is about the reversed list with the rest behind it.
Members go the same way, with the key of the value in hand kept in the container. -/

section

variable {laid : List (List Char)}

/-- What follows an item or a member begins with a comma or with the bracket. -/
theorem endsNumeral_flatMap (laid : List (List Char)) (closing : Char)
    (h : Text.isDigit closing = false ∧ closing ≠ '.' ∧ closing ≠ 'e' ∧ closing ≠ 'E')
    (s : List Char) : EndsNumeral (laid.flatMap (',' :: ·) ++ closing :: s) := by
  cases laid with
  | nil => exact endsNumeral_cons h s
  | cons t rest => exact endsNumeral_cons (by decide) _

/-- Further items, a comma before each, and the bracket. -/
theorem assemble_items {items : List Document} (h : List.Forall₂ Makes laid items) (d : Document)
    (done : List Document) (stack : List Frame) (s : List Char) :
    assemble (.after d) (.list done :: stack) (lexemes (laid.flatMap (',' :: ·) ++ ']' :: s)) =
      assemble (.after (.list ((d :: done).reverse ++ items) .closed)) stack (lexemes s) := by
  induction h generalizing d done with
  | nil =>
    rw [List.flatMap_nil, List.nil_append, List.append_nil, lexemes_mark rfl rfl]
    rfl
  -- the item is followed by a comma or the bracket, both of which end a numeral
  | @cons t next rest items ht _ ih =>
    have hend := endsNumeral_flatMap rest ']' (by decide) s
    have hnext := ht false (.list (d :: done) :: stack) _ hend
    have hreverse : (d :: done).reverse ++ next :: items =
        (next :: d :: done).reverse ++ items := by simp
    rw [List.flatMap_cons, List.append_assoc, List.cons_append, lexemes_mark rfl rfl, hreverse]
    exact hnext.trans (ih next (d :: done))

/-- Further members, a comma before each, and the brace. -/
theorem assemble_members {members : List Member} (h : List.Forall₂ MakesMember laid members)
    (key : Scalar (List Char)) (d : Document) (done : List Member) (stack : List Frame)
    (s : List Char) :
    assemble (.after d) (.object done key :: stack)
        (lexemes (laid.flatMap (',' :: ·) ++ '}' :: s)) =
      assemble (.after (.object (((key, d) :: done).reverse ++ members) .closed)) stack
        (lexemes s) := by
  induction h generalizing key d done with
  | nil =>
    rw [List.flatMap_nil, List.nil_append, List.append_nil, lexemes_mark rfl rfl]
    rfl
  | @cons t next rest members ht _ ih =>
    have hnext := ht false ((key, d) :: done) stack _ (endsNumeral_flatMap rest '}' (by decide) s)
    have hreverse : ((key, d) :: done).reverse ++ next :: members =
        (next :: (key, d) :: done).reverse ++ members := by simp
    rw [List.flatMap_cons, List.append_assoc, List.cons_append, lexemes_mark rfl rfl, hreverse]
    exact hnext.trans (ih next.1 next.2 ((key, d) :: done))

variable {t : List Char}

/-- Texts in brackets with commas between them make the list of their documents. -/
theorem makes_list {items : List Document} (h : List.Forall₂ Makes laid items)
    (ht : Encloses '[' ']' laid t) : Makes t (.list items .closed) := by
  obtain ⟨gap, hgap, rfl⟩ := ht
  intro mayClose stack s _
  rw [List.cons_append, lexemes_mark rfl rfl, List.append_assoc, lexemes_gaps hgap]
  cases h with
  | nil =>
    rw [List.intercalate_nil, List.nil_append, List.singleton_append, lexemes_mark rfl rfl]
    rfl
  | @cons first d rest items hfirst hrest =>
    have hd := hfirst true (.list [] :: stack) _ (endsNumeral_flatMap rest ']' (by decide) s)
    rw [intercalate_comma, List.append_assoc, List.append_assoc, List.singleton_append]
    exact hd.trans (assemble_items hrest d [] stack s)

/-- Members in braces with commas between them make the object of them. -/
theorem makes_object {members : List Member} (h : List.Forall₂ MakesMember laid members)
    (ht : Encloses '{' '}' laid t) : Makes t (.object members .closed) := by
  obtain ⟨gap, hgap, rfl⟩ := ht
  intro mayClose stack s _
  rw [List.cons_append, lexemes_mark rfl rfl, List.append_assoc, lexemes_gaps hgap]
  cases h with
  | nil =>
    rw [List.intercalate_nil, List.nil_append, List.singleton_append, lexemes_mark rfl rfl]
    rfl
  | @cons first m rest members hfirst hrest =>
    have hm := hfirst true [] stack _ (endsNumeral_flatMap rest '}' (by decide) s)
    rw [intercalate_comma, List.append_assoc, List.append_assoc, List.singleton_append]
    exact hm.trans (assemble_members hrest m.1 m.2 [] stack s)

end

/-! ## Values

A document is needed in two ways: to be walked by a reader, and to be passed over where a
reader does not know the member. `MakesValue` has both, and each constructor of the grammar
is one case of the induction (`IsValue.makes`). Being passed over can fail for a document
that comes from a text which is not JSON, so it is a fact about the grammar and not about
documents. -/

/-- Items that can be passed over one by one can be passed over. -/
theorem skipItems_of_forall {items : List Document} (h : ∀ d ∈ items, d.skip = .ok ()) :
    skipItems items = .ok () := by
  induction items with
  | nil => rfl
  | cons d rest ih =>
    obtain ⟨hd, hrest⟩ := List.forall_mem_cons.mp h
    rw [skipItems, hd]
    exact ih hrest

/-- So can members whose keys and values can. -/
theorem skipMembers_of_forall {members : List Member}
    (h : ∀ m ∈ members, m.1.skipping = .ok () ∧ m.2.skip = .ok ()) :
    skipMembers members = .ok () := by
  induction members with
  | nil => rfl
  | cons m rest ih =>
    obtain ⟨⟨hkey, hvalue⟩, hrest⟩ := List.forall_mem_cons.mp h
    rw [skipMembers, hkey]
    dsimp only [bind, Except.bind]
    rw [hvalue]
    exact ih hrest

/-- Laid out texts of which each makes the document of what it was laid out from. -/
theorem forall₂_laid {α β : Type} {spaced : α → List Char → Prop} {p : α → Prop}
    {makes : List Char → β → Prop} {f : α → β} {items : List α} {laid : List (List Char)}
    (hspaced : List.Forall₂ spaced items laid) (hitems : ∀ a ∈ items, p a)
    (hmakes : ∀ a t, p a → spaced a t → makes t (f a)) :
    List.Forall₂ makes laid (items.map f) := by
  refine List.forall₂_map_right_iff.mpr (List.Forall₂.flip ?_)
  exact ((List.forall₂_and_left _ _).mpr ⟨hitems, hspaced⟩).imp fun a t h => hmakes a t h.1 h.2

/-- Behind the text of a value the machine has its document, which can be passed over. -/
def MakesValue (t : List Char) : Prop :=
  Makes t (Document.ofText t).1 ∧ (Document.ofText t).1.skip = .ok ()

/-- A text that makes some document makes its own. -/
theorem MakesValue.of_makes {t : List Char} {d : Document} (h : Makes t d)
    (hskip : d.skip = .ok ()) : MakesValue t := by
  rw [MakesValue, h.ofText]
  exact ⟨h, hskip⟩

/-- The word for null makes null. -/
theorem makes_null : Makes ['n', 'u', 'l', 'l'] (.null (.sound ())) := by
  intro mayClose stack s _
  rw [lexemes_null]
  rfl

/-- The words for the truth values make these. -/
theorem makes_bool (b : Bool) : Makes (writeWord b) (.bool (.sound b)) := by
  intro mayClose stack s _
  rw [lexemes_writeWord]
  rfl

/-- A quoted text makes what it stands for. -/
theorem makes_quoted {t : List Char} (h : IsQuoted t) : Makes t (.text (quotedScalar t)) := by
  obtain ⟨hskip, hlexemes⟩ := h.lexemes_append
  intro mayClose stack s _
  have htake : Move.take (.value mayClose) stack (.text (quotedScalar t)) =
      .go (.after (.text (quotedScalar t))) stack := by
    cases mayClose <;> simp only [Move.take, Move.scalar, hskip]
  rw [hlexemes, assemble, htake]
  rintro d ⟨⟩

/-- The members of an object whose keys are quoted and whose values make documents. -/
theorem forall₂_makesMember {members : List MemberText} {laid : List (List Char)}
    (hkeys : ∀ m ∈ members, IsQuoted m.key) (hvalues : ∀ m ∈ members, MakesValue m.value)
    (hspaced : List.Forall₂ MemberText.Spaced members laid) :
    List.Forall₂ MakesMember laid (members.map MemberText.member) :=
  forall₂_laid (p := fun m => IsQuoted m.key ∧ MakesValue m.value) hspaced
    (fun m hm => ⟨hkeys m hm, hvalues m hm⟩) fun _ _ hm hlaid => .of_spaced hm.1 hm.2.1 hlaid

/-- An object of the grammar can be passed over, since its keys and values can. -/
theorem skip_members {members : List MemberText} (hkeys : ∀ m ∈ members, IsQuoted m.key)
    (hvalues : ∀ m ∈ members, MakesValue m.value) :
    (Document.object (members.map MemberText.member) .closed).skip = .ok () := by
  have hskip : ∀ m ∈ members.map MemberText.member,
      m.1.skipping = .ok () ∧ m.2.skip = .ok () := by
    intro m hm
    obtain ⟨m, hmem, rfl⟩ := List.mem_map.mp hm
    exact ⟨(hkeys m hmem).lexemes_append.1, (hvalues m hmem).2⟩
  rw [Document.skip, skipMembers_of_forall hskip]
  rfl

/-- **Every value of the grammar makes a document** that can be passed over. -/
theorem IsValue.makes {t : List Char} (h : IsValue t) : MakesValue t := by
  induction h with
  | null => exact .of_makes makes_null rfl
  | bool b => exact .of_makes (makes_bool b) rfl
  | number h =>
    obtain ⟨r, hr⟩ := h.exists_lexemes
    refine .of_makes (d := .number ⟨r, .ok ()⟩) (fun mayClose stack s hs => ?_) rfl
    rw [hr s hs]
    rfl
  | text h => exact .of_makes (makes_quoted h) h.lexemes_append.1
  | @list items laid t _ spaced encloses ih =>
    have hmakes : List.Forall₂ Makes laid (items.map fun v => (Document.ofText v).1) :=
      forall₂_laid spaced ih fun _ _ hv hlaid => hv.1.spaced hlaid
    refine .of_makes (makes_list hmakes encloses) ?_
    have hskip : ∀ d ∈ items.map fun v => (Document.ofText v).1, d.skip = .ok () := by
      intro d hd
      obtain ⟨v, hv, rfl⟩ := List.mem_map.mp hd
      exact (ih v hv).2
    rw [Document.skip, skipItems_of_forall hskip]
    rfl
  | object keys _ spaced encloses ih =>
    exact .of_makes (makes_object (forall₂_makesMember keys ih spaced) encloses)
      (skip_members keys ih)

/-- A member whose value is written as null is one with null. -/
theorem MemberText.member_of_null {m : MemberText} (h : m.value = ['n', 'u', 'l', 'l']) :
    m.member.2 = .null (.sound ()) := by
  rw [member, h, makes_null.ofText]

/-- **An object text is the document of its members**, whatever its layout. -/
theorem IsObject.ofText {members : List MemberText} {s : List Char} (h : IsObject members s) :
    Document.ofText s = (.object (members.map MemberText.member) .closed, []) := by
  obtain ⟨laid, t, hspaced, hencloses, hs⟩ := h.layout
  have hmembers := forall₂_makesMember h.keys (fun m hm => (h.values m hm).makes) hspaced
  exact ((makes_object hmembers hencloses).spaced hs).ofText

end TokenSpans.Json
