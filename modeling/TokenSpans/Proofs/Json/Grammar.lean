import Mathlib.Data.List.Forall2
import TokenSpans.Proofs.Json.Lexemes
import TokenSpans.Proofs.Json.Objects

/-!
# The grammar of JSON

Which texts are JSON, said without regard to how they are read: numerals, quoted texts, and values
made of them with brackets, marks and gaps. The text of an object is taken together with the texts
of its members (`IsObject`), so that its members can be told from its layout.

Every numeral and every quoted text of the grammar is cut into one lexeme, and what lexeme it is
does not depend on what comes after it (`IsNumeral.exists_lexemes`, `IsQuoted.lexemes_append`).

The grammar is given by inductive predicates on texts. It allows everything that the format
does: gaps of any length around items, keys and values, numbers of any size, escapes that
stand for no character. So a statement about every object text is one about texts by anyone,
and what this program writes is the special case that is proved in the last section
(`isValue_compact`).

`MemberText` pairs two texts and not two values. Two members may be written differently and
mean the same, and a value may be one that no reader can make sense of; the order and the
layout of members can be spoken about all the same.
-/

namespace TokenSpans.Json

/-- Text that may stand between lexemes. -/
def IsGaps (s : List Char) : Prop :=
  ∀ c ∈ s, isGap c = true

/-- The text `laid` is `t` with gaps around it. -/
def Spaced (t laid : List Char) : Prop :=
  ∃ before after, IsGaps before ∧ IsGaps after ∧ laid = before ++ (t ++ after)

/-- The text `t` is the given texts with commas between them, in brackets. -/
def Encloses (opening closing : Char) (laid : List (List Char)) (t : List Char) : Prop :=
  ∃ gap, IsGaps gap ∧ t = opening :: (gap ++ (List.intercalate [','] laid ++ [closing]))

/-- The texts of the key and of the value of a member. -/
structure MemberText where
  /-- Its text with the quotes. -/
  key : List Char
  /-- Its text without gaps around it. -/
  value : List Char

/-- The text `laid` is a member with gaps around its key and its value. -/
def MemberText.Spaced (m : MemberText) (laid : List Char) : Prop :=
  ∃ key value, Json.Spaced m.key key ∧ Json.Spaced m.value value ∧ laid = key ++ ':' :: value

/-- A value without gaps around it. -/
inductive IsValue : List Char → Prop
  | null : IsValue ['n', 'u', 'l', 'l']
  | bool (b : Bool) : IsValue (writeWord b)
  | number {t : List Char} (h : IsNumeral t) : IsValue t
  | text {t : List Char} (h : IsQuoted t) : IsValue t
  /-- `items` are the values and `laid` the same texts with their gaps -/
  | list {items laid : List (List Char)} {t : List Char} (values : ∀ v ∈ items, IsValue v)
      (spaced : List.Forall₂ Spaced items laid) (encloses : Encloses '[' ']' laid t) : IsValue t
  /-- likewise, with a colon in each of the texts -/
  | object {members : List MemberText} {laid : List (List Char)} {t : List Char}
      (keys : ∀ m ∈ members, IsQuoted m.key) (values : ∀ m ∈ members, IsValue m.value)
      (spaced : List.Forall₂ MemberText.Spaced members laid)
      (encloses : Encloses '{' '}' laid t) : IsValue t

/-- The text `s` is an object with these members in this order, in whatever layout. -/
structure IsObject (members : List MemberText) (s : List Char) : Prop where
  /-- every key is a quoted text -/
  keys : ∀ m ∈ members, IsQuoted m.key
  /-- every value is one of the grammar -/
  values : ∀ m ∈ members, IsValue m.value
  /-- the text is laid out from them, with gaps anywhere -/
  layout : ∃ laid t, List.Forall₂ MemberText.Spaced members laid ∧ Encloses '{' '}' laid t ∧
    Spaced t s

/-! ## Lexemes

Gaps are passed over, and where one stands a numeral ends. A numeral and a quoted text are
each one lexeme that can be passed over, also a numeral beyond all numbers and a quoted text
with half of a surrogate pair. What they stand for is left open in these two lemmas: it is
enough that it is the same in every text around them. -/

/-- Gaps make no lexeme. -/
theorem lexemes_gaps {gaps : List Char} (h : IsGaps gaps) (s : List Char) :
    lexemes (gaps ++ s) = lexemes s := by
  induction gaps with
  | nil => rfl
  | cons c rest ih =>
    obtain ⟨hc, hrest⟩ := List.forall_mem_cons.mp h
    rw [List.cons_append, lexemes, if_pos hc]
    exact ih hrest

/-- No gap goes on with a numeral. -/
theorem endsNumeral_gaps {gaps s : List Char} (h : IsGaps gaps) (hs : EndsNumeral s) :
    EndsNumeral (gaps ++ s) := by
  cases gaps with
  | nil => exact hs
  | cons c rest =>
    have hc : isGap c = true := h c List.mem_cons_self
    simp only [isGap, Bool.or_eq_true, beq_iff_eq] at hc
    -- the four gaps, none of which is a digit, a point or a letter
    rcases hc with ((rfl | rfl) | rfl) | rfl <;> exact endsNumeral_cons (by decide) _

/-- A numeral is one lexeme, and can be passed over. -/
theorem IsNumeral.exists_lexemes {t : List Char} (h : IsNumeral t) :
    ∃ r, ∀ s, EndsNumeral s → lexemes (t ++ s) = .number ⟨r, .ok ()⟩ :: lexemes s := by
  obtain ⟨n, hn⟩ := h.exists_readNumeral
  obtain ⟨c, rest, rfl, hc⟩ := h.exists_cons
  refine ⟨n.reading, fun s hs => ?_⟩
  have hscan : isGap c = false ∧
      scan c (rest ++ s) = (scanNumber (c :: (rest ++ s))).map .number id := by
    rcases hc with rfl | hc
    · exact ⟨rfl, rfl⟩
    · exact scan_of_isDigit hc (rest ++ s)
  have hnumeral := hn s hs
  rw [List.cons_append] at hnumeral ⊢
  refine lexemes_cons hscan.1 ?_
  rw [hscan.2, scanNumber, hnumeral]
  rfl

/-- What a quoted text stands for. -/
def quotedScalar (t : List Char) : Scalar (List Char) :=
  (scanText t.tail).1

/-- **A quoted text is one lexeme**, and can be passed over even if it is no text. -/
theorem IsQuoted.lexemes_append {t : List Char} (h : IsQuoted t) :
    (quotedScalar t).skipping = .ok () ∧
      ∀ s, lexemes (t ++ s) = .text (quotedScalar t) :: lexemes s := by
  obtain ⟨pieces, hpieces, rfl⟩ := h
  obtain ⟨r, hr⟩ := exists_readText_pieces hpieces
  have hscan : ∀ s, scanText (pieces.flatten ++ '"' :: s) = (⟨r, .ok ()⟩, some s) := by
    intro s
    rw [scanText, skipText_pieces hpieces, hr s]
    cases r <;> rfl
  have hscalar : quotedScalar ('"' :: (pieces.flatten ++ ['"'])) = ⟨r, .ok ()⟩ := by
    rw [quotedScalar, List.tail_cons, hscan []]
  refine ⟨by rw [hscalar], fun s => ?_⟩
  rw [hscalar, List.cons_append, List.append_assoc, List.singleton_append]
  refine lexemes_cons rfl ?_
  exact congrArg (Prod.map Lexeme.text id) (hscan s)

/-! ## What is written is JSON

The written layout is the one without gaps, so each `Spaced` is by the empty text on either
side. The proof has the shape of the writer: three lemmas that call each other. -/

/-- A text stands in itself, with no gaps around it. -/
theorem spaced_self (t : List Char) : Spaced t t :=
  ⟨[], [], List.forall_mem_nil _, List.forall_mem_nil _, (List.append_nil t).symm⟩

/-- The texts of a member that is written without gaps. -/
def MemberText.compact (m : String × Value) : MemberText :=
  ⟨writeText m.1, m.2.compact⟩

/-- A member that is written without gaps is laid out from its texts. -/
theorem spaced_compact (members : List (String × Value)) :
    List.Forall₂ MemberText.Spaced (members.map MemberText.compact)
      (members.map Value.compactMember) := by
  rw [List.forall₂_map_left_iff, List.forall₂_map_right_iff, List.forall₂_same]
  exact fun m _ => ⟨writeText m.1, m.2.compact, spaced_self _, spaced_self _, rfl⟩

/-- The keys of written members are quoted texts. -/
theorem isQuoted_compact (members : List (String × Value)) :
    ∀ m ∈ members.map MemberText.compact, IsQuoted m.key := by
  intro m hm
  obtain ⟨m, -, rfl⟩ := List.mem_map.mp hm
  exact isQuoted_writeText m.1

mutual

/-- **Every value is written as JSON**, also numbers that fit no word. -/
theorem isValue_compact (v : Value) : IsValue v.compact := by
  match v with
  | .null => exact .null
  | .bool b => exact .bool b
  | .number n => exact .number (isNumeral_decimal n)
  | .text s => exact .text (isQuoted_writeText s)
  | .list items =>
    have hspaced : List.Forall₂ Spaced (items.map Value.compact) (items.map Value.compact) :=
      List.forall₂_same.mpr fun t _ => spaced_self t
    exact .list (isValue_compactItems items) hspaced
      ⟨[], List.forall_mem_nil _, Value.compact_list items⟩
  | .object members =>
    exact .object (isQuoted_compact members) (isValue_compactMembers members)
      (spaced_compact members) ⟨[], List.forall_mem_nil _, Value.compact_object members⟩

/-- The items of a written list are values. -/
theorem isValue_compactItems (items : List Value) :
    ∀ t ∈ items.map Value.compact, IsValue t := by
  match items with
  | [] => exact List.forall_mem_nil _
  | v :: rest =>
    exact List.forall_mem_cons.mpr ⟨isValue_compact v, isValue_compactItems rest⟩

/-- So are the values of the members of a written object. -/
theorem isValue_compactMembers (members : List (String × Value)) :
    ∀ m ∈ members.map MemberText.compact, IsValue m.value := by
  match members with
  | [] => exact List.forall_mem_nil _
  | (key, v) :: rest =>
    exact List.forall_mem_cons.mpr ⟨isValue_compact v, isValue_compactMembers rest⟩

end

/-- An object is written as the object text of its members. -/
theorem isObject_compact (members : List (String × Value)) :
    IsObject (members.map MemberText.compact) (Value.object members).compact where
  keys := isQuoted_compact members
  values := isValue_compactMembers members
  layout := ⟨members.map Value.compactMember, (Value.object members).compact,
    spaced_compact members, ⟨[], List.forall_mem_nil _, Value.compact_object members⟩,
    spaced_self _⟩

end TokenSpans.Json
