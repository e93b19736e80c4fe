import TokenSpans.Json.Document
import TokenSpans.Proofs.Json.Numerals

/-!
# Numbers that are read fit a word

A numeral stands for a natural number only where that fits a word. This holds of every numeral in
the document of a text (`Document.inWords_ofText`), since the machine makes its document of the
lexemes it takes and of nothing else, also where it has to close what was left open.

The bound enters at one place, where a numeral is cut off and its reading is computed
(`inWords_scanNumber`). From there it is carried along: the lexemes of a text have it, a
move of the machine has it if the lexeme and the state have it, hence so has the document in
the end. The move is the step lemma here, with one case for each row of its table.

A value that is made of a document therefore has numbers that fit a word, and can be written
without loss. That is the half of losslessness that looks at what was read.
-/

namespace TokenSpans.Json

/-! ## Documents with numbers that fit a word

The predicate is defined for everything that the machine has in hand: a document, the
containers on the stack, what is expected next, and a move. It is asked of the reading of a
numeral only, since a numeral that stands for no natural number has nothing to fit. -/

/-- Whatever natural number a numeral stands for fits a word. -/
def Scalar.InWords (s : Scalar (Option Nat)) : Prop :=
  ∀ n, s.reading = .ok (some n) → n ≤ Word.max

/-- Whether the lexeme, if it is a numeral, stands for no number beyond a word. -/
def Lexeme.InWords : Lexeme → Prop
  | .number s => s.InWords
  | _ => True

/-- A document all of whose numerals stand for no number beyond a word. -/
inductive Document.InWords : Document → Prop
  | null (s : Scalar Unit) : InWords (.null s)
  | bool (s : Scalar Bool) : InWords (.bool s)
  /-- the one scalar with a condition -/
  | number {s : Scalar (Option Nat)} (fits : s.InWords) : InWords (.number s)
  | text (s : Scalar (List Char)) : InWords (.text s)
  | list {items : List Document} (fits : ∀ d ∈ items, InWords d) (ending : Ending) :
      InWords (.list items ending)
  | object {members : List Member} (fits : ∀ m ∈ members, InWords m.2) (ending : Ending) :
      InWords (.object members ending)
  | stray : InWords .stray
  | missing : InWords .missing

/-- What a container holds so far has no number beyond a word. -/
def Frame.InWords : Frame → Prop
  | .list done => ∀ d ∈ done, d.InWords
  | .object done _ => ∀ m ∈ done, m.2.InWords

/-- Nor has what was put together before something else is expected. -/
def Expecting.InWords : Expecting → Prop
  | .value _ => True
  | .key _ done | .colon done _ => ∀ m ∈ done, m.2.InWords
  | .after d => d.InWords

/-- Nor has what a move leaves. -/
def Move.InWords : Move → Prop
  | .go next stack => next.InWords ∧ ∀ f ∈ stack, f.InWords
  | .stop d => d.InWords

namespace Document.InWords

variable {d : Document}

/-- A list whose last item is complete. -/
theorem list_reverse {done : List Document} (h : d.InWords) (hdone : ∀ d ∈ done, d.InWords)
    (ending : Ending) : (Document.list (d :: done).reverse ending).InWords := by
  refine .list (fun d' hd' => ?_) ending
  rcases List.mem_cons.mp (List.mem_reverse.mp hd') with rfl | hd'
  · exact h
  · exact hdone d' hd'

/-- An object whose last member is complete. -/
theorem object_reverse {done : List Member} (h : d.InWords) (hdone : ∀ m ∈ done, m.2.InWords)
    (key : Scalar (List Char)) (ending : Ending) :
    (Document.object ((key, d) :: done).reverse ending).InWords := by
  refine .object (fun m hm => ?_) ending
  rcases List.mem_cons.mp (List.mem_reverse.mp hm) with rfl | hm
  · exact h
  · exact hdone m hm

/-- An object that breaks off where a key has to be. -/
theorem object_keyless {done : List Member} (hdone : ∀ m ∈ done, m.2.InWords) (ending : Ending) :
    (Document.object done.reverse ending).InWords :=
  .object (fun m hm => hdone m (List.mem_reverse.mp hm)) ending

end Document.InWords

section

variable {stack : List Frame} {expecting : Expecting} {l : Lexeme}

/-- Closing all containers adds no number. -/
theorem inWords_enclose {d : Document} (hstack : ∀ f ∈ stack, f.InWords) (h : d.InWords) :
    (enclose stack d).InWords := by
  induction stack generalizing d with
  | nil => exact h
  | cons f outer ih =>
    obtain ⟨hf, houter⟩ := List.forall_mem_cons.mp hstack
    cases f with
    | list done => exact ih houter (h.list_reverse hf .closed)
    | object done key => exact ih houter (h.object_reverse hf key .closed)

/-- Closes the container around a complete value with the given ending, and all others. -/
def encloseComplete (ending : Ending) (d : Document) : List Frame → Document
  | [] => d
  | .list done :: outer => enclose outer (.list (d :: done).reverse ending)
  | .object done key :: outer => enclose outer (.object ((key, d) :: done).reverse ending)

/-- Nor does closing them with another ending. -/
theorem inWords_encloseComplete {d : Document} (hstack : ∀ f ∈ stack, f.InWords) (h : d.InWords)
    (ending : Ending) : (encloseComplete ending d stack).InWords := by
  cases stack with
  | nil => exact h
  | cons f outer =>
    obtain ⟨hf, houter⟩ := List.forall_mem_cons.mp hstack
    cases f with
    | list done => exact inWords_enclose houter (h.list_reverse hf ending)
    | object done key => exact inWords_enclose houter (h.object_reverse hf key ending)

/-- So the end of the text adds none. -/
theorem inWords_encloseAtEnd (hstack : ∀ f ∈ stack, f.InWords) (h : expecting.InWords) :
    (encloseAtEnd stack expecting).InWords := by
  cases expecting with
  | value mayClose => exact inWords_enclose hstack .missing
  | key mayClose done => exact inWords_enclose hstack (.object_keyless h _)
  | colon done key => exact inWords_enclose hstack (.object_reverse .missing h key .closed)
  | after d => exact inWords_encloseComplete hstack h .cut

/-- And neither does a lexeme that is out of place. -/
theorem inWords_encloseAtStray (hstack : ∀ f ∈ stack, f.InWords) (h : expecting.InWords)
    (l : Lexeme) : (encloseAtStray stack l expecting).InWords := by
  cases expecting with
  | value mayClose => exact inWords_enclose hstack .stray
  | key mayClose done => exact inWords_enclose hstack (.object_keyless h _)
  | colon done key => exact inWords_enclose hstack (.object_reverse .stray h key .closed)
  | after d => exact inWords_encloseComplete hstack h .stray

/-- A scalar brings its own number. -/
theorem Move.inWords_scalar {α : Type} {make : Scalar α → Document} {s : Scalar α}
    (hstack : ∀ f ∈ stack, f.InWords) (h : (make s).InWords) :
    (Move.scalar stack make s).InWords := by
  rw [Move.scalar]
  split
  · exact ⟨h, hstack⟩
  · exact inWords_enclose hstack h

/-- One lexeme puts no other number into the machine than its own. -/
theorem Move.inWords_take (hstack : ∀ f ∈ stack, f.InWords) (h : expecting.InWords)
    (hl : l.InWords) : (Move.take expecting stack l).InWords := by
  -- one case for each row of the table, in its order
  fun_cases Move.take expecting stack l with
  | case1 => exact inWords_scalar hstack (.null _)
  | case2 => exact inWords_scalar hstack (.bool _)
  | case3 => exact inWords_scalar hstack (.number hl)
  | case4 => exact inWords_scalar hstack (.text _)
  | case5 => exact ⟨trivial, List.forall_mem_cons.mpr ⟨List.forall_mem_nil _, hstack⟩⟩
  | case6 => exact ⟨List.forall_mem_nil _, hstack⟩
  | case7 =>
    exact ⟨.list (List.forall_mem_nil _) _, (List.forall_mem_cons.mp hstack).2⟩
  | case8 => exact ⟨.object (List.forall_mem_nil _) _, hstack⟩
  | case9 => exact ⟨h, hstack⟩
  | case10 => exact inWords_enclose hstack (.object_reverse .missing h _ .closed)
  | case11 => exact ⟨trivial, List.forall_mem_cons.mpr ⟨h, hstack⟩⟩
  | case12 =>
    obtain ⟨hdone, houter⟩ := List.forall_mem_cons.mp hstack
    exact ⟨trivial, List.forall_mem_cons.mpr ⟨List.forall_mem_cons.mpr ⟨h, hdone⟩, houter⟩⟩
  | case13 =>
    obtain ⟨hdone, houter⟩ := List.forall_mem_cons.mp hstack
    exact ⟨.list_reverse h hdone .closed, houter⟩
  | case14 =>
    obtain ⟨hdone, houter⟩ := List.forall_mem_cons.mp hstack
    exact ⟨List.forall_mem_cons.mpr ⟨h, hdone⟩, houter⟩
  | case15 =>
    obtain ⟨hdone, houter⟩ := List.forall_mem_cons.mp hstack
    exact ⟨.object_reverse h hdone _ .closed, houter⟩
  -- everything that is not in the table
  | case16 => exact inWords_encloseAtStray hstack h l

/-- The machine puts together a document of the lexemes that it takes. -/
theorem inWords_assemble {lexemes : List Lexeme} (hstack : ∀ f ∈ stack, f.InWords)
    (h : expecting.InWords) (hlexemes : ∀ l ∈ lexemes, l.InWords) :
    (assemble expecting stack lexemes).1.InWords := by
  fun_induction assemble expecting stack lexemes with
  | case1 => exact h
  | case2 => exact inWords_encloseAtEnd hstack h
  | case3 expecting stack l rest _ next stack' hgo ih =>
    obtain ⟨hl, hrest⟩ := List.forall_mem_cons.mp hlexemes
    have hmove := Move.inWords_take hstack h hl
    rw [hgo] at hmove
    exact ih hmove.2 hmove.1 hrest
  | case4 expecting stack l rest _ d hstop =>
    have hmove := Move.inWords_take hstack h (List.forall_mem_cons.mp hlexemes).1
    rw [hstop] at hmove
    exact hmove

end

/-! ## Documents of texts

What remains is to go from the lexemes to the text. A lexeme is a numeral only where `scan`
took a digit or a sign, and then it holds the reading of that numeral. -/

/-- No mark is a numeral. -/
theorem Lexeme.inWords_mark {c : Char} {l : Lexeme} (h : mark? c = some l) : l.InWords := by
  cases l with
  | number s => grind [mark?]
  | _ => exact trivial

/-- A numeral that was cut off stands for a number that fits a word, or is defective. -/
theorem inWords_scanNumber (s : List Char) : (scanNumber s).1.InWords := by
  intro n h
  rw [scanNumber] at h
  split at h
  · exact Numeral.le_max_of_reading h
  · cases h

/-- No lexeme that is cut off stands for a number beyond a word. -/
theorem Lexeme.inWords_scan (c : Char) (s : List Char) : (scan c s).1.InWords := by
  rw [scan]
  split
  · rename_i l hmark
    exact inWords_mark hmark
  split
  · exact trivial
  split
  · exact trivial
  split
  · exact trivial
  split
  · exact trivial
  split
  · exact inWords_scanNumber (c :: s)
  · exact trivial

/-- Nor does any lexeme of a text. -/
theorem inWords_lexemes (s : List Char) : ∀ l ∈ lexemes s, l.InWords := by
  fun_induction lexemes s with
  | case1 => exact List.forall_mem_nil _
  | case2 c rest hgap ih => exact ih
  | case3 c rest hgap l hscan =>
    have hl := Lexeme.inWords_scan c rest
    rw [hscan] at hl
    exact List.forall_mem_singleton.mpr hl
  | case4 c rest hgap l after hscan ih =>
    have hl := Lexeme.inWords_scan c rest
    rw [hscan] at hl
    exact List.forall_mem_cons.mpr ⟨hl, ih⟩

/-- **The numbers in the document of a text fit a word**, whatever the text is. -/
theorem Document.inWords_ofText (s : List Char) : (ofText s).1.InWords :=
  inWords_assemble (List.forall_mem_nil _) trivial (inWords_lexemes s)

end TokenSpans.Json
