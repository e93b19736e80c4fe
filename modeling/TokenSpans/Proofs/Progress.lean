import TokenSpans.Proofs.Nesting

/-!
# Progress

The tokens that a lexer yields are pieces of the text ahead, one behind the other, and the lexer
passes over just these pieces (`Lexer.Passes`, `Host.serveAll_passes`). While there is text ahead
no piece is empty, since a rule never takes nothing. At the end of the text the productions differ:
the next token is not looked for there, but the rule of a kind is tried there as well, and one that
takes something of no text at all yields an empty token and leaves the lexer where it is. So a
token of a kind is progress just where there is text ahead, and a lexer whose rules need text
yields no more tokens than there are characters ahead (`Host.productions_progress`).

`Passes` is a weaker relation than `Cursor.Moves`: it forgets line and column and adds that
the rules are the same. It is what a sequence of requests of any kind preserves, tokens of a
kind at the end of the text included, and it counts: the texts of all tokens together are no
longer than the text ahead. The number of tokens is bounded only if none of them is empty,
hence the separate count of those with text.
-/

namespace TokenSpans

namespace Lexer

/-- One lexer passes over a text and is the other one then. -/
structure Passes (l : Lexer) (text : List Char) (next : Lexer) : Prop where
  /-- the text stood ahead -/
  ahead : l.cursor.ahead = text ++ next.cursor.ahead
  /-- its characters are counted -/
  offset : next.cursor.location.offset = l.cursor.location.offset + text.length
  /-- the rules stay -/
  rules : next.rules = l.rules

namespace Passes

variable {l next last : Lexer} {text more : List Char}

/-- A lexer that stays has passed over nothing. -/
theorem refl (l : Lexer) : l.Passes [] l :=
  ⟨rfl, rfl, rfl⟩

/-- What is passed over one after the other is passed over as one text. -/
theorem trans (h : l.Passes text next) (hmore : next.Passes more last) :
    l.Passes (text ++ more) last where
  ahead := by rw [h.ahead, hmore.ahead, List.append_assoc]
  offset := by rw [hmore.offset, h.offset, List.length_append, Nat.add_assoc]
  rules := hmore.rules.trans h.rules

/-- A lexer passes over no more text than is ahead of it. -/
theorem length_le (h : l.Passes text next) : text.length ≤ l.cursor.ahead.length := by
  rw [h.ahead, List.length_append]
  exact Nat.le_add_right ..

end Passes

/-- No rule takes anything where there is no text. -/
def NeedsText (l : Lexer) : Prop :=
  ∀ r ∈ l.rules, r.matchLength [] = none

/-- Passing over a text does not change the rules, and so not whether they need text. -/
theorem NeedsText.of_passes {l next : Lexer} {text : List Char} (h : l.NeedsText)
    (hpasses : l.Passes text next) : next.NeedsText := by
  intro r hr
  rw [hpasses.rules] at hr
  exact h r hr

end Lexer

/-- The text of tokens in a row. -/
def Token.texts (tokens : List Token) : List Char :=
  tokens.flatMap fun t => t.value.toList

/-- A token with text has a character. -/
theorem Token.length_value_pos {t : Token} (h : t.value ≠ "") : 0 < t.value.toList.length :=
  List.length_pos_iff.mpr fun hnil => h (String.toList_eq_nil_iff.mp hnil)

/-- Tokens with text are no more than its characters. -/
theorem Token.length_filter_le (tokens : List Token) :
    (tokens.filter fun t => t.value ≠ "").length ≤ (texts tokens).length := by
  induction tokens with
  | nil => exact Nat.le_refl 0
  | cons t rest ih =>
    rw [texts, List.flatMap_cons, List.length_append, ← texts]
    by_cases h : t.value = ""
    · rw [List.filter_cons_of_neg (by simpa using h)]
      omega
    · have hpos := length_value_pos h
      rw [List.filter_cons_of_pos (by simpa using h), List.length_cons]
      omega

namespace Lexer

variable {l next : Lexer} {t : Token}

/-! ## One production

A token without text can come about in one way: a rule was tried on no text at all, and took
some of it. The next token never does that, since it asks for text first. For the token of a
kind the two cases are told apart by the text ahead, and in the second one the lexer is
found to be unchanged. -/

/-- What a production yields is what the lexer passes over. -/
theorem Produces.passes {work : Traced (Lexer × Option Token)} (h : l.Produces work) :
    l.Passes (Token.texts work.value.2.toList) work.value.1 := by
  cases h with
  | nothing reports part => exact .refl l
  | token piece rest ahead =>
    have htext : Token.texts [piece.token] = piece.2 := by
      simp [Token.texts, Piece.token, Token.bare]
    rw [Option.toList_some, htext]
    exact ⟨ahead, rfl, rfl⟩

/-- The same for a production that is known to yield a token. -/
theorem Produces.passes_token {work : Traced (Lexer × Option Token)} (h : l.Produces work)
    (hwork : work.value = (next, some t)) : l.Passes t.value.toList next := by
  have hpasses := h.passes
  rw [hwork] at hpasses
  simpa [Token.texts] using hpasses

/-- A lexer that yields a token without text stays as it is. -/
theorem Produces.eq_of_empty {work : Traced (Lexer × Option Token)} (h : l.Produces work)
    (hwork : work.value = (next, some t)) (hempty : t.value = "") : next = l := by
  cases h with
  | nothing reports part => cases hwork
  | token piece rest ahead =>
    obtain ⟨kind, text⟩ := piece
    obtain ⟨rfl, ht⟩ := Prod.mk.inj hwork
    obtain rfl := Option.some.inj ht
    obtain rfl : text = [] := String.ofList_eq_empty_iff.mp hempty
    -- nothing was read, so the same text is ahead
    obtain rfl : l.cursor.ahead = rest := ahead
    rfl

/-- A production that leaves less text yields a token with text. -/
theorem Passes.ne_empty_of_shortens (h : l.Passes t.value.toList next)
    (hless : next.cursor.ahead.length < l.cursor.ahead.length) : t.value ≠ "" := by
  intro hempty
  have hahead := h.ahead
  rw [hempty] at hahead
  rw [hahead] at hless
  exact Nat.lt_irrefl _ hless

/-- Inversion for the token of a kind: the rule that is tried takes it. -/
theorem exists_rule_of_tryKind {kind : String} (h : (l.tryKind kind).value = (next, some t)) :
    ∃ r ∈ l.rules, r.kind = kind ∧ ∃ bytes, r.matchLength l.cursor.ahead = some bytes ∧
      (next, t) = (l.take r bytes).value := by
  rw [tryKind] at h
  split at h
  · cases h
  · rename_i r hfind
    split at h
    · cases h
    · rename_i bytes hmatch
      obtain ⟨hnext, ht⟩ := Prod.mk.inj h
      refine ⟨r, List.mem_of_find?_eq_some hfind, ?_, bytes, hmatch, ?_⟩
      · simpa using List.find?_some hfind
      · exact Prod.ext hnext.symm (Option.some.inj ht).symm

/-- A next token has text. -/
theorem value_ne_empty_of_next (h : l.next.value = (next, some t)) : t.value ≠ "" :=
  (l.produces_next.passes_token h).ne_empty_of_shortens (next_shortens h)

/-- A token of a kind has text where there is text ahead. -/
theorem value_ne_empty_of_tryKind {kind : String} (hahead : l.cursor.ahead ≠ [])
    (h : (l.tryKind kind).value = (next, some t)) : t.value ≠ "" := by
  obtain ⟨r, -, -, bytes, hmatch, htake⟩ := exists_rule_of_tryKind h
  refine ((l.produces_tryKind kind).passes_token h).ne_empty_of_shortens ?_
  rw [(Prod.mk.inj htake).1]
  exact take_shortens r (Rule.matchLength_pos hmatch) hahead

/-- A production that yields a token without text tried a rule at the end of the text. -/
theorem not_needsText_of_empty {request : Request}
    (h : (request.production l).value = (next, some t)) (hempty : t.value = "") :
    ¬ l.NeedsText := by
  cases request with
  | next => exact absurd hempty (value_ne_empty_of_next h)
  | all => exact absurd hempty (value_ne_empty_of_next h)
  | ofKind kind =>
    intro hneeds
    obtain ⟨r, hr, -, bytes, hmatch, -⟩ := exists_rule_of_tryKind h
    by_cases hahead : l.cursor.ahead = []
    · rw [hahead, hneeds r hr] at hmatch
      cases hmatch
    · exact value_ne_empty_of_tryKind hahead h hempty

/-! ## Sequences of productions

A request is a list of productions, and requests follow one another. What each passes over
is added up, and whether the rules need text is the same all the way, as the rules are. -/

/-- Whatever is asked for, each production of it is one of the lexer. -/
theorem produces_production (l : Lexer) (request : Request) :
    l.Produces (request.production l) := by
  cases request with
  | next => exact l.produces_next
  | ofKind kind => exact l.produces_tryKind kind
  | all => exact l.produces_next

variable {names : List String} {request : Request} {tokens : List Token} {last : Lexer}

/-- The tokens of a request are what the lexer passes over. -/
theorem Marks.passes (h : Marks names request.production l tokens last) :
    l.Passes (Token.texts tokens) last := by
  induction h with
  | done l => exact .refl l
  | @token l next last t tokens yielded marked rest ih =>
    exact ((l.produces_production request).passes_token yielded).trans ih

/-- Where the rules need text, all tokens have text. -/
theorem Marks.ne_empty (h : Marks names request.production l tokens last) (hneeds : l.NeedsText) :
    ∀ t ∈ tokens, t.value ≠ "" := by
  induction h with
  | done l => exact List.forall_mem_nil _
  | @token l next last t tokens yielded marked rest ih =>
    have hpasses := (l.produces_production request).passes_token yielded
    have ht : t.value ≠ "" := fun hempty => not_needsText_of_empty yielded hempty hneeds
    exact List.forall_mem_cons.mpr ⟨ht, ih (hneeds.of_passes hpasses)⟩

end Lexer

namespace Host

/-- The answers of a tracked lexer to requests are what the lexer passes over, and where its rules
need text all tokens have text. -/
theorem serveAll_passes (l : Lexer) (names : List String) (requests : List Request) :
    ∃ last answers, ((tracking l names).serveAll requests).value =
        .ok (tracking last names, answers) ∧
      l.Passes (Token.texts answers.flatten) last ∧
      (l.NeedsText → ∀ t ∈ answers.flatten, t.value ≠ "") := by
  induction requests generalizing l with
  | nil => exact ⟨l, [], rfl, .refl l, fun _ => List.forall_mem_nil _⟩
  | cons request rest ih =>
    obtain ⟨tokens, hserves⟩ := servesMarked_serve l names request
    have hpasses := hserves.marks.passes
    obtain ⟨last, answers, hvalue, hrest, hmore⟩ := ih (l.serve request).value.1
    refine ⟨last, tokens :: answers, ?_, ?_, ?_⟩
    · rw [serveAll, Action.bind_of_ok hserves.value]
      dsimp only
      rw [Action.bind_of_ok hvalue]
      rfl
    · have happend : Token.texts (tokens :: answers).flatten =
          Token.texts tokens ++ Token.texts answers.flatten := by
        rw [List.flatten_cons, Token.texts, List.flatMap_append]
        rfl
      rw [happend]
      exact hpasses.trans hrest
    · intro hneeds
      rw [List.flatten_cons]
      exact List.forall_mem_append.mpr
        ⟨hserves.marks.ne_empty hneeds, hmore (hneeds.of_passes hpasses)⟩

/-- A token of a tracked production is one of the production, and the host is the lexer that is
left, tracked. -/
theorem of_surround {l : Lexer} {names : List String} {work : Traced (Lexer × Option Token)}
    {host : Host} {t : Token} (h : (surround l names work).value = .ok (host, some t)) :
    ∃ next bare, work.value = (next, some bare) ∧ host = tracking next names ∧
      t.value = bare.value := by
  obtain ⟨hhost, hyielded⟩ := Prod.mk.inj (Except.ok.inj h)
  obtain ⟨bare, hbare, rfl⟩ := Option.map_eq_some_iff.mp hyielded
  refine ⟨work.value.1, bare, Prod.ext rfl hbare, hhost.symm, ?_⟩
  have hstrip : (Token.strip _).value = (Token.strip bare).value :=
    congrArg Token.value (Token.strip_mark names (l.spanTo work.value.1) bare)
  exact hstrip

/-- **Productions progress while there is text ahead.** A next token of a lexer, bare or tracked,
has text, and the offset grows. So does a token of a kind where there is text ahead; at the end of
the text it has none, it is there because the rule takes something of no text at all, and the host
stays where it is. On any sequence of requests there are no more tokens with text than there are
characters ahead, and where no rule takes anything of no text, there are no other tokens. -/
theorem productions_progress (l : Lexer) (names : List String) :
    (∀ host t, (tracking l names).next.value = .ok (host, some t) →
        t.value ≠ "" ∧ (tracking l names).view.location.offset < host.view.location.offset) ∧
      (∀ kind host t, ((tracking l names).tryKind kind).value = .ok (host, some t) →
        if (tracking l names).view.ahead = [] then
          t.value = "" ∧ host = tracking l names ∧
            ∃ r ∈ l.rules, r.kind = kind ∧ r.matchLength [] ≠ none
        else
          t.value ≠ "" ∧ (tracking l names).view.location.offset < host.view.location.offset) ∧
      ∀ requests, ∃ last answers, ((tracking l names).serveAll requests).value =
          .ok (last, answers) ∧
        (answers.flatten.filter fun t => t.value ≠ "").length ≤
          (tracking l names).view.ahead.length ∧
        ((∀ r ∈ l.rules, r.matchLength [] = none) →
          (∀ t ∈ answers.flatten, t.value ≠ "") ∧
            answers.flatten.length ≤ (tracking l names).view.ahead.length) := by
  -- for all productions alike: text that was passed over makes the offset grow
  have hoffset : ∀ {next : Lexer} {t : Token}, l.Passes t.value.toList next → t.value ≠ "" →
      l.view.location.offset < (tracking next names).view.location.offset := by
    intro next t hpasses hne
    have hpos := Token.length_value_pos hne
    have hreached := hpasses.offset
    rw [view_tracking]
    change l.cursor.location.offset < next.cursor.location.offset
    omega
  rw [view_tracking]
  refine ⟨?_, ?_, ?_⟩
  · intro host t h
    rw [next_tracking] at h
    obtain ⟨next, bare, hnext, rfl, hvalue⟩ := of_surround h
    rw [hvalue]
    have hne := Lexer.value_ne_empty_of_next hnext
    exact ⟨hne, hoffset (l.produces_next.passes_token hnext) hne⟩
  · intro kind host t h
    rw [tryKind_tracking] at h
    obtain ⟨next, bare, hnext, rfl, hvalue⟩ := of_surround h
    rw [hvalue]
    split
    · rename_i hahead
      replace hahead : l.cursor.ahead = [] := hahead
      -- at the end of the text: the token is empty, and the lexer unchanged
      have hproduces := l.produces_tryKind kind
      obtain ⟨r, hr, hkind, bytes, hmatch, -⟩ := Lexer.exists_rule_of_tryKind hnext
      have hpasses := (hproduces.passes_token hnext).ahead
      have hempty : bare.value = "" := by
        rw [hahead] at hpasses
        exact String.toList_eq_nil_iff.mp (List.append_eq_nil_iff.mp hpasses.symm).1
      rw [hproduces.eq_of_empty hnext hempty]
      refine ⟨hempty, rfl, r, hr, hkind, ?_⟩
      rw [← hahead, hmatch]
      exact Option.some_ne_none bytes
    · rename_i hahead
      have hne := Lexer.value_ne_empty_of_tryKind hahead hnext
      exact ⟨hne, hoffset ((l.produces_tryKind kind).passes_token hnext) hne⟩
  · intro requests
    obtain ⟨last, answers, hvalue, hpasses, hneeds⟩ := serveAll_passes l names requests
    have hcount := (Token.length_filter_le answers.flatten).trans hpasses.length_le
    refine ⟨_, answers, hvalue, hcount, fun hrules => ⟨hneeds hrules, ?_⟩⟩
    rw [List.filter_eq_self.mpr fun t ht => by simpa using hneeds hrules t ht] at hcount
    exact hcount

/-- A rule that takes one byte of whatever text yields a token of no text, and as many as are asked
for. -/
theorem empty_tokens_at_end :
    ((lexer ⟨.ofText .standard [], [⟨"any", .fixed 1⟩]⟩).serveAll
        [.ofKind "any", .next, .ofKind "any"]).value =
      .ok (lexer ⟨.ofText .standard [], [⟨"any", .fixed 1⟩]⟩,
        [[.bare "any" ""], [], [.bare "any" ""]]) :=
  rfl

end Host

end TokenSpans
