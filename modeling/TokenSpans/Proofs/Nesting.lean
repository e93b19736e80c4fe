import TokenSpans.Proofs.Telling
import TokenSpans.Proofs.Transparency

/-!
# Nested trackings

A token of a lexer that is tracked under some names carries one and the same span under each of the
names and no other span, however the names were nested and whether some of them coincide
(`Token.Marked`): the span from where the lexer stood before the production to where it stands after
it. The trackings are completed from the inside out, and when one of them is completed, the token
carries the spans of those inside it and its own.

`Lexer.Marks` says so of all tokens of a request, each with the production of the lexer that yielded
it, and `Host.servesMarked_serve` that this is what a tracked lexer does. It can be tracked once
more just when the lexer itself can, and stays the same.

Nothing is assumed of the names. If two of them are equal there is one entry under that
name, and two completions, of which the second puts in the same span again: `Exactly` is
about the entries, and `Token.Marked.written` about the completions, and they count differently on
purpose.

The proof does not go through the nesting. A lexer under trackings is first rewritten as one
production surrounded by a list of names (`Host.surround`), and from there on the induction
is on that list and on the course of the run.
-/

namespace TokenSpans

/-- Spans that are one and the same under each of the names, which are all there are. -/
structure Spans.Exactly (names : List String) (span : Span) (spans : Spans) : Prop where
  /-- the names in use are the given ones -/
  mem_names : ∀ name, name ∈ spans.names ↔ name ∈ names
  /-- a name that is given more than once is one entry -/
  nodup : spans.names.Nodup
  /-- the span under each of them -/
  get? : ∀ name ∈ names, spans.get? name = some span

/-- A token that was marked with one span under some names, one after the other. -/
structure Token.Marked (names : List String) (span : Span) (t : Token) : Prop where
  /-- in the end the token has the span under every name -/
  exactly : t.spans.Exactly names span
  /-- one completion for each name, also where names coincide -/
  written : (t.completions names).map Completion.name = names
  /-- each with the span, and by then with the names up to its own -/
  stages : ∀ k (c : Completion), (t.completions names)[k]? = some c →
    c.span = span ∧ c.carried.Exactly (names.take (k + 1)) span

/-- What is attached under some names to an item without spans is all that it carries. -/
theorem Spans.exactly_attachAll {ι : Type} [HoldsSpans ι] {item : ι}
    (hitem : HoldsSpans.spans item = .empty) (names : List String) (span : Span) :
    (HoldsSpans.spans (HoldsSpans.attachAll names span item)).Exactly names span where
  mem_names name := by
    rw [mem_names_iff, HoldsSpans.get?_attachAll, hitem, get?_empty]
    split
    · rename_i hname
      exact ⟨fun _ => hname, fun _ => ⟨span, rfl⟩⟩
    · rename_i hname
      constructor
      · rintro ⟨_, ⟨⟩⟩
      · intro h
        exact absurd h hname
  nodup := nodup_names _
  get? name hname := by rw [HoldsSpans.get?_attachAll, if_pos hname]

/-- A token without spans that is marked under some names is marked as described. -/
theorem Token.marked_mark {t : Token} (hbare : t = .bare t.kind t.value) (names : List String)
    (span : Span) : (t.mark names span).Marked names span := by
  have hspans : HoldsSpans.spans t = .empty := congrArg Token.spans hbare
  have hcompletions := completions_mark hbare names span
  rw [Completion.each_eq] at hcompletions
  exact {
    exactly := Spans.exactly_attachAll hspans names span
    written := by
      rw [hcompletions, List.map_map]
      exact List.zipIdx_map_fst 0 names
    stages := by
      intro k c hc
      rw [hcompletions, List.getElem?_map, List.getElem?_zipIdx, Option.map_map, Nat.zero_add]
        at hc
      obtain ⟨name, -, rfl⟩ := Option.map_eq_some_iff.mp hc
      exact ⟨rfl, Spans.exactly_attachAll hspans (names.take (k + 1)) span⟩ }

/-! ## Requests to a tracked lexer

For the next token and for the token of a kind there is one production, and for all tokens
there is one after the other. `Lexer.Marks` covers both: it is the list of productions with
the token that each of them has yielded. What is heard of the marking is singled out by
`completing?`, since the reports of the lexer and those of setting a marker come in between. -/

/-- What a lexer does for each token of a request. -/
def Request.production : Request → Lexer → Traced (Lexer × Option Token)
  | next, l => l.next
  | ofKind kind, l => l.tryKind kind
  | all, l => l.next

/-- Tokens that a lexer yields one after the other, each marked under the names with the span from
where the lexer stood to where it stands then, and with the label that it has then. -/
inductive Lexer.Marks (names : List String) (production : Lexer → Traced (Lexer × Option Token)) :
    Lexer → List Token → Lexer → Prop
  | done (l : Lexer) : Marks names production l [] l
  | token {l next last : Lexer} {t : Token} {tokens : List Token}
      (yielded : (production l).value = (next, some t.strip))
      (marked : t.Marked names (l.spanTo next))
      (rest : Marks names production next tokens last) :
      Marks names production l (t :: tokens) last

/-- Whether an effect belongs to the completion of a marker. -/
def Effect.completing? : Effect → Option Effect
  | .report (.completed property start stop) => some (.report (.completed property start stop))
  | .report (.notifying property) => some (.report (.notifying property))
  | .report _ => none
  | .notice n => some (.notice n)

namespace Lexer.Produces

variable {l : Lexer} {work : Traced (Lexer × Option Token)}

/-- A lexer by itself completes nothing, so none of its effects is one of a completion. -/
theorem filterMap_completing? (h : l.Produces work) :
    work.effects.filterMap Effect.completing? = [] := by
  refine List.filterMap_eq_nil_iff.mpr fun e he => ?_
  obtain ⟨r, rfl, hpart⟩ := h.effects e he
  cases r with
  | completed property start stop => exact absurd rfl hpart
  | notifying property => exact absurd rfl hpart
  | _ => rfl

/-- The token of a production, marked under names. -/
theorem marks (h : l.Produces work) {production : Lexer → Traced (Lexer × Option Token)}
    (hwork : production l = work) (names : List String) :
    Marks names production l (work.value.2.map (Token.mark names (l.spanTo work.value.1))).toList
      work.value.1 := by
  have hbare := h.bare
  cases hyielded : work.value.2 with
  | none =>
    rw [h.eq_of_none hyielded]
    exact .done l
  | some t =>
    have ht := hbare t hyielded
    refine .token ?_ (Token.marked_mark ht names _) (.done _)
    rw [hwork, Token.strip_mark, Token.strip, ← ht, ← hyielded]

end Lexer.Produces

/-- All that is heard of a completion belongs to it. -/
theorem Completion.filterMap_heard_completing? (observer : Option Observer) (c : Completion) :
    (c.heard observer).filterMap Effect.completing? = c.heard observer := by
  cases observer with
  | none => rfl
  | some observer => rfl

/-- Tokens marked one after the other, and then others from where those have led. -/
theorem Lexer.Marks.append {names : List String}
    {production : Lexer → Traced (Lexer × Option Token)} {l next last : Lexer}
    {tokens more : List Token} (h : Marks names production l tokens next)
    (hrest : Marks names production next more last) :
    Marks names production l (tokens ++ more) last := by
  induction h with
  | done l => exact hrest
  | token yielded marked rest ih => exact .token yielded marked (ih hrest)

namespace Host

variable {l : Lexer} {names : List String}

/-- What a tracked lexer makes of a production: the tokens are marked, and of their marking one
hears what is heard of the completions. -/
theorem surround_completing {work : Traced (Lexer × Option Token)} (h : l.Produces work)
    (names : List String) :
    (surround l names work).effects.filterMap Effect.completing? =
      ((work.value.2.map (Token.mark names (l.spanTo work.value.1))).toList.flatMap
        (Token.completions names)).flatMap (Completion.heard l.view.observer) := by
  have hopenings : (Marker.openings names l.view.location).filterMap Effect.completing? = [] := by
    refine List.filterMap_eq_nil_iff.mpr fun e he => ?_
    obtain ⟨name, -, rfl⟩ := List.mem_map.mp he
    rfl
  have hbare := h.bare
  rw [surround, List.filterMap_append, List.filterMap_append, hopenings, h.filterMap_completing?]
  cases hyielded : work.value.2 with
  | none =>
    refine List.filterMap_eq_nil_iff.mpr fun e he => ?_
    obtain ⟨name, -, rfl⟩ := List.mem_map.mp he
    rfl
  | some t =>
    rw [Marker.endings, List.filterMap_flatMap, Option.map_some, Option.toList_some,
      List.flatMap_singleton, Token.completions_mark (hbare t hyielded), h.observer_eq]
    exact List.flatMap_congr fun c _ => c.filterMap_heard_completing? l.view.observer

/-- What a tracked lexer does on a request: it yields marked tokens, and of their marking one hears
what is heard of the completions. -/
structure ServesMarked (l : Lexer) (names : List String)
    (production : Lexer → Traced (Lexer × Option Token)) (work : Action (Host × List Token))
    (last : Lexer) (tokens : List Token) : Prop where
  value : work.value = .ok (tracking last names, tokens)
  marks : Lexer.Marks names production l tokens last
  completing : work.effects.filterMap Effect.completing? =
    (tokens.flatMap (Token.completions names)).flatMap (Completion.heard l.view.observer)

/-- A production that is asked for alone. -/
theorem servesMarked_surround {work : Traced (Lexer × Option Token)} (h : l.Produces work)
    {production : Lexer → Traced (Lexer × Option Token)} (hwork : production l = work) :
    ∃ tokens, ServesMarked l names production
      (do
        let (h, token) ← surround l names work
        return (h, token.toList)) work.value.1 tokens :=
  ⟨_, {
    value := rfl
    marks := h.marks hwork names
    completing := by
      rw [Action.bind_of_ok rfl]
      refine (congrArg (List.filterMap Effect.completing?) (List.append_nil _)).trans ?_
      exact surround_completing h names }⟩

/-- Along the course of a run every token is marked by the production that yields it. -/
theorem Course.marks {tokens : List Token} {effects : List Effect} {last : Lexer}
    (h : Course names l tokens effects last) : Lexer.Marks names Lexer.next l tokens last := by
  induction h with
  | ended ahead => exact .done _
  | @stopped l ahead production =>
    rw [l.produces_next.eq_of_none production]
    exact .done l
  | @went l last t tokens effects ahead production rest ih =>
    have hmarks := l.produces_next.marks rfl names
    rw [production] at hmarks
    exact hmarks.append ih

/-- What is heard of the marking along a run is what is heard of the completions of its
tokens. -/
theorem Course.completing {tokens : List Token} {effects : List Effect} {last : Lexer}
    (h : Course names l tokens effects last) :
    effects.filterMap Effect.completing? =
      (tokens.flatMap (Token.completions names)).flatMap (Completion.heard l.view.observer) := by
  induction h with
  | ended ahead => rfl
  | @stopped l ahead production =>
    have hcompleting := surround_completing l.produces_next names
    rw [production] at hcompleting
    exact hcompleting
  | @went l last t tokens effects ahead production rest ih =>
    have hcompleting := surround_completing l.produces_next names
    rw [production, Option.map_some, Option.toList_some, List.flatMap_singleton] at hcompleting
    rw [List.filterMap_append, ih, hcompleting, l.produces_next.observer_eq, ← List.flatMap_append,
      List.flatMap_cons]

/-- All tokens at once are the course of a run. -/
theorem servesMarked_tokenise (l : Lexer) (names : List String) :
    ∃ tokens, ServesMarked l names Lexer.next (tracking l names).tokenise l.tokenise.value.1
      tokens := by
  obtain ⟨last, tokens, hvalue, hcourse⟩ := course_tokenise l names
  rw [hcourse.mirrors.1]
  exact ⟨tokens, hvalue, hcourse.marks, hcourse.completing⟩

/-- A request of any kind is served by marking. -/
theorem servesMarked_serve (l : Lexer) (names : List String) (request : Request) :
    ∃ tokens, ServesMarked l names request.production ((tracking l names).serve request)
      (l.serve request).value.1 tokens := by
  cases request with
  | next =>
    rw [serve, next_tracking]
    exact servesMarked_surround l.produces_next rfl
  | ofKind kind =>
    rw [serve, tryKind_tracking]
    exact servesMarked_surround (l.produces_tryKind kind) rfl
  | all => exact servesMarked_tokenise l names

/-- A host that is tracked over a lexer is refused just when the lexer has no role; else it is the
same lexer under one more name. -/
theorem track_tracking (l : Lexer) (names : List String) (name : String) :
    ((tracking l names).track name).value =
      if l.cursor.role = none then .error .noRole else .ok (tracking l (names ++ [name])) := by
  have htracked : tracked (tracking l names) name = tracking l (names ++ [name]) := by
    rw [tracking, tracking, List.foldl_append]
    rfl
  have hrole : (tracking l names).view.role = l.cursor.role := by
    rw [view_tracking]
    rfl
  split
  · rename_i h
    rw [track_of_noRole (hrole.trans h)]
  · rename_i h
    obtain ⟨role, h⟩ := Option.ne_none_iff_exists'.mp h
    rw [track_of_role (hrole.trans h), htracked]

/-- **Nested trackings mark alike.** However many times a lexer is tracked, and under whatever
names, every token of a request carries the same span under each of the names and no other span:
the one from where the lexer stood before the production to where it stands after it. The trackings
are completed from the inside out, each one once, on a token that carries the spans of the names up
to its own by then; this is what is heard of it. Another tracking is refused just when the cursor
declares no role at that time, and changes nothing about the lexer. -/
theorem nested_trackings (l : Lexer) (names : List String) (request : Request) :
    (∃ tokens, ServesMarked l names request.production ((tracking l names).serve request)
        (l.serve request).value.1 tokens) ∧
      ∀ name, ((tracking l names).track name).value =
        if l.cursor.role = none then .error .noRole else .ok (tracking l (names ++ [name])) :=
  ⟨servesMarked_serve l names request, track_tracking l names⟩

end Host

end TokenSpans
