import TokenSpans.Proofs.Tracking

/-!
# Tracking is transparent

A lexer that is tracked under some names does on every request what it would have done untracked:
it yields the same tokens but for their spans, it is left in the same state, and what it says about
its own work is the same, with reports and notices on the marking in between. `Mirrors` says so of
one piece of work, and pieces of work that mirror others do so in a row (`Mirrors.bind`), which
carries it from one production to the run of all tokens (`mirrors_tokenise`) and to any sequence of
requests (`serveAll_transparent`).

Mirroring is a relation between an action on a tracked host and work on the lexer, and it is
about all of both: value, state and effects. Since it is closed under doing one thing after
another (`Mirrors.bind`), a request or a list of requests mirrors because each step in its
`do` block does, and no proof has to take a `do` block apart by hand. What is left out of
the comparison is named: spans, by `strip`, and what is heard of the marking, by
`Effect.unmarked`.
-/

namespace TokenSpans

/-- Whether an effect is about marking: all notices are, and the reports of the part that marks. -/
def Effect.isMarking : Effect → Bool
  | .report r => r.part == .position
  | .notice _ => true

/-- The effects that are not about marking. -/
def Effect.unmarked (effects : List Effect) : List Effect :=
  effects.filter fun e => !e.isMarking

namespace Effect

/-- What is heard one after the other may be looked through separately. -/
theorem unmarked_append (effects more : List Effect) :
    unmarked (effects ++ more) = unmarked effects ++ unmarked more :=
  List.filter_append ..

/-- All notices are about marking. -/
theorem notices_unmarked (effects : List Effect) :
    (unmarked effects).filterMap notice? = [] := by
  refine List.filterMap_eq_nil_iff.mpr fun e he => ?_
  cases e with
  | report r => rfl
  | notice n => cases (List.mem_filter.mp he).2

end Effect

/-- All that is heard of a completion is about marking. -/
theorem Completion.unmarked_heard (c : Completion) (observer : Option Observer) :
    Effect.unmarked (c.heard observer) = [] := by
  cases observer with
  | none => rfl
  | some observer => rfl

namespace Marker

variable {ι : Type} [HoldsSpans ι]

@[simp] theorem unmarked_openings (names : List String) (start : Location) :
    Effect.unmarked (openings names start) = [] := by
  refine List.filter_eq_nil_iff.mpr fun e he => ?_
  obtain ⟨name, -, rfl⟩ := List.mem_map.mp he
  exact Bool.noConfusion

@[simp] theorem unmarked_endings (names : List String) (start : Location) (view : View)
    (yielded : Option ι) : Effect.unmarked (endings names start view yielded) = [] := by
  cases yielded with
  | none =>
    refine List.filter_eq_nil_iff.mpr fun e he => ?_
    obtain ⟨name, -, rfl⟩ := List.mem_map.mp he
    exact Bool.noConfusion
  | some item =>
    rw [endings, Effect.unmarked, List.filter_flatMap]
    exact List.flatMap_eq_nil_iff.mpr fun c _ => c.unmarked_heard view.observer

end Marker

/-- Marking leaves nothing of a token but its spans changed. -/
theorem Token.strip_mark (names : List String) (span : Span) (t : Token) :
    (t.mark names span).strip = t.strip := by
  induction names generalizing t with
  | nil => rfl
  | cons name rest ih =>
    rw [mark, List.foldl_cons]
    exact ih _

namespace Lexer

/-! ## Tokenising from one token to the next

The recursion of `tokenise` in three equations, one for each way the first production may
go. Value and effects are both given, so that a run can be followed without opening its
definition. -/

variable {l next : Lexer}

/-- At the end of the text there is nothing to do, and nothing is heard. -/
theorem tokenise_of_ended (h : l.cursor.ahead = []) : l.tokenise = pure (l, []) := by
  have hdone : l.cursor.isDone = true := List.isEmpty_iff.mpr h
  rw [tokenise, if_pos hdone]

/-- Where nothing is yielded that is all that is done. -/
theorem tokenise_of_stopped (h : l.cursor.ahead ≠ []) (hnext : l.next.value = (next, none)) :
    l.tokenise = ⟨(next, []), l.next.effects⟩ := by
  have hdone : ¬ l.cursor.isDone = true := fun hend => h (List.isEmpty_iff.mp hend)
  rw [tokenise, if_neg hdone]
  dsimp only
  split
  · rename_i hstep
    rw [hnext] at hstep
    cases hstep
    rfl
  · rename_i hstep
    rw [hnext] at hstep
    cases hstep

/-- Where a token is yielded the run goes on from the lexer that is left. -/
theorem tokenise_of_went {t : Token} (h : l.cursor.ahead ≠ [])
    (hnext : l.next.value = (next, some t)) :
    l.tokenise = ⟨(next.tokenise.value.1, t :: next.tokenise.value.2),
      l.next.effects ++ next.tokenise.effects⟩ := by
  have hdone : ¬ l.cursor.isDone = true := fun hend => h (List.isEmpty_iff.mp hend)
  rw [tokenise, if_neg hdone]
  dsimp only
  split
  · rename_i hstep
    rw [hnext] at hstep
    cases hstep
  · rename_i hstep
    rw [hnext] at hstep
    cases hstep
    rfl

/-- What a lexer says of a production is not about marking. -/
theorem Produces.unmarked {work : Traced (Lexer × Option Token)} (h : l.Produces work) :
    Effect.unmarked work.effects = work.effects := by
  refine List.filter_eq_self.mpr fun e he => ?_
  obtain ⟨r, rfl, hpart⟩ := h.effects e he
  simp [Effect.isMarking, hpart]

end Lexer

namespace Host

/-- Work on a lexer that is tracked under names mirrors work on the lexer itself: it yields the same
once the marks are taken away, it leaves the same lexer, and what is heard but for the marking is
the same. -/
structure Mirrors {α : Type} (names : List String) (unmark : α → α) (work : Action (Host × α))
    (bare : Traced (Lexer × α)) : Prop where
  /-- the same is yielded and the same lexer is left -/
  value : ∃ a, work.value = .ok (tracking bare.value.1 names, a) ∧ unmark a = bare.value.2
  /-- the same is heard -/
  effects : Effect.unmarked work.effects = bare.effects

/-- Work that mirrors other work, and goes on so from where that one leads, mirrors both in a
row. -/
theorem Mirrors.bind {α β : Type} {names : List String} {unmark : α → α} {unmark' : β → β}
    {work : Action (Host × α)} {bare : Traced (Lexer × α)} (h : Mirrors names unmark work bare)
    {goOn : Host × α → Action (Host × β)} {bareOn : Lexer × α → Traced (Lexer × β)}
    (hon : ∀ l a, Mirrors names unmark' (goOn (tracking l names, a)) (bareOn (l, unmark a))) :
    Mirrors names unmark' (work >>= goOn) (bare >>= bareOn) := by
  obtain ⟨a, hvalue, ha⟩ := h.value
  have hrest := hon bare.value.1 a
  rw [ha] at hrest
  rw [Action.bind_of_ok hvalue]
  exact {
    value := hrest.value
    effects := by
      -- what is heard is that of the first work and then that of the second, on both sides
      rw [Effect.unmarked_append, h.effects, hrest.effects]
      rfl }

/-- Doing nothing mirrors doing nothing. -/
theorem mirrors_pure {α : Type} (names : List String) (unmark : α → α) (l : Lexer) (a : α) :
    Mirrors names unmark (pure (tracking l names, a)) (pure (l, unmark a)) where
  value := ⟨a, rfl, rfl⟩
  effects := rfl

variable {l : Lexer} {names : List String}

/-- A surrounded production mirrors the production. -/
theorem mirrors_surround {work : Traced (Lexer × Option Token)} (h : l.Produces work) :
    Mirrors names (Option.map Token.strip) (surround l names work) work where
  value := by
    refine ⟨_, rfl, ?_⟩
    have hbare := h.bare
    cases hyielded : work.value.2 with
    | none => rfl
    | some t =>
      rw [Option.map_some, Option.map_some, Token.strip_mark, hbare t hyielded]
      rfl
  effects := by
    rw [surround, Effect.unmarked_append, Effect.unmarked_append, h.unmarked,
      Marker.unmarked_openings, Marker.unmarked_endings, List.nil_append, List.append_nil]

/-- The next token of a tracked lexer mirrors that of the lexer. -/
theorem mirrors_next (l : Lexer) (names : List String) :
    Mirrors names (Option.map Token.strip) (tracking l names).next l.next := by
  rw [next_tracking]
  exact mirrors_surround l.produces_next

/-- So does the token of a kind. -/
theorem mirrors_tryKind (l : Lexer) (names : List String) (kind : String) :
    Mirrors names (Option.map Token.strip) ((tracking l names).tryKind kind)
      (l.tryKind kind) := by
  rw [tryKind_tracking]
  exact mirrors_surround (l.produces_tryKind kind)

/-! ## Runs and sequences of requests

For a run the comparison goes along its course, since the two definitions of tokenising are
recursions of their own. For requests it is composed from the steps. -/

/-- A run under markers is the run of the lexer, with the tokens marked. -/
theorem Course.mirrors {tokens : List Token} {effects : List Effect} {last : Lexer}
    (h : Course names l tokens effects last) :
    l.tokenise.value = (last, tokens.map Token.strip) ∧
      Effect.unmarked effects = l.tokenise.effects := by
  induction h with
  | ended ahead =>
    rw [Lexer.tokenise_of_ended ahead]
    exact ⟨rfl, rfl⟩
  | @stopped l ahead production =>
    rw [Lexer.tokenise_of_stopped ahead (Prod.ext rfl production)]
    exact ⟨rfl, (mirrors_surround l.produces_next).effects⟩
  | @went l last t tokens effects ahead production rest ih =>
    obtain ⟨hvalue, heffects⟩ := ih
    have hbare := l.produces_next.bare t production
    rw [Lexer.tokenise_of_went ahead (Prod.ext rfl production), hvalue, List.map_cons,
      Token.strip_mark, Token.strip, ← hbare, Effect.unmarked_append, heffects,
      (mirrors_surround l.produces_next).effects]
    exact ⟨rfl, rfl⟩

/-- **A tracked run mirrors the bare one.** -/
theorem mirrors_tokenise (l : Lexer) (names : List String) :
    Mirrors names (List.map Token.strip) (tracking l names).tokenise l.tokenise := by
  obtain ⟨last, tokens, hvalue, hcourse⟩ := course_tokenise l names
  obtain ⟨hbare, heffects⟩ := hcourse.mirrors
  refine ⟨⟨tokens, ?_, ?_⟩, heffects⟩
  · rw [hvalue, hbare]
  · rw [hbare]

/-- Every request mirrors, whatever it asks for. -/
theorem mirrors_serve (l : Lexer) (names : List String) (request : Request) :
    Mirrors names (List.map Token.strip) ((tracking l names).serve request)
      (l.serve request) := by
  have hlist : ∀ (l : Lexer) (a : Option Token),
      Mirrors names (List.map Token.strip) (pure (tracking l names, a.toList))
        (pure (l, (a.map Token.strip).toList)) := by
    intro l a
    rw [Option.toList_map]
    exact mirrors_pure names _ l a.toList
  cases request with
  | next => exact (mirrors_next l names).bind hlist
  | ofKind kind => exact (mirrors_tryKind l names kind).bind hlist
  | all => exact mirrors_tokenise l names

/-- So do requests in a row, with the lexer that each leaves. -/
theorem mirrors_serveAll (l : Lexer) (names : List String) (requests : List Request) :
    Mirrors names (List.map (List.map Token.strip)) ((tracking l names).serveAll requests)
      (l.serveAll requests) := by
  induction requests generalizing l with
  | nil => exact mirrors_pure names _ l []
  | cons request rest ih =>
    refine (mirrors_serve l names request).bind fun l tokens => ?_
    exact (ih l).bind fun l more => mirrors_pure names _ l (tokens :: more)

end Host

/-- A lexer that is not tracked tells nobody of its tokens. -/
theorem Lexer.notices_tokenise (l : Lexer) : l.tokenise.notices = [] := by
  rw [Traced.notices, ← (Host.mirrors_tokenise l []).effects, Effect.notices_unmarked]

/-! ## Decorated production functions

A decorated function surrounds each call by one marker. Nothing is known of the function: it
may be at fault, it may yield nothing, and it may move its host in either case. Only that it
does not take its host back has to be assumed, and only for calls that yield an item. -/

/-- A decorated production function does what the function does, on any host that it does not take
back: it leaves the host as the function leaves it, the item has got one more span, and what is
heard besides is about marking. -/
theorem Marker.wrap_value {σ α ι : Type} [HoldsSpans ι] {name : String} {view : σ → View}
    {produce : σ → α → Action (σ × Option ι)} {host : σ} {argument : α}
    (hoffset : ∀ next item, (produce host argument).value = .ok (next, some item) →
      (view host).location.offset ≤ (view next).location.offset) :
    (wrap name view produce host argument).value =
        (produce host argument).value.map (fun r => (r.1, r.2.map fun item =>
          HoldsSpans.attach item name
            ⟨(view host).location, (view r.1).location, (view r.1).source⟩)) ∧
      ∃ behind, Effect.unmarked behind = [] ∧
        (wrap name view produce host argument).effects =
          .report (.marked name (view host).location) :: (produce host argument).effects ++
            behind := by
  cases hvalue : (produce host argument).value with
  | error fault =>
    rw [wrap, around_of_error hvalue]
    exact ⟨rfl, [], rfl, (List.append_nil _).symm⟩
  | ok r =>
    obtain ⟨next, yielded⟩ := r
    cases yielded with
    | none =>
      rw [wrap, around_of_none hvalue]
      exact ⟨rfl, _, rfl, rfl⟩
    | some item =>
      rw [wrap, around_of_some hvalue (hoffset next item hvalue)]
      exact ⟨rfl, _, Completion.unmarked_heard .., rfl⟩

namespace Host

/-- **Tracking is transparent.** Tracking a lexer under some names, as often as one likes, gives
the lexer tracked under these names, unless no role is declared; and on any sequence of requests
that one mirrors the lexer: every answer has the same tokens but for their spans, the cursor and
the rules are left the same, and only the marking is heard besides. A decorated production function
is transparent in the same way, also where it moves its host and yields nothing. -/
theorem serveAll_transparent (l : Lexer) (names : List String) (requests : List Request) :
    (((lexer l).trackAll names).value =
        if names ≠ [] ∧ l.cursor.role = none then .error .noRole else .ok (tracking l names)) ∧
      Mirrors names (List.map (List.map Token.strip)) ((tracking l names).serveAll requests)
        (l.serveAll requests) ∧
      ∀ (σ α ι : Type) [HoldsSpans ι] (name : String) (view : σ → View)
        (produce : σ → α → Action (σ × Option ι)) (host : σ) (argument : α),
        (∀ next item, (produce host argument).value = .ok (next, some item) →
          (view host).location.offset ≤ (view next).location.offset) →
        (Marker.wrap name view produce host argument).value =
            (produce host argument).value.map (fun r => (r.1, r.2.map fun item =>
              HoldsSpans.attach item name
                ⟨(view host).location, (view r.1).location, (view r.1).source⟩)) ∧
          ∃ behind, Effect.unmarked behind = [] ∧
            (Marker.wrap name view produce host argument).effects =
              .report (.marked name (view host).location) :: (produce host argument).effects ++
                behind := by
  refine ⟨trackAll_value (lexer l) names, mirrors_serveAll l names requests, ?_⟩
  intro σ α ι _ name view produce host argument hoffset
  exact Marker.wrap_value hoffset

end Host

end TokenSpans
