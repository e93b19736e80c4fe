import TokenSpans.Proofs.Tracking

/-!
# Who is told

An observer is told of a span that is completed on a host: the one that the cursor inside holds by
then, if announcements are on and the host lets it be seen. `Telling` holds all that this depends
on, with the names under which the host marks its tokens.

A host tells once of each token for each of its names, the innermost first, and each time the token
carries the spans of the names up to this one (`Token.completions`). `Host.tells_next`,
`Host.tells_tryKind` and `Host.tells_tokenise` say so of every host. Producing changes nothing about
who is told.

Who is told is a property of the host and is read off it without running anything: the names
come from the trackings, the observer and the switch from the cursor inside. `Tells` is the
statement about one production with all its parts, and `Quiet` is what has to be known of a
production before it is marked: that it told nobody, and that it did not change who is to be
told. Marking turns the second into the first, and a run is a sequence of productions that
tell, with the same telling all along.
-/

namespace TokenSpans

/-- Under which names a host marks its tokens, and who is told of them. -/
structure Telling where
  /-- The names, the innermost first. -/
  names : List String
  /-- Whether the host lets the observer of the cursor inside be seen. -/
  shown : Bool
  /-- Whether announcements are on. -/
  announces : Bool
  observer : Option Observer

/-- The one who is told, if there is one. -/
def Telling.listener (t : Telling) : Option Observer :=
  if t.shown && t.announces then t.observer else none

/-- A cursor shows its observer. -/
def Cursor.telling (c : Cursor) : Telling where
  names := []
  shown := true
  announces := c.settings.announces
  observer := c.observer

/-- A chunker hides the observer, and tracking adds a name. -/
def Host.telling : Host → Telling
  | lexer l => l.cursor.telling
  | chunker c => { c.cursor.telling with shown := false }
  | tracked inner name => { inner.telling with names := inner.telling.names ++ [name] }

/-- The one whom others see on a cursor is the one who is told. -/
theorem Cursor.view_observer (c : Cursor) : c.view.observer = c.telling.listener := rfl

/-- The one whom others see on a host is the one who is told. -/
theorem Host.view_observer (h : Host) : h.view.observer = h.telling.listener := by
  induction h with
  | lexer l => rfl
  | chunker c => rfl
  | tracked inner name ih => exact ih

/-! ## What was completed on a token

The completions are recovered from the finished token, whose spans no longer show in which
order they came. They can be, since the names are known: at the time of the `k`-th
completion the token carried the spans under the first `k` names and no others. -/

/-- The markers that were completed on a token under some names, one after the other: each time it
carried the spans of the names up to this one. -/
def Token.completions (names : List String) (t : Token) : List Completion :=
  names.zipIdx.filterMap fun (name, k) =>
    (t.spans.get? name).map fun span => ⟨name, span, t.spans.only (names.take (k + 1))⟩

/-- At each completion the token carried the span that was completed. -/
theorem Token.holds_of_mem_completions {names : List String} {t : Token} {c : Completion}
    (hc : c ∈ t.completions names) : c.Holds := by
  obtain ⟨⟨name, k⟩, hname, hget⟩ := List.mem_filterMap.mp hc
  obtain ⟨span, hspan, rfl⟩ := Option.map_eq_some_iff.mp hget
  have hlast : (names.take (k + 1))[k]? = some name := by
    rw [List.getElem?_take_of_succ]
    exact List.mk_mem_zipIdx_iff_getElem?.mp hname
  have hmem := List.mem_of_getElem? hlast
  rw [Completion.Holds, Spans.get?_only, if_pos hmem]
  exact hspan

/-- A token that has been marked under some names, and under no others before, tells in which order
that was done. -/
theorem Token.completions_mark {t : Token} (hbare : t = .bare t.kind t.value)
    (names : List String) (span : Span) :
    completions names (t.mark names span) = Completion.each names span t := by
  have hspans : HoldsSpans.spans t = .empty := congrArg Token.spans hbare
  have hmark : ∀ name, (t.mark names span).spans.get? name =
      if name ∈ names then some span else none := by
    intro name
    have hall := HoldsSpans.get?_attachAll names span t name
    rw [hspans] at hall
    exact hall
  rw [completions, Completion.each_eq, ← List.filterMap_eq_map']
  refine List.filterMap_congr fun (name, k) hname => ?_
  have hmem : name ∈ names := List.mem_of_getElem? (List.mk_mem_zipIdx_iff_getElem?.mp hname)
  dsimp only
  rw [hmark, if_pos hmem, Option.map_some]
  -- what is left of the spans is what the first markers have put there
  have honly : (t.mark names span).spans.only (names.take (k + 1)) =
      HoldsSpans.spans (HoldsSpans.attachAll (names.take (k + 1)) span t) := by
    refine Spans.ext_get? fun other => ?_
    rw [Spans.get?_only, hmark, HoldsSpans.get?_attachAll, hspans, Spans.get?_empty]
    split
    · rename_i hother
      rw [if_pos (List.mem_of_mem_take hother)]
    · rfl
  rw [honly]

/-- Every name has its completion. -/
theorem Token.length_completions_mark {t : Token} (hbare : t = .bare t.kind t.value)
    (names : List String) (span : Span) :
    (completions names (t.mark names span)).length = names.length := by
  rw [completions_mark hbare, Completion.each_eq, List.length_map, List.length_zipIdx]

/-- Tokens with a completion for each name have as many as tokens times names. -/
theorem Token.length_flatMap_completions {tokens : List Token} {names : List String}
    (heach : ∀ t ∈ tokens, (t.completions names).length = names.length) :
    (tokens.flatMap (completions names)).length = tokens.length * names.length := by
  rw [List.length_flatMap, List.map_congr_left heach, List.map_const',
    List.sum_replicate_nat]

/-- **What markers around a production tell**: behind what the production itself tells, one notice
for each marker, the innermost first, to the one who is to be told by then. -/
theorem Marker.notices_aroundAll {σ ι : Type} [HoldsSpans ι] {view : σ → View} {host next : σ}
    {production : Action (σ × Option ι)} {yielded : Option ι} (names : List String)
    (h : production.value = .ok (next, yielded))
    (hoffset : ∀ item ∈ yielded, (view host).location.offset ≤ (view next).location.offset) :
    (aroundAll names view host production).notices = production.notices ++
      (yielded.toList.flatMap (Completion.each names
        ⟨(view host).location, (view next).location, (view next).source⟩)).flatMap
          (Completion.told (view next).observer) := by
  rw [aroundAll_eq names h hoffset, Action.notices, List.filterMap_append, List.filterMap_append,
    notices_openings, notices_endings, List.nil_append]
  rfl

/-- Markers around a production that comes to a fault tell nobody. -/
theorem Marker.notices_aroundAll_of_error {σ ι : Type} [HoldsSpans ι] {view : σ → View} {host : σ}
    {production : Action (σ × Option ι)} {fault : Fault} (names : List String)
    (h : production.value = .error fault) :
    (aroundAll names view host production).notices = production.notices := by
  rw [aroundAll_of_error names h, Action.notices, List.filterMap_append, notices_openings]
  rfl

/-- Nor do markers around a production that takes its host back. -/
theorem Marker.notices_aroundAll_of_backwards {σ ι : Type} [HoldsSpans ι] {view : σ → View}
    {host next : σ} {production : Action (σ × Option ι)} {item : ι} (names : List String)
    (h : production.value = .ok (next, some item))
    (hoffset : (view next).location.offset < (view host).location.offset) :
    (aroundAll names view host production).notices = production.notices := by
  cases names with
  | nil => rfl
  | cons name rest =>
    rw [aroundAll_of_backwards name rest h hoffset, Action.notices, List.filterMap_append,
      notices_openings]
    rfl

/-! ## Productions that tell

The two structures have the same fields but for the notices. A lexer and a chunker are quiet
by themselves, and the lemma on several markers turns their productions into ones that tell
under any names. -/

/-- A production that is not marked: it has moved its host on, nobody was told, and the same are to
be told behind it. -/
structure Quiet {σ : Type} (view : σ → View) (telling : σ → Telling) (host : σ)
    (production : Action (σ × Option Token)) (next : σ) (yielded : Option Token) : Prop where
  /-- there is no fault -/
  value : production.value = .ok (next, yielded)
  /-- a token has no spans yet -/
  bare : ∀ t ∈ yielded, t = .bare t.kind t.value
  /-- the host has moved on -/
  offset : (view host).location.offset ≤ (view next).location.offset
  /-- nobody was told -/
  notices : production.notices = []
  telling : telling next = telling host

/-- A production that tells: each token that it yields was marked under each name, the innermost
first, and the same are to be told behind it. -/
structure Tells {σ α : Type} (telling : σ → Telling) (tokens : α → List Token)
    (names : List String) (host : σ) (production : Action (σ × α)) (next : σ) (yielded : α) :
    Prop where
  value : production.value = .ok (next, yielded)
  /-- every name has its completion -/
  each : ∀ t ∈ tokens yielded, (t.completions names).length = names.length
  /-- the listener was told of every completion, in order -/
  notices : production.notices = ((tokens yielded).flatMap (Token.completions names)).flatMap
    (Completion.told (telling host).listener)
  telling : telling next = telling host

namespace Quiet

variable {σ τ : Type} {view : σ → View} {telling : σ → Telling} {host next : σ}
  {production : Action (σ × Option Token)} {yielded : Option Token}

/-- What is done inside a host that stands where the inside stands is as quiet on the host. -/
theorem map {view' : τ → View} {telling' : τ → Telling}
    (h : Quiet view telling host production next yielded) (f : σ → τ)
    (hview : ∀ x, (view' (f x)).location = (view x).location)
    (htelling : ∀ x y, telling x = telling y → telling' (f x) = telling' (f y)) :
    Quiet view' telling' (f host) ((fun r => (f r.1, r.2)) <$> production) (f next) yielded where
  value := by
    rw [Action.map_eq, h.value]
    rfl
  bare := h.bare
  offset := by
    rw [hview, hview]
    exact h.offset
  notices := by
    rw [Action.map_eq]
    exact h.notices
  telling := htelling _ _ h.telling

/-- Several markers make a production tell. -/
theorem aroundAll (h : Quiet view telling host production next yielded)
    (hview : ∀ x, (view x).observer = (telling x).listener) (names : List String) :
    Tells telling Option.toList names host (Marker.aroundAll names view host production) next
      (yielded.map (Token.mark names
        ⟨(view host).location, (view next).location, (view next).source⟩)) where
  value := congrArg Action.value (Marker.aroundAll_eq names h.value fun _ _ => h.offset)
  each := by
    intro t ht
    obtain ⟨bare, hbare, rfl⟩ := Option.map_eq_some_iff.mp (Option.mem_toList.mp ht)
    exact Token.length_completions_mark (h.bare bare hbare) names _
  notices := by
    rw [Marker.notices_aroundAll names h.value fun _ _ => h.offset, h.notices, List.nil_append, hview,
      h.telling]
    cases hyielded : yielded with
    | none => rfl
    | some t =>
      rw [Option.map_some, Option.toList_some, Option.toList_some, List.flatMap_singleton,
        List.flatMap_singleton, Token.completions_mark (h.bare t hyielded)]
  telling := h.telling

end Quiet

/-- Reading pieces of one size tells nobody. -/
theorem Cursor.quiet_chunk (c : Cursor) (size : Nat) :
    Quiet view telling c (c.chunk size) (c.chunk size).value.1 (c.chunk size).value.2 := by
  rw [chunk]
  split
  · exact {
      value := rfl
      bare := fun t ht => by cases ht
      offset := Nat.le_refl _
      notices := rfl
      telling := rfl }
  · exact {
      value := rfl
      bare := fun t ht => by
        obtain rfl := Option.some.inj ht
        rfl
      offset := Location.offset_le_advance ..
      notices := rfl
      telling := rfl }

/-- A lexer that is not tracked tells nobody. -/
theorem Lexer.Produces.quiet {l : Lexer} {work : Traced (Lexer × Option Token)}
    (h : l.Produces work) :
    Quiet Lexer.view (fun l => l.cursor.telling) l work work.value.1 work.value.2 where
  value := rfl
  bare := h.bare
  offset := h.offset_le
  notices := h.notices
  telling := by
    cases h with
    | nothing reports part => rfl
    | token piece rest ahead => rfl

/-! ## Every host

A host is divided into what is inside all trackings and the names around it. The inside is
quiet, and the names surround it, so nothing is proved by going through the trackings one by
one. For a run the predicate that all hosts on its course share is that they tell the same. -/

namespace Host

/-- The host inside all trackings. -/
def base : Host → Host
  | tracked inner _ => inner.base
  | h => h

/-- A host is what is inside, tracked under its names. -/
theorem foldl_tracked_base (h : Host) : h.telling.names.foldl tracked h.base = h := by
  induction h with
  | lexer l => rfl
  | chunker c => rfl
  | tracked inner name ih =>
    rw [telling, base, List.foldl_append, ih]
    rfl

/-- Trackings add their names and change nothing else about who is told. -/
theorem telling_foldl_tracked (names : List String) (h : Host) :
    (names.foldl tracked h).telling = { h.telling with names := h.telling.names ++ names } := by
  induction names generalizing h with
  | nil =>
    rw [List.append_nil]
    rfl
  | cons name rest ih =>
    rw [List.foldl_cons, ih, telling]
    simp

/-- The same one is told with and without the trackings. -/
theorem listener_base (h : Host) : h.base.telling.listener = h.telling.listener := by
  induction h with
  | lexer l => rfl
  | chunker c => rfl
  | tracked inner name ih => exact ih

/-- A host tells of a production, if it would be quiet without the trackings. -/
theorem tells_of_quiet (production : Host → Action (Host × Option Token))
    (hproduction : ∀ inner name, production (tracked inner name) =
      (fun r => (tracked r.1 name, r.2)) <$> Marker.around name view inner (production inner))
    {h next : Host} {yielded : Option Token}
    (hquiet : Quiet view telling h.base (production h.base) next yielded) :
    ∃ next yielded,
      Tells telling Option.toList h.telling.names h (production h) next yielded := by
  have htells := hquiet.aroundAll view_observer h.telling.names
  have hmarked := tracked_production hproduction h.telling.names h.base
  rw [foldl_tracked_base, Action.map_eq] at hmarked
  exact ⟨h.telling.names.foldl tracked next, _, {
    value := by
      rw [hmarked, htells.value]
      rfl
    each := htells.each
    notices := by
      rw [hmarked, ← h.listener_base]
      exact htells.notices
    telling := by
      rw [telling_foldl_tracked, htells.telling, ← telling_foldl_tracked, foldl_tracked_base] }⟩

/-- The next token is yielded quietly inside all trackings. -/
theorem quiet_base_next (h : Host) :
    ∃ next yielded, Quiet view telling h.base h.base.next next yielded := by
  induction h with
  | lexer l => exact ⟨_, _, l.produces_next.quiet.map lexer (fun _ => rfl) (fun _ _ heq => heq)⟩
  | chunker c =>
    exact ⟨_, _, (c.cursor.quiet_chunk c.size).map (fun cursor => chunker { c with cursor })
      (fun _ => rfl) (fun _ _ heq => by rw [telling, telling, heq])⟩
  | tracked inner name ih => exact ih

/-- So is the token of a kind. -/
theorem quiet_base_tryKind (h : Host) (kind : String) :
    ∃ next yielded, Quiet view telling h.base (h.base.tryKind kind) next yielded := by
  induction h with
  | lexer l =>
    exact ⟨_, _, (l.produces_tryKind kind).quiet.map lexer (fun _ => rfl) (fun _ _ heq => heq)⟩
  | chunker c =>
    exact ⟨chunker c, none, {
      value := rfl
      bare := fun t ht => by cases ht
      offset := Nat.le_refl _
      notices := rfl
      telling := rfl }⟩
  | tracked inner name ih => exact ih

/-- A host tells of its next token. -/
theorem tells_next (h : Host) :
    ∃ next yielded, Tells telling Option.toList h.telling.names h h.next next yielded := by
  obtain ⟨next, yielded, hquiet⟩ := h.quiet_base_next
  exact tells_of_quiet Host.next (fun _ _ => rfl) hquiet

/-- A host tells of the token of a kind. -/
theorem tells_tryKind (h : Host) (kind : String) :
    ∃ next yielded,
      Tells telling Option.toList h.telling.names h (h.tryKind kind) next yielded := by
  obtain ⟨next, yielded, hquiet⟩ := h.quiet_base_tryKind kind
  exact tells_of_quiet (tryKind kind) (fun _ _ => rfl) hquiet

/-- **A run tells of each of its tokens in turn.** -/
theorem tells_tokenise (h : Host) :
    ∃ last tokens, Tells telling id h.telling.names h h.tokenise last tokens := by
  obtain ⟨last, tokens, hvalue, hyields⟩ := h.yields_tokenise
  have hstep : ∀ (x next : Host) (yielded : Option Token), x.telling = h.telling →
      x.next.value = .ok (next, yielded) → next.telling = h.telling ∧
        (∀ t ∈ yielded, (t.completions h.telling.names).length = h.telling.names.length) ∧
        x.next.effects.filterMap Effect.notice? = yielded.toList.flatMap fun t =>
          (t.completions h.telling.names).flatMap (Completion.told h.telling.listener) := by
    intro x next yielded hx hnext
    obtain ⟨next', yielded', htells⟩ := x.tells_next
    obtain ⟨rfl, rfl⟩ := Prod.mk.inj (Except.ok.inj (hnext.symm.trans htells.value))
    have heach := htells.each
    have hnotices := htells.notices
    rw [hx] at heach hnotices
    rw [List.flatMap_assoc] at hnotices
    exact ⟨htells.telling.trans hx, fun t ht => heach t (Option.mem_toList.mpr ht), hnotices⟩
  obtain ⟨htelling, heach, hnotices⟩ := Yields.of_next hstep hyields rfl
  exact ⟨last, tokens, {
    value := hvalue
    each := heach
    notices := hnotices.trans List.flatMap_assoc.symm
    telling := htelling }⟩

end Host

end TokenSpans
