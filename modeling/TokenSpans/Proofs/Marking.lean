import TokenSpans.Host.Requests
import TokenSpans.Proofs.Pieces

/-!
# Marked tokens

A tracked host does what the lexer inside does and puts one span under every name.
`Host.next_of_none` and `Host.next_of_some` say so for one token and `Host.tokenise_value` for a
whole run, at any depth of tracking: the tokens are those of the bare lexer, laid out along the text
(`Token.layOut`) from where it stood.

In particular no span ever runs backwards, so tracking a lexer never comes to a fault.

The statements are about values, and leave out what is heard; effects are taken up again in
`Proofs/Surrounding.lean` and `Proofs/Telling.lean`. The shape of a statement is always the
same: the host afterwards is the host before with another lexer inside, and the tokens are
those of that lexer with their spans put on. So nothing has to be said about the trackings
one by one.
-/

namespace TokenSpans

/-! ## Completing a marker

Every lemma of this section has the same hypothesis, that the host stands no earlier than
the marker was set, and under it completing is a plain function of the two places. This is
the only place where the comparison of offsets is opened. -/

namespace Marker

variable {σ ι : Type} [HoldsSpans ι]

/-- Up to a host that stands no earlier than the marker there is a span. -/
theorem spanTo_value {m : Marker} {view : View} (h : m.start.offset ≤ view.location.offset) :
    m.spanTo view = .ok ⟨m.start, view.location, view.source⟩ :=
  if_pos h

/-- A marker is completed on every host that stands no earlier than it was set. -/
theorem attach_value {m : Marker} {view : View} (item : ι)
    (h : m.start.offset ≤ view.location.offset) :
    (m.attach view item).value =
      .ok (⟨m.start, view.location, view.source⟩,
        HoldsSpans.attach item m.name ⟨m.start, view.location, view.source⟩) := by
  rw [attach, spanTo_value h]
  cases view.observer with
  | none => rfl
  | some observer => rfl

/-- Closing a marker on an item yields the item with the span attached. -/
theorem close_value {m : Marker} {view : View} (item : ι)
    (h : m.start.offset ≤ view.location.offset) :
    (m.close view item).value =
      .ok (HoldsSpans.attach item m.name ⟨m.start, view.location, view.source⟩) := by
  rw [close, Action.bind_of_ok (attach_value item h)]
  rfl

/-- A production that moves its host on, or leaves it, is marked without a fault. -/
theorem around_value {name : String} {view : σ → View} {host next : σ}
    {production : Action (σ × Option ι)} {yielded : Option ι}
    (hproduction : production.value = .ok (next, yielded))
    (hoffset : (view host).location.offset ≤ (view next).location.offset) :
    (around name view host production).value =
      .ok (next, yielded.map fun item =>
        HoldsSpans.attach item name
          ⟨(view host).location, (view next).location, (view next).source⟩) := by
  have hmarker : ((Marker.set (view host) name : Traced Marker) : Action Marker).value =
      .ok ⟨(view host).location, name⟩ := rfl
  rw [around, Action.bind_of_ok hmarker, Action.bind_of_ok hproduction]
  cases yielded with
  | none => rfl
  | some item =>
    have hclose := close_value (m := ⟨(view host).location, name⟩) item hoffset
    simp only [Action.bind_of_ok hclose]
    rfl

end Marker

/-! ## Tokens laid out along a text

Laying out is the specification of what tracking does to tokens: it goes along the tokens
with a place, gives each token the span from that place to where its own value leads, and
goes on from there. No cursor and no host occurs in it. -/

namespace Token

/-- The token with a span put under each of the names, one after the other. -/
def mark (names : List String) (span : Span) (t : Token) : Token :=
  names.foldl (fun t name => HoldsSpans.attach t name span) t

/-- The last name is put on last, so it belongs to the outermost tracking. -/
theorem mark_append_singleton (names : List String) (name : String) (span : Span) (t : Token) :
    t.mark (names ++ [name]) span = HoldsSpans.attach (t.mark names span) name span := by
  rw [mark, List.foldl_append]
  rfl

/-- Marking changes the spans and nothing else. -/
@[simp] theorem piece_mark (names : List String) (span : Span) (t : Token) :
    (t.mark names span).piece = t.piece := by
  induction names generalizing t with
  | nil => rfl
  | cons name rest ih =>
    rw [mark, List.foldl_cons]
    exact ih _

/-- Tokens that follow one another in a text from a place on, with the span of each under all the
names: it begins where the one before ends, and ends where its own value leads. -/
def layOut (names : List String) (first : Nat) (source : Option String) :
    Location → List Token → List Token
  | _, [] => []
  | here, t :: rest =>
    let there := here.advance first t.value.toList
    t.mark names ⟨here, there, source⟩ :: layOut names first source there rest

/-- Laying out changes the spans and nothing else. -/
theorem map_piece_layOut (names : List String) (first : Nat) (source : Option String)
    (here : Location) (tokens : List Token) :
    (layOut names first source here tokens).map piece = tokens.map piece := by
  induction tokens generalizing here with
  | nil => rfl
  | cons t rest ih => rw [layOut, List.map_cons, List.map_cons, piece_mark, ih]

end Token

namespace Host

/-! ## The lexer inside a host

A tracked lexer is determined by its lexer and its names. These lemmas say that replacing
the lexer replaces the view and nothing else; each is an induction on the host in which the
chunker is excluded, since there is no lexer in it. -/

variable {h : Host} {l : Lexer}

/-- What is seen of a host is what is seen of the lexer inside. -/
theorem view_of_lexer? (hl : h.lexer? = some l) : h.view = l.cursor.view := by
  induction h with
  | lexer k =>
    cases hl
    rfl
  | chunker c => cases hl
  | tracked inner name ih => exact ih hl

/-- A lexer that was put inside is found there. -/
theorem lexer?_withLexer (hl : h.lexer? = some l) (m : Lexer) :
    (h.withLexer m).lexer? = some m := by
  induction h with
  | lexer k => rfl
  | chunker c => cases hl
  | tracked inner name ih => exact ih hl

/-- Putting the lexer inside in its own place changes nothing. -/
theorem withLexer_self (hl : h.lexer? = some l) : h.withLexer l = h := by
  induction h with
  | lexer k =>
    cases hl
    rfl
  | chunker c => cases hl
  | tracked inner name ih => rw [withLexer, ih hl]

/-- Of two lexers put inside, the later one stays. -/
theorem withLexer_withLexer (h : Host) (m k : Lexer) :
    (h.withLexer m).withLexer k = h.withLexer k := by
  induction h with
  | lexer _ => rfl
  | chunker c => rfl
  | tracked inner name ih => rw [withLexer, withLexer, ih, withLexer]

/-- The names belong to the trackings and not to the lexer. -/
theorem names_withLexer (h : Host) (m : Lexer) : (h.withLexer m).names = h.names := by
  induction h with
  | lexer _ => rfl
  | chunker c => rfl
  | tracked inner name ih => rw [withLexer, names, ih, names]

/-- A host with a lexer inside moves on with every token. -/
theorem moves_of_lexer? (hl : h.lexer? = some l) : h.moves = true := by
  induction h with
  | lexer k => rfl
  | chunker c => cases hl
  | tracked inner name ih => exact ih hl

/-! ## One token

By induction on the host. In the case of a tracking the host inside has yielded a token
whose marks are known, and the marker adds one more under its own name: it was set where the
lexer stood before the token, since nothing inside had been done by then, and is completed
where the lexer stands now. -/

/-- Where the lexer inside yields nothing, the host yields nothing and stays as it is. -/
theorem next_of_none (hl : h.lexer? = some l) (hcut : Rule.cut? l.rules l.cursor.ahead = none) :
    h.next.value = .ok (h, none) := by
  induction h with
  | lexer k =>
    cases hl
    have hnext : ((l.next : Traced _) : Action (Lexer × Option Token)).value = .ok (l, none) :=
      congrArg Except.ok (Lexer.next_of_none hcut)
    rw [next, Action.bind_of_ok hnext]
    rfl
  | chunker c => cases hl
  | tracked inner name ih =>
    rw [next, Action.bind_of_ok (Marker.around_value (ih hl) (Nat.le_refl _))]
    rfl

/-- **Tracking marks and does nothing else**: where the lexer inside cuts a piece, the host yields
its token with one span under all its names, from where the lexer stood to where it stands now. -/
theorem next_of_some (hl : h.lexer? = some l) {piece : Piece} {rest : List Char}
    (hcut : Rule.cut? l.rules l.cursor.ahead = some (piece, rest)) :
    h.next.value = .ok (h.withLexer (l.moved piece.2 rest),
      some (piece.token.mark h.names
        ⟨l.cursor.location,
          l.cursor.location.advance l.cursor.settings.numbering.first piece.2,
          l.cursor.settings.source⟩)) := by
  induction h with
  | lexer k =>
    cases hl
    have hnext : ((l.next : Traced _) : Action (Lexer × Option Token)).value =
        .ok (l.moved piece.2 rest, some piece.token) :=
      congrArg Except.ok (Lexer.next_of_some hcut)
    rw [next, Action.bind_of_ok hnext]
    rfl
  | chunker c => cases hl
  | tracked inner name ih =>
    have hinner : inner.lexer? = some l := hl
    have hview := view_of_lexer? (lexer?_withLexer hinner (l.moved piece.2 rest))
    have hoffset : inner.view.location.offset ≤
        (inner.withLexer (l.moved piece.2 rest)).view.location.offset := by
      rw [hview, view_of_lexer? hinner]
      exact Location.offset_le_advance ..
    have haround : (Marker.around name view inner inner.next).value = _ :=
      Marker.around_value (ih hinner) hoffset
    rw [next, Action.bind_of_ok haround, hview, view_of_lexer? hinner, names]
    simp only [Option.map_some, Token.mark_append_singleton]
    rfl

/-! ## A whole run

The recursion of `tokenise` is unfolded once for each outcome of a production, and the run
is then an induction over the pieces of the text ahead. Host and lexer are generalised,
because both have moved when the run goes on. -/

/-- Where the lexer inside cuts no piece, the run ends where it is. -/
theorem tokenise_of_none (hl : h.lexer? = some l)
    (hcut : Rule.cut? l.rules l.cursor.ahead = none) : h.tokenise.value = .ok (h, []) := by
  have hnext := next_of_none hl hcut
  rw [tokenise]
  split
  · rfl
  · dsimp only
    split
    · rename_i hstep
      rw [hnext] at hstep
      cases hstep
    · rename_i hstep
      rw [hnext] at hstep
      cases hstep
      rfl
    · rename_i hstep
      rw [hnext] at hstep
      cases hstep

/-- Where a token is yielded, it comes first, and the run goes on with the host as it is by
then. -/
theorem tokenise_of_some {next : Host} {token : Token} (hmoves : h.moves = true)
    (hne : h.view.ahead ≠ []) (hnext : h.next.value = .ok (next, some token)) :
    h.tokenise.value =
      next.tokenise.value.map (fun found => (found.1, token :: found.2)) := by
  have hempty : ¬ h.view.ahead.isEmpty = true := fun hempty => hne (List.isEmpty_iff.mp hempty)
  rw [tokenise, if_neg hempty]
  dsimp only
  split
  · rename_i hstep
    rw [hnext] at hstep
    cases hstep
  · rename_i hstep
    rw [hnext] at hstep
    cases hstep
  · rename_i hstep
    rw [hnext] at hstep
    cases hstep
    rw [dif_pos hmoves]

/-- **A tracked run is the run of the lexer inside, laid out along the text.** -/
theorem tokenise_value (hl : h.lexer? = some l) :
    h.tokenise.value = .ok (h.withLexer l.tokenise.value.1,
      Token.layOut h.names l.cursor.settings.numbering.first l.cursor.settings.source
        l.cursor.location l.tokenise.value.2) := by
  generalize hrules : l.rules = rules
  generalize hahead : l.cursor.ahead = s
  -- the induction follows the pieces that the rules cut off the text ahead
  induction s using Rule.scan.induct rules generalizing h l with
  | case1 s hcut =>
    subst hrules hahead
    rw [tokenise_of_none hl hcut, Lexer.tokenise_of_none hcut, withLexer_self hl]
    rfl
  | case2 s piece rest hcut ih =>
    subst hrules hahead
    have hne : h.view.ahead ≠ [] := by
      rw [view_of_lexer? hl]
      exact (Rule.of_cut?_eq_some hcut).1
    rw [tokenise_of_some (moves_of_lexer? hl) hne (next_of_some hl hcut),
      ih (lexer?_withLexer hl (l.moved piece.2 rest)) rfl rfl, Lexer.tokenise_of_some hcut,
      withLexer_withLexer, names_withLexer]
    simp only [Except.map, Token.layOut, Piece.value_token]
    rfl

end Host

end TokenSpans
