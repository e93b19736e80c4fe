import TokenSpans.Proofs.Advancing
import TokenSpans.Proofs.Surrounding

/-!
# Tracked hosts

Tracking a host under names is surrounding its productions with markers of these names
(`Host.tracked_production`), so all that is known of markers is known of tracked hosts at any depth.
For a lexer this is an equation that gives the value and the effects of every production
(`Host.next_tracking`, `Host.tryKind_tracking`), since a lexer does one of two things
(`Lexer.Produces`): it reads a piece of the text ahead and yields it, or it stays where it is.

Tokenising asks for one token after the other. `Host.Yields` is such a course with all that is heard
on the way, and what holds of every production on it holds of the whole
(`Host.Yields.of_next`).

Two inversions carry the module, one for a single production and one for a run. `Produces`
lists the ways in which a lexer produces, and everything that is preserved by a production
is read off its two cases. `Yields` and `Course` are the runs of a host and of a tracked
lexer as inductive predicates, with the effects in them, so that facts about runs are
inductions over constructors and the well-founded definition of `tokenise` is opened once.
-/

namespace TokenSpans

/-! ## Productions of a lexer

There are several ways to yield nothing, and they differ in what is said. They are one case
here, as a list of reports of the lexer's own, since nothing that follows depends on the
words. -/

namespace Lexer

/-- What is seen of a lexer is what is seen of its cursor. -/
def view (l : Lexer) : View :=
  l.cursor.view

/-- The span between where a lexer stands and where another one stands, with the label of that
one. -/
def spanTo (l l' : Lexer) : Span :=
  ⟨l.view.location, l'.view.location, l'.view.source⟩

/-- What a production of a lexer comes to: it says something and stays where it is, or it takes a
piece of the text ahead and says so. -/
inductive Produces (l : Lexer) : Traced (Lexer × Option Token) → Prop
  /-- nothing is yielded, and what is said comes from the lexer -/
  | nothing (reports : List Report) (part : ∀ r ∈ reports, r.part = .lexer) :
      Produces l ⟨(l, none), reports.map Effect.report⟩
  /-- a piece is taken, which is said twice: it was read, and it was produced -/
  | token (piece : Piece) (rest : List Char) (ahead : l.cursor.ahead = piece.2 ++ rest) :
      Produces l ⟨(l.moved piece.2 rest, some piece.token),
        [.report (.read (Text.byteLength piece.2) (l.moved piece.2 rest).cursor.location),
          .report (.produced piece.1 (String.ofList piece.2)
            (l.moved piece.2 rest).cursor.location.line
            (l.moved piece.2 rest).cursor.location.column)]⟩

/-- A rule takes the piece that its number of bytes covers. -/
theorem produces_take (l : Lexer) (r : Rule) (bytes : Nat) :
    l.Produces (do
      let (next, token) ← l.take r bytes
      return (next, some token)) :=
  .token (r.kind, (Text.coverBytes bytes l.cursor.ahead).1)
    (Text.coverBytes bytes l.cursor.ahead).2 (Text.coverBytes_append bytes l.cursor.ahead).symm

/-- A lexer that says one thing and yields nothing. -/
theorem produces_report (l : Lexer) {r : Report} (hr : r.part = .lexer) :
    l.Produces (do
      Traced.report r
      return (l, none)) := by
  refine .nothing [r] fun r' hr' => ?_
  rw [List.mem_singleton.mp hr', hr]

/-- The next token is such a production. -/
theorem produces_next (l : Lexer) : l.Produces l.next := by
  rw [next]
  split
  · exact l.produces_report rfl
  · split
    · exact l.produces_report rfl
    · exact l.produces_take _ _

/-- The token of a kind is such a production. -/
theorem produces_tryKind (l : Lexer) (kind : String) : l.Produces (l.tryKind kind) := by
  rw [tryKind]
  split
  · exact l.produces_report rfl
  · split
    · exact .nothing [] fun _ hr => absurd hr List.not_mem_nil
    · exact l.produces_take _ _

namespace Produces

variable {l : Lexer} {work : Traced (Lexer × Option Token)}

/-- A token of a lexer carries no spans. -/
theorem bare (h : l.Produces work) : ∀ t ∈ work.value.2, t = .bare t.kind t.value := by
  cases h with
  | nothing reports part =>
    intro t ht
    cases ht
  | token piece rest ahead =>
    intro t ht
    obtain rfl := Option.some.inj ht
    rfl

/-- A lexer that yields nothing is left as it is. -/
theorem eq_of_none (h : l.Produces work) (hnone : work.value.2 = none) : work.value.1 = l := by
  cases h with
  | nothing reports part => rfl
  | token piece rest ahead => cases hnone

/-- Whoever is told of spans is told so behind a production, too. -/
theorem observer_eq (h : l.Produces work) : work.value.1.view.observer = l.view.observer := by
  cases h with
  | nothing reports part => rfl
  | token piece rest ahead => rfl

/-- A lexer does not go back. -/
theorem offset_le (h : l.Produces work) :
    l.view.location.offset ≤ work.value.1.view.location.offset := by
  cases h with
  | nothing reports part => exact Nat.le_refl _
  | token piece rest ahead => exact Location.offset_le_advance ..

/-- All that is heard of a lexer are reports, and none of them is about marking. -/
theorem effects (h : l.Produces work) :
    ∀ e ∈ work.effects, ∃ r : Report, e = .report r ∧ r.part ≠ .position := by
  cases h with
  | nothing reports part =>
    intro e he
    obtain ⟨r, hr, rfl⟩ := List.mem_map.mp he
    refine ⟨r, rfl, ?_⟩
    rw [part r hr]
    exact Part.noConfusion
  | token piece rest ahead =>
    intro e he
    rcases List.mem_cons.mp he with rfl | he
    · exact ⟨_, rfl, Part.noConfusion⟩
    · obtain rfl := List.mem_singleton.mp he
      exact ⟨_, rfl, Part.noConfusion⟩

/-- A bare lexer tells nobody. -/
theorem notices (h : l.Produces work) : work.notices = [] := by
  refine List.filterMap_eq_nil_iff.mpr fun e he => ?_
  obtain ⟨r, rfl, -⟩ := h.effects e he
  rfl

end Produces

end Lexer

namespace Host

/-! ## Tracking a host

Tracking adds a constructor around the host, or refuses. As the role is that of the inside,
it is refused under every name or under none. -/

/-- Tracks a host under several names, one after the other. -/
def trackAll (h : Host) : List String → Action Host
  | [] => pure h
  | name :: rest => do
    let h ← h.track name
    h.trackAll rest

/-- A host that declares a role is tracked, and that is heard. -/
theorem track_of_role {h : Host} {role : Role} (hrole : h.view.role = some role) (name : String) :
    h.track name = ⟨.ok (tracked h name), [.report (.installed role name)]⟩ := by
  rw [track, hrole]
  rfl

/-- A host that declares no role is refused. -/
theorem track_of_noRole {h : Host} (hrole : h.view.role = none) (name : String) :
    h.track name = ⟨.error .noRole, [.report .refused]⟩ := by
  rw [track, hrole]
  rfl

/-- Tracking puts a host under the names and does nothing to it; it is refused at the first name
where no role is declared. -/
theorem trackAll_value (h : Host) (names : List String) :
    (h.trackAll names).value =
      if names ≠ [] ∧ h.view.role = none then .error .noRole else .ok (names.foldl tracked h) := by
  induction names generalizing h with
  | nil => exact (if_neg fun hnone => hnone.1 rfl).symm
  | cons name rest ih =>
    cases hrole : h.view.role with
    | none =>
      rw [if_pos ⟨List.cons_ne_nil name rest, rfl⟩, trackAll,
        Action.bind_of_error (congrArg Action.value (track_of_noRole hrole name))]
    | some role =>
      have hinner : (tracked h name).view.role = some role := hrole
      have hrest : ¬ (rest ≠ [] ∧ (tracked h name).view.role = none) := by
        rintro ⟨-, hnone⟩
        exact Option.some_ne_none role (hinner.symm.trans hnone)
      rw [if_neg (fun hnone => Option.some_ne_none role hnone.2), trackAll,
        Action.bind_of_ok (congrArg Action.value (track_of_role hrole name))]
      exact (ih (tracked h name)).trans (if_neg hrest)

/-- What is seen of a tracked lexer is what is seen of the lexer. -/
theorem view_tracking (l : Lexer) (names : List String) : (tracking l names).view = l.view := by
  have hview : ∀ h : Host, (names.foldl tracked h).view = h.view := by
    induction names with
    | nil => exact fun _ => rfl
    | cons name rest ih => exact fun h => ih (tracked h name)
  exact hview (lexer l)

/-- A lexer moves on with every token, tracked or not. -/
theorem moves_tracking (l : Lexer) (names : List String) : (tracking l names).moves = true := by
  have hmoves : ∀ h : Host, (names.foldl tracked h).moves = h.moves := by
    induction names with
    | nil => exact fun _ => rfl
    | cons name rest ih => exact fun h => ih (tracked h name)
  exact hmoves (lexer l)

/-! ## Productions of a tracked host

The equation is proved for any production that unfolds to a marker around the production
inside, which is true of the next token and of the token of a kind by definition. Trackings
from a list of names become markers from the same list, and then the lemma on several
markers applies. -/

/-- A production of a tracked host is that of the host inside, surrounded by markers. -/
theorem tracked_production {production : Host → Action (Host × Option Token)}
    (h : ∀ inner name, production (tracked inner name) =
      (fun r => (tracked r.1 name, r.2)) <$> Marker.around name view inner (production inner))
    (names : List String) (inner : Host) :
    production (names.foldl tracked inner) =
      (fun r => (names.foldl tracked r.1, r.2)) <$>
        Marker.aroundAll names view inner (production inner) := by
  induction names generalizing inner with
  | nil => exact (id_map _).symm
  | cons name rest ih =>
    rw [List.foldl_cons, ih, h, Marker.aroundAll_map (fun x => tracked x name) (fun _ => rfl),
      ← comp_map]
    rfl

/-- What a lexer tracked under names makes of a production of the lexer. -/
def surround (l : Lexer) (names : List String) (work : Traced (Lexer × Option Token)) :
    Action (Host × Option Token) where
  value := .ok (tracking work.value.1 names,
    work.value.2.map (Token.mark names (l.spanTo work.value.1)))
  effects := Marker.openings names l.view.location ++ work.effects ++
    Marker.endings names l.view.location work.value.1.view work.value.2

/-- Surrounding a production of a lexer by markers. -/
theorem aroundAll_lexer {l : Lexer} {work : Traced (Lexer × Option Token)} (h : l.Produces work)
    (names : List String) :
    (fun r => (names.foldl tracked r.1, r.2)) <$>
        Marker.aroundAll names view (lexer l)
          ((fun r => (lexer r.1, r.2)) <$> (work : Action (Lexer × Option Token))) =
      surround l names work := by
  have hvalue : (work : Action (Lexer × Option Token)).value = .ok (work.value.1, work.value.2) :=
    rfl
  have hview : ∀ l : Lexer, view (lexer l) = l.view := fun _ => rfl
  rw [Marker.aroundAll_map lexer hview, Marker.aroundAll_eq names hvalue fun _ _ => h.offset_le,
    Action.map_eq, Action.map_eq]
  rfl

/-- The next token of a tracked lexer, with all that is heard. -/
theorem next_tracking (l : Lexer) (names : List String) :
    (tracking l names).next = surround l names l.next := by
  rw [← aroundAll_lexer l.produces_next]
  exact tracked_production (fun _ _ => rfl) names (lexer l)

/-- The token of a kind of a tracked lexer, with all that is heard. -/
theorem tryKind_tracking (l : Lexer) (names : List String) (kind : String) :
    (tracking l names).tryKind kind = surround l names (l.tryKind kind) := by
  rw [← aroundAll_lexer (l.produces_tryKind kind)]
  exact tracked_production (fun _ _ => rfl) names (lexer l)

/-! ## All tokens of a host

The constructors are the four ways in which the recursion of `tokenise` may go, but for a
fault, which no production comes to. The third occurs with a chunker that has pieces of size
zero and with nothing else. -/

/-- Tokens that a host yields one after the other until there is no text ahead or nothing is
yielded, with all that is heard on the way and the host that is left. -/
inductive Yields : Host → List Token → List Effect → Host → Prop
  /-- the end of the text is reached -/
  | ended {h : Host} (ahead : h.view.ahead = []) : Yields h [] [] h
  /-- there is text left, but nothing is yielded -/
  | stopped {h next : Host} (ahead : h.view.ahead ≠ [])
      (production : h.next.value = .ok (next, none)) : Yields h [] h.next.effects next
  /-- a host that does not move is left after one token -/
  | stayed {h next : Host} {t : Token} (ahead : h.view.ahead ≠ [])
      (production : h.next.value = .ok (next, some t)) (stays : h.moves = false) :
      Yields h [t] h.next.effects next
  /-- a token is yielded, and the course goes on -/
  | went {h next last : Host} {t : Token} {tokens : List Token} {effects : List Effect}
      (ahead : h.view.ahead ≠ []) (production : h.next.value = .ok (next, some t))
      (moves : h.moves = true) (rest : Yields next tokens effects last) :
      Yields h (t :: tokens) (h.next.effects ++ effects) last

/-- Tokenising is such a course. -/
theorem yields_tokenise (h : Host) :
    ∃ last tokens, h.tokenise.value = .ok (last, tokens) ∧
      Yields h tokens h.tokenise.effects last := by
  fun_induction tokenise h with
  | case1 h hend => exact ⟨h, [], rfl, .ended (List.isEmpty_iff.mp hend)⟩
  | case2 h _ step fault hstep => exact absurd hstep (h.advances_next.ne_error fault)
  | case3 h hne step next hstep =>
    exact ⟨next, [], rfl, .stopped (fun hend => hne (List.isEmpty_iff.mpr hend)) hstep⟩
  | case4 h hne step next token hstep hmoves rest ih =>
    obtain ⟨last, tokens, hrest, hyields⟩ := ih
    refine ⟨last, token :: tokens, ?_,
      .went (fun hend => hne (List.isEmpty_iff.mpr hend)) hstep hmoves hyields⟩
    rw [hrest]
    rfl
  | case5 h hne step next token hstep hmoves =>
    exact ⟨next, [token], rfl, .stayed (fun hend => hne (List.isEmpty_iff.mpr hend)) hstep
      (Bool.eq_false_iff.mpr hmoves)⟩

/-- **What is heard of every production is heard of the whole course**: where each production is
heard as its token says, and nothing is heard of one that yields none, the course is heard as its
tokens say. `holds` is what the hosts on the course have in common, and `good` what the tokens
have. -/
theorem Yields.of_next {β : Type} {heard : Effect → Option β} {say : Token → List β}
    {holds : Host → Prop} {good : Token → Prop}
    (hstep : ∀ h next yielded, holds h → h.next.value = .ok (next, yielded) →
      holds next ∧ (∀ t ∈ yielded, good t) ∧
        h.next.effects.filterMap heard = yielded.toList.flatMap say)
    {h last : Host} {tokens : List Token} {effects : List Effect}
    (hyields : Yields h tokens effects last) (hholds : holds h) :
    holds last ∧ (∀ t ∈ tokens, good t) ∧ effects.filterMap heard = tokens.flatMap say := by
  induction hyields with
  | ended ahead => exact ⟨hholds, List.forall_mem_nil good, rfl⟩
  | stopped ahead production =>
    obtain ⟨hnext, -, heffects⟩ := hstep _ _ _ hholds production
    exact ⟨hnext, List.forall_mem_nil good, heffects⟩
  | stayed ahead production stays =>
    obtain ⟨hnext, hgood, heffects⟩ := hstep _ _ _ hholds production
    exact ⟨hnext, List.forall_mem_singleton.mpr (hgood _ rfl), heffects⟩
  | went ahead production moves rest ih =>
    obtain ⟨hnext, hgood, heffects⟩ := hstep _ _ _ hholds production
    obtain ⟨hlast, hrest, hmore⟩ := ih hnext
    refine ⟨hlast, List.forall_mem_cons.mpr ⟨hgood _ rfl, hrest⟩, ?_⟩
    rw [List.filterMap_append, heffects, hmore, Option.toList_some, List.flatMap_singleton,
      List.flatMap_cons]

/-! ## All tokens of a tracked lexer

For a tracked lexer the hosts on the way are lexers under the same names, and the
productions are known. `Course` is `Yields` with that put in: it speaks of lexers only, and
its effects are those of surrounded productions. -/

/-- The run of a lexer under markers: tokens that it yields one after the other, each marked under
the names, until there is no text ahead or nothing is yielded, with all that is heard on the way and
the lexer that is left. -/
inductive Course (names : List String) : Lexer → List Token → List Effect → Lexer → Prop
  /-- the end of the text is reached -/
  | ended {l : Lexer} (ahead : l.cursor.ahead = []) : Course names l [] [] l
  /-- no rule takes anything of what is left -/
  | stopped {l : Lexer} (ahead : l.cursor.ahead ≠ []) (production : l.next.value.2 = none) :
      Course names l [] (surround l names l.next).effects l.next.value.1
  /-- a token is yielded and marked, and the course goes on -/
  | went {l last : Lexer} {t : Token} {tokens : List Token} {effects : List Effect}
      (ahead : l.cursor.ahead ≠ []) (production : l.next.value.2 = some t)
      (rest : Course names l.next.value.1 tokens effects last) :
      Course names l (t.mark names (l.spanTo l.next.value.1) :: tokens)
        ((surround l names l.next).effects ++ effects) last

/-- Inversion for a production of a tracked lexer: it is one of the lexer, and marked. -/
theorem of_next_tracking {l : Lexer} {names : List String} {next : Host} {yielded : Option Token}
    (h : (tracking l names).next.value = .ok (next, yielded)) :
    next = tracking l.next.value.1 names ∧
      yielded = l.next.value.2.map (Token.mark names (l.spanTo l.next.value.1)) := by
  rw [next_tracking] at h
  exact Prod.mk.inj (Except.ok.inj h.symm)

/-- **A tracked lexer is tokenised as the lexer runs under markers.** -/
theorem course_tokenise (l : Lexer) (names : List String) :
    ∃ last tokens, (tracking l names).tokenise.value = .ok (tracking last names, tokens) ∧
      Course names l tokens (tracking l names).tokenise.effects last := by
  obtain ⟨last, tokens, hvalue, hyields⟩ := yields_tokenise (tracking l names)
  rw [hvalue]
  clear hvalue
  generalize (tracking l names).tokenise.effects = effects at hyields
  generalize hhost : tracking l names = h at hyields
  -- the host changes from one token to the next, but it stays a lexer tracked under the names
  induction hyields generalizing l with
  | ended ahead =>
    subst hhost
    rw [view_tracking] at ahead
    exact ⟨l, [], rfl, .ended ahead⟩
  | stopped ahead production =>
    subst hhost
    rw [view_tracking] at ahead
    obtain ⟨rfl, hnone⟩ := of_next_tracking production
    rw [next_tracking]
    exact ⟨_, [], rfl, .stopped ahead (Option.map_eq_none_iff.mp hnone.symm)⟩
  | stayed ahead production stays =>
    subst hhost
    rw [moves_tracking] at stays
    cases stays
  | went ahead production moves rest ih =>
    subst hhost
    rw [view_tracking] at ahead
    obtain ⟨rfl, hsome⟩ := of_next_tracking production
    obtain ⟨t, ht, rfl⟩ := Option.map_eq_some_iff.mp hsome.symm
    obtain ⟨last', tokens', hrest, hcourse⟩ := ih l.next.value.1 rfl
    obtain ⟨rfl, rfl⟩ := Prod.mk.inj (Except.ok.inj hrest)
    rw [next_tracking]
    exact ⟨last', _, rfl, .went ahead ht hcourse⟩

end Host

end TokenSpans
