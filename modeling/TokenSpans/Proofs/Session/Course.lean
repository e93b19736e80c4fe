import TokenSpans.Proofs.Advancing
import TokenSpans.Session

/-!
# The course of a session

A session that does not start anew stays on one host, and whatever is asked of it, the host has only
moved on afterwards and the markers that were set are kept. `Proceeds` says so of one call, with all
that a call can do to the markers, and `Later` of any number of calls.

So no marker starts behind the host (`Sound`), whenever one looks. That is the invariant under which
no span runs backwards, and every call keeps it (`step_proceeds`, `reached_sound`).

Everything later is said about two moments of one session, so what has to be known of a call
is only what survives all further calls: that the cursor inside reaches where it stands
afterwards, and that the list of markers is extended at its end. Both compose. What a call
yields, what is heard of it and what becomes of the items is left out of `Proceeds`, and the
modules that need it look at the calls again.

Starting anew is excluded throughout. It puts another text in the place of the first, and a
marker from the first text may well start behind the new host. When it is then refused is
said in `TokenSpans.Proofs.Session.Attaching`, which supposes nothing about where a marker
came from.
-/

namespace TokenSpans

/-! ## The cursor inside

Calls that change settings or read text act on the cursor inside and put it back, however
many trackings are around it; calls on the lexer do the same with the lexer. What was put in
is what one finds, and the host is seen at the place of the cursor, so nothing below has to
go through trackings again. -/

namespace Host

variable {h : Host} {l : Lexer}

/-- What was put inside is found inside. -/
theorem cursor_withCursor (h : Host) (c : Cursor) : (h.withCursor c).cursor = c := by
  induction h with
  | lexer l => rfl
  | chunker k => rfl
  | tracked inner name ih => exact ih

/-- A host with a lexer inside has the cursor of that lexer. -/
theorem cursor_of_lexer? (hl : h.lexer? = some l) : h.cursor = l.cursor := by
  induction h with
  | lexer k =>
    cases hl
    rfl
  | chunker c => cases hl
  | tracked inner name ih => exact ih hl

end Host

namespace Session

namespace Subject

variable {x : Subject} {l : Lexer}

/-- A subject is seen where its cursor stands. -/
theorem view_location (x : Subject) : x.view.location = x.inner.location := by
  cases x with
  | cursor c => rfl
  | host h => exact h.view_location

/-- What was put inside is found inside. -/
theorem inner_withInner (x : Subject) (c : Cursor) : (x.withInner c).inner = c := by
  cases x with
  | cursor _ => rfl
  | host h => exact h.cursor_withCursor c

/-- A subject with a lexer inside has the cursor of that lexer. -/
theorem inner_of_lexer? (hl : x.lexer? = some l) : x.inner = l.cursor := by
  cases x with
  | cursor _ => cases hl
  | host h => exact Host.cursor_of_lexer? hl

/-- With another lexer it has the cursor of that one. -/
theorem inner_withLexer (hl : x.lexer? = some l) (m : Lexer) :
    (x.withLexer m).inner = m.cursor := by
  cases x with
  | cursor _ => cases hl
  | host h => exact Host.cursor_of_lexer? (Host.lexer?_withLexer hl m)

/-- Tracking a host changes nothing about what is seen of it. -/
theorem view_of_tracked? {inner : Host} {name : String} (hx : x.tracked? = some (inner, name)) :
    inner.view = x.view := by
  unfold tracked? at hx
  split at hx
  · cases hx
    rfl
  · cases hx

end Subject

/-! ## Decorated chunks

A decorated production moves the cursor as the bare one does, since marking reads where the
cursor is and never moves it. Decorating under a list of names nests one decoration in the
other, and the induction is on the names, over any production that advances: after the first
name the production is no longer the one that cuts a chunk. -/

/-- A decorated chunk advances the cursor. -/
theorem advances_chunkUnder (names : List String) (c : Cursor) (size : Nat) :
    Advances id c (chunkUnder names c size) := by
  -- over any production, since the next decoration is put around one that is decorated
  -- already
  have hdecorated : ∀ produce : Cursor → Nat → Action (Cursor × Option Token),
      (∀ c size, Advances id c (produce c size)) → ∀ c size, Advances id c
        (names.foldl (fun produce name => Marker.wrap name Cursor.view produce) produce c size) := by
    induction names with
    | nil => exact fun _ hproduce => hproduce
    | cons name rest ih =>
      exact fun produce hproduce =>
        ih _ fun c size => (hproduce c size).around (fun _ => rfl) name
  exact hdecorated _ (fun c size => ⟨_, _, rfl, c.reaches_chunk size⟩) c size

/-- So do chunks one after the other. -/
theorem advances_chunksUnder (names : List String) (c : Cursor) (sizes : List Nat) :
    Advances id c (chunksUnder names c sizes) := by
  induction sizes generalizing c with
  | nil => exact ⟨c, [], rfl, .refl c⟩
  | cons size rest ih =>
    obtain ⟨next, token, hfirst, hreaches⟩ := advances_chunkUnder names c size
    obtain ⟨last, tokens, hrest, hreaches'⟩ := ih next
    refine ⟨last, token :: tokens, ?_, hreaches.trans hreaches'⟩
    rw [chunksUnder, Action.bind_of_ok hfirst]
    simp only [Action.bind_of_ok hrest]
    rfl

/-! ## One call

`Later` is the relation that is closed under further calls, and `Proceeds` is what one call
guarantees; the second is stronger, since it also ties a new marker to the reply that tells
of it. The host may be gone afterwards, which is why `Later.host` starts from the later host
and finds the earlier one: a host that is gone stays gone until the session starts anew.

A new marker starts where the host is seen at that moment. That alone makes the invariant go
through: what is in front of the host when it is set cannot get behind it. -/

/-- A session later on. -/
structure Later (s s' : State) : Prop where
  /-- a host that is still there was there before, and has only moved on -/
  host : ∀ x', s'.subject = some x' → ∃ x, s.subject = some x ∧ x.inner.Reaches x'.inner
  /-- no marker is forgotten -/
  markers : s.markers <+: s'.markers

namespace Later

variable {s s' s'' : State}

/-- Nothing has happened. -/
theorem refl (s : State) : Later s s where
  host x' hx' := ⟨x', hx', .refl _⟩
  markers := List.prefix_refl _

/-- What is later than something later is later. -/
theorem trans (h₁ : Later s s') (h₂ : Later s' s'') : Later s s'' where
  host x'' hx'' := by
    obtain ⟨x', hx', hreaches'⟩ := h₂.host x'' hx''
    obtain ⟨x, hx, hreaches⟩ := h₁.host x' hx'
    exact ⟨x, hx, hreaches.trans hreaches'⟩
  markers := h₁.markers.trans h₂.markers

/-- The host is seen no earlier. -/
theorem noLater (h : Later s s') {x x' : Subject} (hx : s.subject = some x)
    (hx' : s'.subject = some x') : x.view.location.NoLater x'.view.location := by
  obtain ⟨y, hy, hreaches⟩ := h.host x' hx'
  cases hx.symm.trans hy
  rw [x.view_location, x'.view_location]
  exact hreaches.noLater

end Later

/-- No marker starts behind the host. -/
def Sound (s : State) : Prop :=
  ∀ x, s.subject = some x → ∀ m ∈ s.markers, m.start.NoLater x.inner.location

/-- A reply that tells neither of a new marker nor of a span that runs backwards. -/
def Reply.Plain : Reply → Prop
  | .marked _ _ => False
  | .refused (.fault (.backwards _ _)) => False
  | _ => True

/-- What one call does: the host, if it is still there, has only moved on, and the markers are kept,
or there is one more at the place of the host, of which the reply tells. -/
inductive Proceeds (s : State) : State × Reply → Prop
  /-- no marker is set -/
  | led {s' : State} {reply : Reply}
      (host : ∀ x', s'.subject = some x' → ∃ x, s.subject = some x ∧ x.inner.Reaches x'.inner)
      (markers : s'.markers = s.markers) (plain : reply.Plain) : Proceeds s (s', reply)
  /-- a marker is set, and nothing else is done -/
  | marked {x : Subject} {m : Marker} (host : s.subject = some x)
      (start : m.start = x.view.location) :
      Proceeds s ({ s with markers := s.markers ++ [m] }, .marked s.markers.length m)

namespace Proceeds

variable {s s' : State} {reply : Reply}

/-- The host is left alone. -/
theorem stays (hsubject : s'.subject = s.subject) (hmarkers : s'.markers = s.markers)
    (hreply : reply.Plain) : Proceeds s (s', reply) := by
  refine .led (fun x' hx' => ⟨x', ?_, .refl _⟩) hmarkers hreply
  rw [← hsubject, hx']

/-- The host is led on. -/
theorem leads {x x' : Subject} (hsubject : s.subject = some x) (hsubject' : s'.subject = some x')
    (hreaches : x.inner.Reaches x'.inner) (hmarkers : s'.markers = s.markers)
    (hreply : reply.Plain) : Proceeds s (s', reply) := by
  refine .led (fun y hy => ⟨x, hsubject, ?_⟩) hmarkers hreply
  cases hsubject'.symm.trans hy
  exact hreaches

/-- The cursor inside is led on, and the host keeps it. -/
theorem leads_inner {x : Subject} {c : Cursor} (hsubject : s.subject = some x)
    (hsubject' : s'.subject = some (x.withInner c)) (hreaches : x.inner.Reaches c)
    (hmarkers : s'.markers = s.markers) (hreply : reply.Plain) : Proceeds s (s', reply) := by
  refine .leads hsubject hsubject' ?_ hmarkers hreply
  rw [x.inner_withInner]
  exact hreaches

/-- After a call it is later. -/
theorem later {result : State × Reply} (h : Proceeds s result) : Later s result.1 := by
  cases h with
  | led host markers plain => exact ⟨host, markers ▸ List.prefix_refl _⟩
  | marked host start => exact ⟨fun x' hx' => ⟨x', hx', .refl _⟩, List.prefix_append ..⟩

/-- No call is refused because a span runs backwards. -/
theorem not_backwards {result : State × Reply} (h : Proceeds s result) (start stop : Nat) :
    result.2 ≠ .refused (.fault (.backwards start stop)) := by
  cases h with
  | led host markers plain =>
    rintro rfl
    exact plain
  | marked host start => exact Reply.noConfusion

/-- Inversion for a reply that tells of a new marker. -/
theorem of_marked {result : State × Reply} (h : Proceeds s result) {index : Nat} {m : Marker}
    (hreply : result.2 = .marked index m) :
    index = s.markers.length ∧ result.1.markers = s.markers ++ [m] ∧
      ∃ x, s.subject = some x ∧ m.start = x.view.location := by
  cases h with
  | led host markers plain =>
    cases hreply
    exact absurd plain id
  | marked host start =>
    cases hreply
    exact ⟨rfl, rfl, _, host, start⟩

/-- No call leaves a marker behind the host. -/
theorem sound {result : State × Reply} (h : Proceeds s result) (hsound : Sound s) :
    Sound result.1 := by
  intro x' hx' m hm
  cases h with
  | led host markers plain =>
    obtain ⟨x, hx, hreaches⟩ := host x' hx'
    rw [markers] at hm
    exact (hsound x hx m hm).trans hreaches.noLater
  | marked host start =>
    rcases List.mem_append.mp hm with hm | hm
    · exact hsound x' hx' m hm
    · -- the new marker starts where the host stands
      cases host.symm.trans hx'
      rw [List.mem_singleton.mp hm, start, Subject.view_location]
      exact .refl _

end Proceeds

/-! ## Every call

The calls fall into a few groups: those that are refused, that change the cursor inside,
that work on the lexer or on the host, that set a marker. Each group has one lemma, named
after the definition that serves it, and `stepOn_proceeds` goes through the calls and says
to which group each of them belongs.

Soundness is needed for three calls only, those that complete a marker. Under it they cannot
come to a span that runs backwards, and that is the one refusal a plain reply must not tell
of. -/

/-- A production that comes to a value hands it on. -/
theorem production_of_ok {α : Type} {s : State} {work : Action α} {a : α}
    (h : work.value = .ok a) (after : α → State × Reply) :
    (production s work after).value = after a := by
  simp only [production, Traced.bind_value, Action.outcome, h]
  rfl

section

variable {s : State} {x : Subject}

/-- A call that is refused leaves all as it was. -/
theorem refuse_proceeds (s : State) {r : Refusal} (hr : (Reply.refused r).Plain) :
    Proceeds s (refuse s r).value :=
  .stays rfl rfl hr

/-- A call that changes the cursor inside leads it on, if the change does. -/
theorem adjust_proceeds (hx : s.subject = some x) {f : Cursor → Cursor}
    (hf : ∀ c : Cursor, c.Reaches (f c)) : Proceeds s (adjust s x f).value :=
  .leads_inner hx rfl (hf x.inner) rfl trivial

/-- A call on the lexer inside leads the session on, if the work does. -/
theorem onLexer_proceeds {α : Type} (hx : s.subject = some x)
    {work : Lexer → Traced (Lexer × α)} {yielded : α → List Token} {reply : α → Reply}
    (hwork : ∀ l : Lexer, l.cursor.Reaches (work l).value.1.cursor)
    (hreply : ∀ a, (reply a).Plain) : Proceeds s (onLexer s x work yielded reply).value := by
  rw [onLexer]
  cases hl : x.lexer? with
  | none => exact refuse_proceeds s trivial
  | some l =>
    refine .leads hx rfl ?_ rfl (hreply _)
    rw [Subject.inner_of_lexer? hl, Subject.inner_withLexer hl]
    exact hwork l

/-- A call on the host leads the session on, if the work advances. -/
theorem onHost_proceeds {α : Type} (hx : s.subject = some x)
    {work : Host → Action (Host × α)} {yielded : α → List Token} {reply : α → Reply}
    (hwork : ∀ h, Advances Host.cursor h (work h)) (hreply : ∀ a, (reply a).Plain) :
    Proceeds s (onHost s x work yielded reply).value := by
  cases x with
  | cursor c => exact refuse_proceeds s trivial
  | host h =>
    obtain ⟨next, a, hvalue, hreaches⟩ := hwork h
    rw [onHost, production_of_ok hvalue]
    exact .leads hx rfl hreaches rfl (hreply a)

/-- A marker is set where the host is seen. -/
theorem setMarker_proceeds (hx : s.subject = some x) {view : View} (hview : view = x.view)
    (name : String) : Proceeds s (setMarker s view name).value := by
  subst hview
  exact .marked hx rfl

/-- Tracking moves nothing. A host without a role is lost by it. -/
theorem track_proceeds (hx : s.subject = some x) (name : String) :
    Proceeds s (stepOn s x (.track name)).value := by
  cases x with
  | cursor c => exact refuse_proceeds s trivial
  | host h =>
    simp only [stepOn]
    split
    · cases hrole : h.view.role with
      | none =>
        -- the host is refused, and no longer there
        have hvalue : (h.track name).value = .error .noRole := by
          rw [Host.track, hrole]
          rfl
        simp only [Traced.bind_value, Action.outcome, hvalue]
        exact .led (fun x' hx' => nomatch hx') rfl trivial
      | some role =>
        have hvalue : (h.track name).value = .ok (.tracked h name) := by
          rw [Host.track, hrole]
          rfl
        simp only [Traced.bind_value, Action.outcome, hvalue]
        exact .leads hx rfl (.refl _) rfl trivial
    · exact refuse_proceeds s trivial

/-- A marker is set, or the call is refused for want of a name. -/
theorem mark_proceeds (hx : s.subject = some x) (name : MarkName) :
    Proceeds s (stepOn s x (.mark name)).value := by
  simp only [stepOn]
  split
  · exact setMarker_proceeds hx rfl _
  · exact setMarker_proceeds hx rfl _
  · rename_i htracked
    exact setMarker_proceeds hx (Subject.view_of_tracked? htracked) _
  · rename_i htracked
    exact setMarker_proceeds hx (Subject.view_of_tracked? htracked) _
  · exact refuse_proceeds s trivial
  · exact refuse_proceeds s trivial

/-- A marker of a sound session starts no later than the host is seen. -/
theorem Sound.offset_le (hsound : Sound s) (hx : s.subject = some x) {index : Nat} {m : Marker}
    (hm : s.markers[index]? = some m) : m.start.offset ≤ x.view.location.offset := by
  rw [x.view_location]
  exact (hsound x hx m (List.mem_of_getElem? hm)).offset

/-- Tokenising leads the session on, marked or not. -/
theorem tokenise_proceeds (hx : s.subject = some x) (route : Route) :
    Proceeds s (stepOn s x (.tokenise route)).value := by
  have hdirect : Proceeds s (onLexer s x Lexer.tokenise id .tokens).value :=
    onLexer_proceeds hx Lexer.reaches_tokenise fun _ => trivial
  have hmarked : Proceeds s (onHost s x Host.tokenise id .tokens).value :=
    onHost_proceeds hx Host.advances_tokenise fun _ => trivial
  cases route with
  | direct => exact hdirect
  | marked =>
    simp only [stepOn]
    split
    · exact refuse_proceeds s trivial
    · exact hdirect
    · split
      · exact hmarked
      · exact refuse_proceeds s trivial

/-- **A call leads its session on**, unless it starts the session anew. -/
theorem stepOn_proceeds (hsound : Sound s) (hx : s.subject = some x) {call : Call}
    (hcall : ∀ setup settings text, call ≠ .restart setup settings text) :
    Proceeds s (stepOn s x call).value := by
  cases call with
  | restart setup settings text => exact absurd rfl (hcall setup settings text)
  | intoLexer =>
    cases x with
    | cursor c =>
      exact .leads hx rfl (c.reaches_perform (.setRole (some .lexer))) rfl trivial
    | host h => exact refuse_proceeds s trivial
  | track name => exact track_proceeds hx name
  | next route =>
    cases route with
    | direct => exact onLexer_proceeds hx Lexer.reaches_next fun _ => trivial
    | marked => exact onHost_proceeds hx Host.advances_next fun _ => trivial
  | tryKind route kind =>
    cases route with
    | direct => exact onLexer_proceeds hx (fun l => l.reaches_tryKind kind) fun _ => trivial
    | marked => exact onHost_proceeds hx (fun h => h.advances_tryKind kind) fun _ => trivial
  | tokenise route => exact tokenise_proceeds hx route
  | addRule rule =>
    simp only [stepOn]
    split
    · exact refuse_proceeds s trivial
    · rename_i l hl
      refine .leads hx rfl ?_ rfl trivial
      rw [Subject.inner_of_lexer? hl, Subject.inner_withLexer hl]
      exact .refl _
  | kinds =>
    simp only [stepOn]
    split
    · exact refuse_proceeds s trivial
    · exact .stays rfl rfl trivial
  | dumpLexer =>
    simp only [stepOn]
    split
    · exact refuse_proceeds s trivial
    · exact .stays rfl rfl trivial
  | read bytes => exact .leads_inner hx rfl (x.inner.reaches_read bytes) rfl trivial
  | readText => exact .stays rfl rfl trivial
  | ahead => exact .stays rfl rfl trivial
  | isDone => exact .stays rfl rfl trivial
  | settings => exact .stays rfl rfl trivial
  | dumpCursor => exact .stays rfl rfl trivial
  | setSource source => exact adjust_proceeds hx fun c => c.reaches_perform (.setSource source)
  | setAnnounces on => exact adjust_proceeds hx fun c => c.reaches_perform (.setAnnounces on)
  | setObserver observer =>
    exact adjust_proceeds hx fun c => c.reaches_perform (.setObserver observer)
  | setRole role => exact adjust_proceeds hx fun c => c.reaches_perform (.setRole role)
  | look => exact .stays rfl rfl trivial
  | mark name => exact mark_proceeds hx name
  | spanTo marker =>
    simp only [stepOn]
    split
    · exact refuse_proceeds s trivial
    · rename_i m hm
      rw [Marker.spanTo_value (hsound.offset_le hx hm)]
      exact .stays rfl rfl trivial
  | attach marker index =>
    simp only [stepOn]
    split
    · exact refuse_proceeds s trivial
    · exact refuse_proceeds s trivial
    · rename_i m item hm _
      rw [production_of_ok (Marker.attach_value item (hsound.offset_le hx hm))]
      exact .stays rfl rfl trivial
  | close marker index =>
    simp only [stepOn]
    split
    · exact refuse_proceeds s trivial
    · exact refuse_proceeds s trivial
    · rename_i m item hm _
      rw [production_of_ok (Marker.close_value item (hsound.offset_le hx hm))]
      exact .stays rfl rfl trivial
  | keep item => exact .stays rfl rfl trivial
  | item index =>
    simp only [stepOn]
    split
    · exact refuse_proceeds s trivial
    · exact .stays rfl rfl trivial
  | get index name =>
    simp only [stepOn]
    split
    · exact refuse_proceeds s trivial
    · exact .stays rfl rfl trivial
  | wrapped names sizes =>
    obtain ⟨next, tokens, hvalue, hreaches⟩ := advances_chunksUnder names x.inner sizes
    simp only [stepOn]
    rw [production_of_ok hvalue]
    exact .leads_inner hx rfl hreaches rfl trivial

end

/-- What can still be done on a session whose host is gone leaves the markers alone. -/
theorem stepGone_proceeds (s : State) {call : Call}
    (hcall : ∀ setup settings text, call ≠ .restart setup settings text) :
    Proceeds s (stepGone s call).value := by
  unfold stepGone
  split
  · exact absurd rfl (hcall _ _ _)
  · exact .stays rfl rfl trivial
  · split
    · exact refuse_proceeds s trivial
    · exact .stays rfl rfl trivial
  · split
    · exact refuse_proceeds s trivial
    · exact .stays rfl rfl trivial
  · refine refuse_proceeds s ?_
    split
    · exact trivial
    · exact trivial

/-- **Every call leads its session on**, whether the host is still there or gone. -/
theorem step_proceeds {s : State} (hsound : Sound s) {call : Call}
    (hcall : ∀ setup settings text, call ≠ .restart setup settings text) :
    Proceeds s (step s call).value := by
  rw [step]
  split
  · rename_i x hx
    exact stepOn_proceeds hsound hx hcall
  · exact stepGone_proceeds s hcall

/-! ## Many calls

A moment of a session is the number of calls made so far. `reached` runs the calls up to
there, and `replyTo?` is the answer to the next one; that the two belong together
(`replyTo?_eq`) lets statements about a whole run be made at single moments. Past the last
call nothing changes, so that no statement has to suppose that a moment is within the list.

The invariant is carried from one moment to the next by `Proceeds.sound`, and with it in
hand every moment gets its `Proceeds`, from which `Later` follows for any two of them. -/

/-- The session after the first `n` of the calls. -/
def reached (s : State) (calls : List Call) (n : Nat) : State :=
  (run s (calls.take n)).value.1

/-- The reply to the call at position `n`. -/
def replyTo? (s : State) (calls : List Call) (n : Nat) : Option Reply :=
  (run s calls).value.2[n]?

/-- Each call goes on from where the ones before it have led. -/
theorem reached_succ {s : State} {calls : List Call} {n : Nat} {call : Call}
    (h : calls[n]? = some call) :
    reached s calls (n + 1) = (step (reached s calls n) call).value.1 := by
  induction n generalizing s calls with
  | zero =>
    cases calls with
    | nil => cases h
    | cons first rest =>
      cases h
      rfl
  | succ n ih =>
    cases calls with
    | nil => cases h
    | cons first rest => exact ih h

/-- Behind the last call nothing changes. -/
theorem reached_succ_of_none {s : State} {calls : List Call} {n : Nat} (h : calls[n]? = none) :
    reached s calls (n + 1) = reached s calls n := by
  have hlength := List.getElem?_eq_none_iff.mp h
  rw [reached, reached, List.take_of_length_le hlength,
    List.take_of_length_le (Nat.le_succ_of_le hlength)]

/-- Each reply is that of its call to the session reached by then. -/
theorem replyTo?_eq (s : State) (calls : List Call) (n : Nat) :
    replyTo? s calls n = calls[n]?.map fun call => (step (reached s calls n) call).value.2 := by
  induction calls generalizing s n with
  | nil => rfl
  | cons first rest ih =>
    cases n with
    | zero => rfl
    | succ n => exact ih (step s first).value.1 n

section

variable {s : State} {calls : List Call}
  (hcalls : ∀ setup settings text, Call.restart setup settings text ∉ calls)

include hcalls

/-- No call of these starts the session anew. -/
theorem ne_restart {n : Nat} {call : Call} (h : calls[n]? = some call) :
    ∀ setup settings text, call ≠ .restart setup settings text := by
  rintro setup settings text rfl
  exact hcalls setup settings text (List.mem_of_getElem? h)

/-- At no time does a marker start behind the host. -/
theorem reached_sound (hsound : Sound s) (n : Nat) : Sound (reached s calls n) := by
  induction n with
  | zero => exact hsound
  | succ n ih =>
    cases h : calls[n]? with
    | none =>
      rw [reached_succ_of_none h]
      exact ih
    | some call =>
      rw [reached_succ h]
      exact (step_proceeds ih (ne_restart hcalls h)).sound ih

/-- Further calls lead a session on. -/
theorem reached_later (hsound : Sound s) {n n' : Nat} (hle : n ≤ n') :
    Later (reached s calls n) (reached s calls n') := by
  induction hle with
  | refl => exact .refl _
  | step hle ih =>
    rename_i n'
    refine ih.trans ?_
    cases h : calls[n']? with
    | none =>
      rw [reached_succ_of_none h]
      exact .refl _
    | some call =>
      rw [reached_succ h]
      exact (step_proceeds (reached_sound hcalls hsound n') (ne_restart hcalls h)).later

/-- Inversion for a reply: its call was there, and went on from the session reached by then. -/
theorem of_replyTo? (hsound : Sound s) {n : Nat} {reply : Reply}
    (h : replyTo? s calls n = some reply) :
    ∃ call, calls[n]? = some call ∧ (step (reached s calls n) call).value.2 = reply ∧
      Proceeds (reached s calls n) (step (reached s calls n) call).value := by
  rw [replyTo?_eq] at h
  obtain ⟨call, hcall, hreply⟩ := Option.map_eq_some_iff.mp h
  exact ⟨call, hcall, hreply,
    step_proceeds (reached_sound hcalls hsound n) (ne_restart hcalls hcall)⟩

end

end Session

end TokenSpans
