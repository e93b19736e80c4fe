import TokenSpans.Proofs.Partition
import TokenSpans.Proofs.Session.Completing
import TokenSpans.Proofs.Telling
import TokenSpans.Proofs.Transparency

/-!
# Who is told in a session

Whatever a call of a session does, the observers are told of the markers that it completes and of
nothing else. `completed` reads these off the call and its reply, as many as are `due`, and each of
them is one notice to the observer who is there by then (`step_told`).

Who is there by then depends on the calls that say so and on no others (`tellingAfter`).

What a call completes is read off the call and its reply, and not off what was heard, so
that the two can be compared. The names under which the host marks are needed for it, and
those are known without running anything (`Subject.telling`).

As in `TokenSpans.Proofs.Session.Course` the calls fall into groups with a lemma each, and
the last theorem goes through the calls. Most of them complete nothing and are `Told.quiet`:
it has to be shown that nothing was heard, and that the same observer is there afterwards.
-/

namespace TokenSpans

namespace Session

/-! ## What a session completes

`completed` and `due` have the same shape. The first lists the completions, the second
counts them without looking at spans, by the number of tokens and of names. That both agree
says that no name was left out and none was told twice.

A function by which the session tells after a call, `tellingAfter`, is given for all calls
at once. It reads the reply, since a call that is refused changes nothing, with the one
exception of a tracking that is refused because the host has no role: then the host is gone,
and nobody is told until the session starts anew. -/

/-- Under which names the subject marks, and who is told. -/
def Subject.telling : Subject → Telling
  | cursor c => c.telling
  | host h => h.telling

/-- How the session tells, if its host is still there. -/
def State.telling? (s : State) : Option Telling :=
  s.subject.map Subject.telling

/-- The markers that a call completes, as the reply tells: one that is attached or closed, and for
each token that is yielded one for each name, if the tokens are marked. -/
def completed (markers : List Marker) (names : List String) (call : Call) (reply : Reply) :
    List Completion :=
  match reply, call with
  | .attached span item, .attach marker _ =>
    (markers[marker]?).toList.map fun m => ⟨m.name, span, HoldsSpans.spans item⟩
  | .item item, .close marker _ =>
    (markers[marker]?).toList.filterMap fun m =>
      ((HoldsSpans.spans item).get? m.name).map fun span => ⟨m.name, span, HoldsSpans.spans item⟩
  | .token t, .next .marked => t.toList.flatMap (Token.completions names)
  | .token t, .tryKind .marked _ => t.toList.flatMap (Token.completions names)
  | .tokens ts, .tokenise .marked => ts.flatMap (Token.completions names)
  | .produced ts, .wrapped names _ => (ts.filterMap id).flatMap (Token.completions names)
  | _, _ => []

/-- How many that are: one where a marker was attached or closed, and one for each name where a
token was yielded marked. -/
def due (names : List String) (call : Call) (reply : Reply) : Nat :=
  match reply, call with
  | .attached _ _, .attach _ _ => 1
  | .item _, .close _ _ => 1
  | .token t, .next .marked => t.toList.length * names.length
  | .token t, .tryKind .marked _ => t.toList.length * names.length
  | .tokens ts, .tokenise .marked => ts.length * names.length
  | .produced ts, .wrapped names _ => (ts.filterMap id).length * names.length
  | _, _ => 0

/-- The one who is told of what a call completes: decorated chunks are read off the cursor inside,
which shows its observer. -/
def listener (t : Telling) : Call → Option Observer
  | .wrapped _ _ => { t with shown := true }.listener
  | _ => t.listener

/-- How a session tells that has just been set up. -/
def Setup.telling (settings : CursorSettings) : Setup → Telling
  | chunker _ _ => ⟨[], false, settings.announces, none⟩
  | _ => ⟨[], true, settings.announces, none⟩

/-- How a session tells after a call, as the reply says. -/
def tellingAfter (held : Option Telling) : Call → Reply → Option Telling
  | .restart setup settings _, _ => some (setup.telling settings)
  | .track _, .tracked name => held.map fun t => { t with names := t.names ++ [name] }
  | .track _, .refused (.fault _) => none
  | .setAnnounces on, .done => held.map fun t => { t with announces := on }
  | .setObserver observer, .done => held.map fun t => { t with observer }
  | _, _ => held

/-- What one call tells, and how the session tells afterwards. -/
structure Told (s : State) (call : Call) (work : Traced (State × Reply)) : Prop where
  /-- one notice for each completion, to the observer there is by then -/
  notices : work.notices = s.telling?.toList.flatMap fun t =>
    (completed s.markers t.names call work.value.2).flatMap (Completion.told (listener t call))
  /-- there are as many as are due -/
  count : ∀ t, s.telling? = some t →
    (completed s.markers t.names call work.value.2).length = due t.names call work.value.2
  /-- what the observer is shown carries the span -/
  holds : ∀ t, s.telling? = some t →
    ∀ c ∈ completed s.markers t.names call work.value.2, c.Holds
  /-- who is told next depends on the call and its reply -/
  telling : work.value.1.telling? = tellingAfter s.telling? call work.value.2

/-! ## Subjects

The cursor inside decides whether anybody is told and who; the host decides under which
names, and whether the observer is seen at all. Work on the cursor inside therefore changes
who is told only through the cursor's own settings and observer, and work on the lexer
likewise. -/

end Session

namespace Host

variable {h : Host} {l : Lexer}

/-- Announcements and the observer are those of the cursor inside. -/
theorem telling_cursor (h : Host) : h.telling.announces = h.cursor.settings.announces ∧
    h.telling.observer = h.cursor.observer := by
  induction h with
  | lexer l => exact ⟨rfl, rfl⟩
  | chunker c => exact ⟨rfl, rfl⟩
  | tracked inner name ih => exact ih

/-- Another cursor inside brings its own observer, and whether it announces. -/
theorem telling_withCursor (h : Host) (c : Cursor) : (h.withCursor c).telling =
    { h.telling with announces := c.settings.announces, observer := c.observer } := by
  induction h with
  | lexer l => rfl
  | chunker k => rfl
  | tracked inner name ih => rw [withCursor, telling, ih, telling]

/-- Another lexer inside, with a cursor that tells alike, changes nothing about who is told. -/
theorem telling_withLexer (hl : h.lexer? = some l) {m : Lexer}
    (hm : m.cursor.telling = l.cursor.telling) : (h.withLexer m).telling = h.telling := by
  induction h with
  | lexer k =>
    cases hl
    exact hm
  | chunker c => cases hl
  | tracked inner name ih => rw [withLexer, telling, ih hl, telling]

end Host

namespace Session

namespace Subject

variable {x : Subject} {l : Lexer}

/-- The one whom others see on a subject is the one who is told. -/
theorem view_observer (x : Subject) : x.view.observer = x.telling.listener := by
  cases x with
  | cursor c => rfl
  | host h => exact h.view_observer

/-- Announcements and the observer are those of the cursor inside. -/
theorem telling_inner (x : Subject) : x.telling.announces = x.inner.settings.announces ∧
    x.telling.observer = x.inner.observer := by
  cases x with
  | cursor c => exact ⟨rfl, rfl⟩
  | host h => exact h.telling_cursor

/-- Another cursor inside brings its own observer, and whether it announces. -/
theorem telling_withInner (x : Subject) (c : Cursor) : (x.withInner c).telling =
    { x.telling with announces := c.settings.announces, observer := c.observer } := by
  cases x with
  | cursor _ => rfl
  | host h => exact h.telling_withCursor c

/-- Work on the cursor inside that changes neither announcements nor the observer changes nothing
about who is told. -/
theorem telling_withInner_of_eq {c : Cursor} (hc : c.telling = x.inner.telling) :
    (x.withInner c).telling = x.telling := by
  have hannounces := (congrArg Telling.announces hc).trans x.telling_inner.1.symm
  have hobserver := (congrArg Telling.observer hc).trans x.telling_inner.2.symm
  rw [telling_withInner]
  exact congrArg₂ (fun announces observer => { x.telling with announces, observer }) hannounces
    hobserver

/-- Another lexer inside, with a cursor that tells alike, changes nothing about who is told. -/
theorem telling_withLexer (hl : x.lexer? = some l) {m : Lexer}
    (hm : m.cursor.telling = l.cursor.telling) : (x.withLexer m).telling = x.telling := by
  cases x with
  | cursor _ => cases hl
  | host h => exact Host.telling_withLexer hl hm

end Subject

/-- While the host is there the session tells as it does. -/
theorem State.telling?_of_subject {s : State} {x : Subject} (hx : s.subject = some x) :
    s.telling? = some x.telling := by
  rw [telling?, hx]
  rfl

/-! ## Families of calls

The definitions behind the calls (`refuse`, `onLexer`, `onHost`, `production`) each have a
lemma that asks for what differs from call to call: what the work tells, and what
`completed`, `due` and `tellingAfter` make of the reply. For most calls these are all `rfl`,
because the three functions are defined by cases on the call.

The work on a lexer is told of by nobody, since a lexer does not mark; the work on a host
tells of each token once for each name. -/

/-- The notices of a production are those of the work. -/
theorem notices_production {α : Type} (s : State) (work : Action α) (after : α → State × Reply) :
    (production s work after).notices = work.notices := by
  obtain ⟨value, effects⟩ := work
  cases value with
  | error fault => exact congrArg (List.filterMap Effect.notice?) (List.append_nil effects)
  | ok a => exact congrArg (List.filterMap Effect.notice?) (List.append_nil effects)

/-- A production that comes to a fault is answered by it, in the session from before. -/
theorem production_of_error {α : Type} {s : State} {work : Action α} {fault : Fault}
    (h : work.value = .error fault) (after : α → State × Reply) :
    (production s work after).value = (s, .refused (.fault fault)) := by
  simp only [production, Traced.bind_value, Action.outcome, h]
  rfl

section

variable {s : State} {x : Subject} {call : Call} {work : Traced (State × Reply)}

/-- A call that completes nothing tells nobody. -/
theorem Told.quiet (hnotices : work.notices = [])
    (hcompleted : ∀ t, s.telling? = some t →
      completed s.markers t.names call work.value.2 = [] ∧ due t.names call work.value.2 = 0)
    (htelling : work.value.1.telling? = tellingAfter s.telling? call work.value.2) :
    Told s call work where
  notices := by
    rw [hnotices]
    cases ht : s.telling? with
    | none => rfl
    | some t =>
      rw [Option.toList_some, List.flatMap_singleton, (hcompleted t ht).1]
      rfl
  count t ht := by
    rw [(hcompleted t ht).1, (hcompleted t ht).2]
    rfl
  holds t ht c hc := by
    rw [(hcompleted t ht).1] at hc
    cases hc
  telling := htelling

/-- What is told where the subject is there. -/
theorem Told.of_subject (hx : s.subject = some x)
    (hnotices : work.notices = (completed s.markers x.telling.names call work.value.2).flatMap
      (Completion.told (listener x.telling call)))
    (hcount : (completed s.markers x.telling.names call work.value.2).length =
      due x.telling.names call work.value.2)
    (hholds : ∀ c ∈ completed s.markers x.telling.names call work.value.2, c.Holds)
    (htelling : work.value.1.telling? = tellingAfter s.telling? call work.value.2) :
    Told s call work := by
  have hs := State.telling?_of_subject hx
  -- the subject is there, so there is one way in which the session tells
  have hsame : ∀ t, s.telling? = some t → t = x.telling := by
    intro t ht
    exact Option.some.inj (ht.symm.trans hs)
  refine ⟨?_, ?_, ?_, htelling⟩
  · rw [hs, Option.toList_some, List.flatMap_singleton, hnotices]
  · intro t ht
    rw [hsame t ht, hcount]
  · intro t ht
    rw [hsame t ht]
    exact hholds

/-- A call that is refused tells nobody. -/
theorem refuse_told {r : Refusal}
    (hafter : tellingAfter s.telling? call (.refused r) = s.telling?) :
    Told s call (refuse s r) :=
  .quiet rfl (fun _ _ => ⟨rfl, rfl⟩) hafter.symm

/-- With another subject that tells alike the session tells as before. -/
theorem telling?_on (hx : s.subject = some x) {x' : Subject} (h : x'.telling = x.telling) :
    (s.on x').telling? = s.telling? := by
  rw [State.telling?_of_subject hx, ← h]
  rfl

/-- A call on the lexer inside tells nobody, if the work does not. -/
theorem onLexer_told {α : Type} (hx : s.subject = some x)
    {work : Lexer → Traced (Lexer × α)} {yielded : α → List Token} {reply : α → Reply}
    (hnotices : ∀ l : Lexer, (work l).notices = [])
    (htelling : ∀ l : Lexer, (work l).value.1.cursor.telling = l.cursor.telling)
    (hcompleted : ∀ a, completed s.markers x.telling.names call (reply a) = [] ∧
      due x.telling.names call (reply a) = 0)
    (hafter : ∀ reply, tellingAfter s.telling? call reply = s.telling?) :
    Told s call (onLexer s x work yielded reply) := by
  rw [onLexer]
  cases hl : x.lexer? with
  | none => exact refuse_told (hafter _)
  | some l =>
    refine .quiet ?_ ?_ ?_
    · exact (congrArg (List.filterMap Effect.notice?) (List.append_nil _)).trans (hnotices l)
    · intro t ht
      obtain rfl := Option.some.inj ((State.telling?_of_subject hx).symm.trans ht)
      exact hcompleted _
    · rw [hafter]
      exact telling?_on hx (Subject.telling_withLexer hl (htelling l))

/-- A production of a host tells of what it yields. -/
theorem onHost_told {α : Type} (hx : s.subject = some x)
    {work : Host → Action (Host × α)} {yielded : α → List Token} {reply : α → Reply}
    (hwork : ∀ h : Host, ∃ next a,
      Tells Host.telling yielded h.telling.names h (work h) next a)
    (hcompleted : ∀ a, completed s.markers x.telling.names call (reply a) =
      (yielded a).flatMap (Token.completions x.telling.names))
    (hdue : ∀ a, due x.telling.names call (reply a) =
      (yielded a).length * x.telling.names.length)
    (hlistener : listener x.telling call = x.telling.listener)
    (hafter : ∀ reply, tellingAfter s.telling? call reply = s.telling?) :
    Told s call (onHost s x work yielded reply) := by
  cases x with
  | cursor c => exact refuse_told (hafter _)
  | host h =>
    obtain ⟨next, a, htells⟩ := hwork h
    have hvalue : (onHost s (.host h) work yielded reply).value =
        ((s.on (.host next)).keepTokens (yielded a), reply a) := production_of_ok htells.value _
    refine .of_subject hx ?_ ?_ ?_ ?_
    · rw [hvalue, hcompleted, hlistener, onHost, notices_production]
      exact htells.notices
    · rw [hvalue, hcompleted, hdue]
      exact Token.length_flatMap_completions htells.each
    · intro c hc
      rw [hvalue, hcompleted] at hc
      obtain ⟨token, -, hc⟩ := List.mem_flatMap.mp hc
      exact Token.holds_of_mem_completions hc
    · rw [hvalue, hafter]
      exact telling?_on hx htells.telling

/-- Work that completes one marker, or comes to a fault before anything is heard, tells of that
marker. -/
theorem completing_told {α : Type} {work : Action α} {s' : State} {after : α → State × Reply}
    (hx : s.subject = some x)
    (hwork : (∃ fault, work = ⟨.error fault, []⟩) ∨ ∃ a c, work = ⟨.ok a, c.heard x.view.observer⟩ ∧
      c.Holds ∧ completed s.markers x.telling.names call (after a).2 = [c] ∧
      due x.telling.names call (after a).2 = 1)
    (hlistener : listener x.telling call = x.telling.listener)
    (hs' : s'.telling? = s.telling?) (hafter : ∀ a, (after a).1.telling? = s.telling?)
    (htelling : ∀ reply, tellingAfter s.telling? call reply = s.telling?) :
    Told s call (production s' work after) := by
  rcases hwork with ⟨fault, rfl⟩ | ⟨a, c, rfl, hholds, hcompleted, hdue⟩
  · refine .quiet (notices_production ..) ?_ ?_
    · intro t ht
      rw [production_of_error rfl]
      exact ⟨rfl, rfl⟩
    · rw [production_of_error rfl, htelling]
      exact hs'
  · refine .of_subject hx ?_ ?_ ?_ ?_
    · rw [notices_production, production_of_ok rfl, hcompleted, List.flatMap_singleton, hlistener,
        ← x.view_observer]
      exact c.notices_heard x.view.observer
    · rw [production_of_ok rfl, hcompleted, hdue]
      rfl
    · intro c' hc'
      rw [production_of_ok rfl, hcompleted] at hc'
      rw [List.mem_singleton.mp hc']
      exact hholds
    · rw [production_of_ok rfl, htelling]
      exact hafter a

/-- Attaching a marker tells of that marker. -/
theorem attach_told (hx : s.subject = some x) (marker index : Nat) :
    Told s (.attach marker index) (stepOn s x (.attach marker index)) := by
  simp only [stepOn]
  split
  · exact refuse_told rfl
  · exact refuse_told rfl
  · rename_i m item hm _
    refine completing_told hx ?_ rfl rfl (fun _ => rfl) (fun _ => rfl)
    rcases Nat.lt_or_ge x.view.location.offset m.start.offset with hoffset | hoffset
    · exact Or.inl ⟨_, Marker.attach_of_backwards item hoffset⟩
    · refine Or.inr ⟨_, _, Marker.attach_eq item hoffset, Completion.holds_of .., ?_, rfl⟩
      rw [completed, hm]
      rfl

/-- So does closing it. -/
theorem close_told (hx : s.subject = some x) (marker index : Nat) :
    Told s (.close marker index) (stepOn s x (.close marker index)) := by
  simp only [stepOn]
  split
  · exact refuse_told rfl
  · exact refuse_told rfl
  · rename_i m item hm _
    refine completing_told hx ?_ rfl rfl (fun _ => rfl) (fun _ => rfl)
    rcases Nat.lt_or_ge x.view.location.offset m.start.offset with hoffset | hoffset
    · exact Or.inl ⟨_, Marker.close_of_backwards item hoffset⟩
    · refine Or.inr ⟨_, _, Marker.close_eq item hoffset, Completion.holds_of .., ?_, rfl⟩
      rw [completed, hm, Option.toList_some, List.filterMap_cons, HoldsSpans.get?_attach]
      rfl

end

/-! ## Decorated chunks

Chunks are cut from the cursor inside and decorated by markers that see this cursor, not the
host around it. So the observer of the cursor is told, also on a host that hides it. A list
of chunks tells as one production does, of the tokens in the order in which they were cut. -/

/-- Decorations of chunk production are markers around it. -/
theorem chunkUnder_eq (names : List String) (c : Cursor) (size : Nat) :
    chunkUnder names c size = Marker.aroundAll names Cursor.view c (c.chunk size) :=
  Marker.wrapAll_eq names Cursor.view (fun c size => c.chunk size) c size

/-- Decorated chunks are told of one after the other. -/
theorem tells_chunksUnder (names : List String) (c : Cursor) (sizes : List Nat) :
    ∃ last tokens, Tells Cursor.telling (List.filterMap id) names c (chunksUnder names c sizes)
      last tokens := by
  induction sizes generalizing c with
  | nil => exact ⟨c, [], rfl, List.forall_mem_nil _, rfl, rfl⟩
  | cons size rest ih =>
    have hfirst := (c.quiet_chunk size).aroundAll Cursor.view_observer names
    rw [← chunkUnder_eq] at hfirst
    generalize (c.chunk size).value.1 = next at hfirst
    generalize (c.chunk size).value.2.map _ = token at hfirst
    obtain ⟨last, tokens, hrest⟩ := ih next
    -- what is heard of the first chunk comes before what is heard of the others
    have hboth : chunksUnder names c (size :: rest) =
        ⟨.ok (last, token :: tokens),
          (chunkUnder names c size).effects ++ ((chunksUnder names next rest).effects ++ [])⟩ := by
      rw [chunksUnder, Action.bind_of_ok hfirst.value]
      simp only [Action.bind_of_ok hrest.value]
      rfl
    refine ⟨last, token :: tokens, congrArg Action.value hboth, ?_, ?_,
      hrest.telling.trans hfirst.telling⟩
    · cases token with
      | none => exact hrest.each
      | some t => exact List.forall_mem_cons.mpr ⟨hfirst.each t List.mem_cons_self, hrest.each⟩
    have hnotices := hrest.notices
    rw [hfirst.telling] at hnotices
    rw [hboth, List.append_nil, Action.notices, List.filterMap_append]
    refine (congrArg₂ (· ++ ·) hfirst.notices hnotices).trans ?_
    rw [← List.flatMap_append, ← List.flatMap_append]
    cases token with
    | none => rfl
    | some t => rfl

/-- Decorated chunks are told to the observer of the cursor inside. -/
theorem Subject.listener_wrapped (x : Subject) (names : List String) (sizes : List Nat) :
    listener x.telling (.wrapped names sizes) = x.inner.telling.listener := by
  change (if true && x.telling.announces then x.telling.observer else none) = _
  rw [x.telling_inner.1, x.telling_inner.2]
  rfl

/-! ## Setting up

A new host may have been given rules, and each is heard of as a report. Reports are not
notices, which is all there is to show; who is told afterwards is a matter of the settings
alone. -/

/-- A session is set up without telling anybody. -/
theorem Setup.subject_quiet (setup : Setup) (settings : CursorSettings) (text : List Char) :
    (setup.subject settings text).notices = [] ∧
      (setup.subject settings text).value.telling = setup.telling settings := by
  have hrules : ∀ (l : Lexer) (rules : List Rule),
      (l.addRules rules).effects.filterMap Effect.notice? = [] := by
    intro l rules
    rw [Lexer.addRules_effects, Marker.notices_reports]
  have htelling : ∀ (l : Lexer) (rules : List Rule),
      (Host.lexer (l.addRules rules).value).telling = (Host.lexer l).telling := by
    intro l rules
    rw [Lexer.addRules_value]
    rfl
  cases setup with
  | cursor => exact ⟨rfl, rfl⟩
  | lexer rules =>
    refine ⟨?_, htelling _ rules⟩
    rw [Traced.notices, subject]
    simp only [Traced.bind_effects, Traced.pure_effects, List.append_nil, List.filterMap_append,
      hrules]
    rfl
  | standard rules =>
    have hstandard : (Host.lexer (Standard.lexer settings text).value).telling =
        (Host.lexer (Lexer.ofCursor (.ofText settings text)).value).telling := by
      rw [Standard.lexer, Traced.bind_value]
      exact htelling _ Standard.rules
    refine ⟨?_, (htelling (Standard.lexer settings text).value rules).trans hstandard⟩
    rw [Traced.notices, subject, Standard.lexer]
    simp only [Traced.bind_effects, Traced.pure_effects, List.append_nil, List.filterMap_append,
      hrules]
    rfl
  | chunker role size => exact ⟨rfl, rfl⟩

/-! ## Every call

What remains is to go through the calls. A call on a host that is gone is the same as for
any session without a host: nobody can be told, and only starting anew changes that. -/

section

variable {s : State} {x : Subject}

/-- Tracking tells nobody. It adds a name, or the host is lost. -/
theorem track_told (hx : s.subject = some x) (name : String) :
    Told s (.track name) (stepOn s x (.track name)) := by
  cases x with
  | cursor c => exact refuse_told rfl
  | host h =>
    simp only [stepOn]
    split
    · cases hrole : h.view.role with
      | none =>
        -- the host is refused, and no longer there
        rw [Host.track_of_noRole hrole]
        exact .quiet rfl (fun _ _ => ⟨rfl, rfl⟩) rfl
      | some role =>
        rw [Host.track_of_role hrole]
        refine .quiet rfl (fun _ _ => ⟨rfl, rfl⟩) ?_
        rw [State.telling?_of_subject hx]
        rfl
    · exact refuse_told rfl

/-- Tokenising tells of each token for each name, if the tokens are marked. -/
theorem tokenise_told (hx : s.subject = some x) (route : Route) :
    Told s (.tokenise route) (stepOn s x (.tokenise route)) := by
  have htelling : ∀ l : Lexer, l.tokenise.value.1.cursor.telling = l.cursor.telling := by
    intro l
    rw [Lexer.tokenise_value]
    rfl
  cases route with
  | direct =>
    exact onLexer_told hx Lexer.notices_tokenise htelling (fun _ => ⟨rfl, rfl⟩) fun _ => rfl
  | marked =>
    simp only [stepOn]
    split
    · exact refuse_told rfl
    · -- a lexer that is not tracked has no names to mark under
      exact onLexer_told hx Lexer.notices_tokenise htelling
        (fun _ => ⟨List.flatMap_eq_nil_iff.mpr fun _ _ => rfl, rfl⟩) fun _ => rfl
    · split
      · exact onHost_told hx Host.tells_tokenise (fun _ => rfl) (fun _ => rfl) rfl fun _ => rfl
      · exact refuse_told rfl

/-- Decorated chunks tell of each chunk for each name of the decorations. -/
theorem wrapped_told (hx : s.subject = some x) (names : List String) (sizes : List Nat) :
    Told s (.wrapped names sizes) (stepOn s x (.wrapped names sizes)) := by
  obtain ⟨last, tokens, htells⟩ := tells_chunksUnder names x.inner sizes
  simp only [stepOn]
  refine .of_subject hx ?_ ?_ ?_ ?_
  · rw [notices_production, production_of_ok htells.value, x.listener_wrapped]
    exact htells.notices
  · rw [production_of_ok htells.value]
    exact Token.length_flatMap_completions htells.each
  · intro c hc
    rw [production_of_ok htells.value] at hc
    obtain ⟨token, -, hc⟩ := List.mem_flatMap.mp hc
    exact Token.holds_of_mem_completions hc
  · rw [production_of_ok htells.value]
    exact telling?_on hx (Subject.telling_withInner_of_eq htells.telling)

/-- **A call tells of what it completes**, and of nothing else. -/
theorem stepOn_told (hx : s.subject = some x) (call : Call) : Told s call (stepOn s x call) := by
  cases call with
  | restart setup settings text =>
    obtain ⟨hnotices, htelling⟩ := setup.subject_quiet settings text
    refine .quiet ?_ (fun _ _ => ⟨rfl, rfl⟩) ?_
    · exact (congrArg (List.filterMap Effect.notice?) (List.append_nil _)).trans hnotices
    · exact congrArg some htelling
  | intoLexer =>
    cases x with
    | cursor c => exact .quiet rfl (fun _ _ => ⟨rfl, rfl⟩) (telling?_on hx rfl)
    | host h => exact refuse_told rfl
  | track name => exact track_told hx name
  | next route =>
    cases route with
    | direct =>
      exact onLexer_told hx (fun l => l.produces_next.notices)
        (fun l => l.produces_next.quiet.telling) (fun _ => ⟨rfl, rfl⟩) fun _ => rfl
    | marked =>
      exact onHost_told hx Host.tells_next (fun _ => rfl) (fun _ => rfl) rfl fun _ => rfl
  | tryKind route kind =>
    cases route with
    | direct =>
      exact onLexer_told hx (fun l => (l.produces_tryKind kind).notices)
        (fun l => (l.produces_tryKind kind).quiet.telling) (fun _ => ⟨rfl, rfl⟩) fun _ => rfl
    | marked =>
      exact onHost_told hx (fun h => h.tells_tryKind kind) (fun _ => rfl) (fun _ => rfl) rfl
        fun _ => rfl
  | tokenise route => exact tokenise_told hx route
  | addRule rule =>
    simp only [stepOn]
    split
    · exact refuse_told rfl
    · rename_i l hl
      exact .quiet rfl (fun _ _ => ⟨rfl, rfl⟩) (telling?_on hx (Subject.telling_withLexer hl rfl))
  | kinds =>
    simp only [stepOn]
    split
    · exact refuse_told rfl
    · exact .quiet rfl (fun _ _ => ⟨rfl, rfl⟩) rfl
  | dumpLexer =>
    simp only [stepOn]
    split
    · exact refuse_told rfl
    · exact .quiet rfl (fun _ _ => ⟨rfl, rfl⟩) rfl
  | read bytes =>
    exact .quiet rfl (fun _ _ => ⟨rfl, rfl⟩) (telling?_on hx (Subject.telling_withInner_of_eq rfl))
  | readText => exact .quiet rfl (fun _ _ => ⟨rfl, rfl⟩) rfl
  | ahead => exact .quiet rfl (fun _ _ => ⟨rfl, rfl⟩) rfl
  | isDone => exact .quiet rfl (fun _ _ => ⟨rfl, rfl⟩) rfl
  | settings => exact .quiet rfl (fun _ _ => ⟨rfl, rfl⟩) rfl
  | dumpCursor => exact .quiet rfl (fun _ _ => ⟨rfl, rfl⟩) rfl
  | setSource source =>
    exact .quiet rfl (fun _ _ => ⟨rfl, rfl⟩) (telling?_on hx (Subject.telling_withInner_of_eq rfl))
  | setAnnounces on =>
    refine .quiet rfl (fun _ _ => ⟨rfl, rfl⟩) ?_
    rw [State.telling?_of_subject hx]
    refine congrArg some ((x.telling_withInner _).trans ?_)
    -- the observer is written back as it was
    change { x.telling with announces := on, observer := x.inner.observer } = _
    rw [← x.telling_inner.2]
  | setObserver observer =>
    refine .quiet rfl (fun _ _ => ⟨rfl, rfl⟩) ?_
    rw [State.telling?_of_subject hx]
    refine congrArg some ((x.telling_withInner _).trans ?_)
    -- the switch is written back as it was
    change { x.telling with announces := x.inner.settings.announces, observer := observer } = _
    rw [← x.telling_inner.1]
  | setRole role =>
    exact .quiet rfl (fun _ _ => ⟨rfl, rfl⟩) (telling?_on hx (Subject.telling_withInner_of_eq rfl))
  | look => exact .quiet rfl (fun _ _ => ⟨rfl, rfl⟩) rfl
  | mark name =>
    simp only [stepOn]
    split
    · exact .quiet rfl (fun _ _ => ⟨rfl, rfl⟩) rfl
    · exact .quiet rfl (fun _ _ => ⟨rfl, rfl⟩) rfl
    · exact .quiet rfl (fun _ _ => ⟨rfl, rfl⟩) rfl
    · exact .quiet rfl (fun _ _ => ⟨rfl, rfl⟩) rfl
    · exact refuse_told rfl
    · exact refuse_told rfl
  | spanTo marker =>
    simp only [stepOn]
    split
    · exact refuse_told rfl
    · split
      · exact .quiet rfl (fun _ _ => ⟨rfl, rfl⟩) rfl
      · exact refuse_told rfl
  | attach marker index => exact attach_told hx marker index
  | close marker index => exact close_told hx marker index
  | keep item => exact .quiet rfl (fun _ _ => ⟨rfl, rfl⟩) rfl
  | item index =>
    simp only [stepOn]
    split
    · exact refuse_told rfl
    · exact .quiet rfl (fun _ _ => ⟨rfl, rfl⟩) rfl
  | get index name =>
    simp only [stepOn]
    split
    · exact refuse_told rfl
    · exact .quiet rfl (fun _ _ => ⟨rfl, rfl⟩) rfl
  | wrapped names sizes => exact wrapped_told hx names sizes

end

/-- Only starting anew brings a host back. -/
theorem tellingAfter_none {call : Call}
    (hcall : ∀ setup settings text, call ≠ .restart setup settings text) (reply : Reply) :
    tellingAfter none call reply = none := by
  unfold tellingAfter
  split
  · exact absurd rfl (hcall _ _ _)
  · rfl
  · rfl
  · rfl
  · rfl
  · rfl

/-- Without a host nobody is told of anything. -/
theorem stepGone_told {s : State} (hs : s.subject = none) (call : Call) :
    Told s call (stepGone s call) := by
  unfold stepGone
  split
  · rename_i setup settings text
    obtain ⟨hnotices, htelling⟩ := setup.subject_quiet settings text
    refine .quiet ?_ (fun _ _ => ⟨rfl, rfl⟩) ?_
    · exact (congrArg (List.filterMap Effect.notice?) (List.append_nil _)).trans hnotices
    · exact congrArg some htelling
  · exact .quiet rfl (fun _ _ => ⟨rfl, rfl⟩) rfl
  · split
    · exact refuse_told rfl
    · exact .quiet rfl (fun _ _ => ⟨rfl, rfl⟩) rfl
  · split
    · exact refuse_told rfl
    · exact .quiet rfl (fun _ _ => ⟨rfl, rfl⟩) rfl
  · -- all other calls are refused for want of a host
    rename_i hrestart _ _ _
    have hgone : s.telling? = none := by
      rw [State.telling?, hs]
      rfl
    refine refuse_told ?_
    rw [hgone]
    exact tellingAfter_none hrestart _

/-- **Every call tells of what it completes**, whether the host is still there or gone. -/
theorem step_told (s : State) (call : Call) : Told s call (step s call) := by
  rw [step]
  split
  · rename_i x hx
    exact stepOn_told hx call
  · rename_i hs
    exact stepGone_told hs call

end Session

end TokenSpans
