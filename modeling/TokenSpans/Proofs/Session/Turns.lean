import TokenSpans.Proofs.Session.Telling

/-!
# Turns of a session

The calls of a session may be mixed with decorated production functions, which do anything to the
subject that they like (`Turn`). Whatever the mixture, the observers are told of the markers that
are completed, each once and in the order of their completion, and what they are shown carries the
span by then (`notices_play`). Turning announcements off and on again gets the same observer back.

A decorated function is arbitrary. It may move the host backwards, change the observer, tell
something by itself, or come to a fault, and what is told of the decorations depends on all
of that. `Turn.completions` and `Turn.listener?` say how, by looking at the bare result of
the function: at what it yielded, whether the subject has gone backwards, and who is there
to be told when it is done. That the decorated function does the same is what `notices_take`
proves.

The course of a session as `TokenSpans.Proofs.Session.Course` has it is of no help here,
since a function that takes the host back breaks its invariant.
-/

namespace TokenSpans.Session

/-- One turn of a session: a call, or a production function, which may do anything to the subject,
decorated under some names, the first one innermost. -/
inductive Turn : Type 1
  | call (c : Call)
  | decorated {α : Type} (names : List String)
      (produce : Subject → α → Action (Subject × Option Item)) (argument : α)

/-- Takes a turn. What a decorated function yields is kept; a subject that it leaves in a fault is
gone. -/
def take (s : State) : Turn → Traced State
  | .call c => do
    let (s, _) ← step s c
    return s
  | .decorated names produce argument =>
    match s.subject with
    | none => pure s
    | some x => do
      match ← (Marker.wrapAll names Subject.view produce x argument).outcome with
      | .ok (next, yielded) => return (s.on next).keep yielded.toList
      | .error _ => return { s with subject := none }

/-- Takes one turn after the other. -/
def play : State → List Turn → Traced State
  | s, [] => pure s
  | s, turn :: rest => do
    let s ← take s turn
    play s rest

namespace Turn

/-- What a production function tells by itself. -/
def own (s : State) : Turn → List Notice
  | call _ => []
  | decorated _ produce argument =>
    s.subject.toList.flatMap fun x => (produce x argument).notices

/-- The markers that a turn completes: those that the reply to a call tells of, and all decorations
of a function that has yielded an item and not taken the subject back. -/
def completions (s : State) : Turn → List Completion
  | call c => s.telling?.toList.flatMap fun t => completed s.markers t.names c (step s c).value.2
  | decorated names produce argument => s.subject.toList.flatMap fun x =>
    match (produce x argument).value with
    | .ok (next, some item) =>
      if x.view.location.offset ≤ next.view.location.offset then
        Completion.each names ⟨x.view.location, next.view.location, next.view.source⟩ item
      else []
    | _ => []

/-- The one who is told of them: the observer there is when they are completed, which a production
function may have changed. -/
def listener? (s : State) : Turn → Option Observer
  | call c => s.telling?.bind fun t => listener t c
  | decorated _ produce argument => s.subject.bind fun x =>
    match (produce x argument).value with
    | .ok (next, _) => next.telling.listener
    | .error _ => none

/-- A turn that does not change who the observer is. -/
def KeepsObserver : Turn → Prop
  | call c => (∀ setup settings text, c ≠ .restart setup settings text) ∧
    ∀ observer, c ≠ .setObserver observer
  | decorated _ produce argument => ∀ x next item,
    (produce x argument).value = .ok (next, item) →
      next.telling.observer = x.telling.observer ∧ next.telling.shown = x.telling.shown

end Turn

/-- All that is told in a session: of each turn what a production function tells by itself, and one
notice for each marker that is completed. -/
def toldBy : State → List Turn → List Notice
  | _, [] => []
  | s, turn :: rest =>
    turn.own s ++ (turn.completions s).flatMap (Completion.told (turn.listener? s)) ++
      toldBy (take s turn).value rest

/-! ## What turns tell

One turn is settled by its kind. For a call it was shown before. For a function there are
four ends: it came to a fault, it yielded nothing, it yielded an item and the subject stands
no earlier, or it yielded an item and the subject was taken back; only in the third of them
are the decorations completed. A list of turns tells what its turns tell, by induction on
the list. -/

section

variable {s : State} {x : Subject}

/-- A decorated function tells what its decorations tell. -/
theorem notices_take_decorated {α : Type} (hx : s.subject = some x) (names : List String)
    (produce : Subject → α → Action (Subject × Option Item)) (argument : α) :
    (take s (.decorated names produce argument)).notices =
      (Marker.aroundAll names Subject.view x (produce x argument)).notices := by
  rw [← Marker.wrapAll_eq, take, hx]
  dsimp only
  generalize Marker.wrapAll names Subject.view produce x argument = work
  obtain ⟨value, effects⟩ := work
  cases value with
  | error fault => exact congrArg (List.filterMap Effect.notice?) (List.append_nil effects)
  | ok r => exact congrArg (List.filterMap Effect.notice?) (List.append_nil effects)

end

/-- **A turn tells of what it completes.** -/
theorem notices_take (s : State) (turn : Turn) :
    (take s turn).notices =
      turn.own s ++ (turn.completions s).flatMap (Completion.told (turn.listener? s)) := by
  cases turn with
  | call c =>
    have hnotices : (take s (.call c)).notices = (step s c).notices :=
      congrArg (List.filterMap Effect.notice?) (List.append_nil _)
    rw [hnotices, (step_told s c).notices, Turn.own, Turn.completions, Turn.listener?]
    cases s.telling? with
    | none => rfl
    | some t => simp
  | decorated names produce argument =>
    cases hx : s.subject with
    | none =>
      rw [take, Turn.own, Turn.completions, hx]
      rfl
    | some x =>
      -- four cases: a fault, no item, an item and no way back, an item and a way back
      rw [notices_take_decorated hx, Turn.own, Turn.completions, Turn.listener?, hx,
        Option.toList_some, List.flatMap_singleton, List.flatMap_singleton, Option.bind_some]
      cases hvalue : (produce x argument).value with
      | error fault =>
        rw [Marker.notices_aroundAll_of_error names hvalue]
        exact (List.append_nil _).symm
      | ok r =>
        obtain ⟨next, yielded⟩ := r
        cases yielded with
        | none =>
          rw [Marker.notices_aroundAll names hvalue (fun item hitem => by cases hitem)]
          rfl
        | some item =>
          dsimp only
          split
          · rename_i hoffset
            rw [Marker.notices_aroundAll names hvalue fun _ _ => hoffset, Subject.view_observer,
              Option.toList_some, List.flatMap_singleton]
          · rename_i hoffset
            rw [Marker.notices_aroundAll_of_backwards names hvalue (Nat.lt_of_not_le hoffset)]
            exact (List.append_nil _).symm

/-- What an observer is shown carries the span of the marker by then. -/
theorem holds_of_mem_completions {s : State} {turn : Turn} {c : Completion}
    (hc : c ∈ turn.completions s) : c.Holds := by
  cases turn with
  | call call =>
    obtain ⟨t, ht, hc⟩ := List.mem_flatMap.mp hc
    exact (step_told s call).holds t (Option.mem_toList.mp ht) c hc
  | decorated names produce argument =>
    obtain ⟨x, hx, hc⟩ := List.mem_flatMap.mp hc
    split at hc
    · split at hc
      · exact Completion.holds_of_mem_each hc
      · cases hc
    · cases hc

/-- **What is told in a session** is what its turns tell, one after the other. -/
theorem notices_play (s : State) (turns : List Turn) : (play s turns).notices = toldBy s turns := by
  induction turns generalizing s with
  | nil => rfl
  | cons turn rest ih =>
    rw [toldBy, ← notices_take, ← ih, play, Traced.notices, Traced.bind_effects,
      List.filterMap_append]
    rfl

/-! ## Who is told

The observer and whether the host lets it be seen are kept by every turn that does not
change them, and turning announcements on or off changes neither. So whoever was told before
is told again afterwards. The induction is on the turns, but what is known comes from the
end, where there is still a host; that there was one all along follows. -/

/-- A turn that keeps the observer keeps it: whoever is there afterwards was there before.
-/
theorem keepsObserver_take {s : State} {turn : Turn} (hkeeps : turn.KeepsObserver) {t' : Telling}
    (ht' : (take s turn).value.telling? = some t') :
    ∃ t, s.telling? = some t ∧ t'.observer = t.observer ∧ t'.shown = t.shown := by
  cases turn with
  | call c =>
    have hafter : tellingAfter s.telling? c (step s c).value.2 = some t' :=
      (step_told s c).telling.symm.trans ht'
    unfold tellingAfter at hafter
    split at hafter
    · exact absurd rfl (hkeeps.1 _ _ _)
    · obtain ⟨t, ht, rfl⟩ := Option.map_eq_some_iff.mp hafter
      exact ⟨t, ht, rfl, rfl⟩
    · cases hafter
    · obtain ⟨t, ht, rfl⟩ := Option.map_eq_some_iff.mp hafter
      exact ⟨t, ht, rfl, rfl⟩
    · exact absurd rfl (hkeeps.2 _)
    · exact ⟨t', hafter, rfl, rfl⟩
  | decorated names produce argument =>
    cases hx : s.subject with
    | none =>
      rw [take, hx] at ht'
      have hgone : s.telling? = some t' := ht'
      rw [State.telling?, hx] at hgone
      cases hgone
    | some x =>
      refine ⟨x.telling, State.telling?_of_subject hx, ?_⟩
      rw [take, hx] at ht'
      dsimp only at ht'
      cases hwork : (Marker.wrapAll names Subject.view produce x argument).value with
      | error fault =>
        simp only [Traced.bind_value, Action.outcome, hwork] at ht'
        cases ht'
      | ok r =>
        obtain ⟨next, yielded⟩ := r
        simp only [Traced.bind_value, Action.outcome, hwork] at ht'
        obtain rfl := Option.some.inj ht'
        rw [Marker.wrapAll_eq] at hwork
        obtain ⟨bare, hvalue⟩ := Marker.of_aroundAll_eq_ok hwork
        exact hkeeps x next bare hvalue

/-- Turns that keep the observer keep it, however many they are. -/
theorem keepsObserver_play {s : State} {turns : List Turn}
    (hkeeps : ∀ turn ∈ turns, turn.KeepsObserver) {t' : Telling}
    (ht' : (play s turns).value.telling? = some t') :
    ∃ t, s.telling? = some t ∧ t'.observer = t.observer ∧ t'.shown = t.shown := by
  induction turns generalizing s with
  | nil => exact ⟨t', ht', rfl, rfl⟩
  | cons turn rest ih =>
    obtain ⟨t₁, ht₁, hobserver, hshown⟩ :=
      ih (fun turn hturn => hkeeps turn (List.mem_cons_of_mem _ hturn)) ht'
    obtain ⟨t, ht, hobserver₁, hshown₁⟩ := keepsObserver_take (hkeeps turn List.mem_cons_self) ht₁
    exact ⟨t, ht, hobserver.trans hobserver₁, hshown.trans hshown₁⟩

/-- Turning announcements on or off changes nothing else about who is told. -/
theorem telling?_setAnnounces (s : State) (on : Bool) :
    (take s (.call (.setAnnounces on))).value.telling? =
      s.telling?.map fun t => { t with announces := on } := by
  have hafter := (step_told s (.setAnnounces on)).telling
  cases hx : s.subject with
  | none =>
    have hgone : s.telling? = none := by
      rw [State.telling?, hx]
      rfl
    rw [hgone] at hafter ⊢
    exact hafter.trans (tellingAfter_none (fun _ _ _ => Call.noConfusion) _)
  | some x =>
    have hreply : (step s (.setAnnounces on)).value.2 = .done := by
      rw [step, hx]
      rfl
    rw [hreply] at hafter
    exact hafter

/-- More turns go on from where the first have led. -/
theorem play_append (s : State) (turns more : List Turn) :
    (play s (turns ++ more)).value = (play (play s turns).value more).value := by
  induction turns generalizing s with
  | nil => rfl
  | cons turn rest ih => exact ih (take s turn).value

/-- Turning announcements off and on again gets the same observer back, unless another one was set
in between. -/
theorem listener_resumes {s : State} {between : List Turn}
    (hkeeps : ∀ turn ∈ between, turn.KeepsObserver) {t t' : Telling} (ht : s.telling? = some t)
    (ht' : (play s (.call (.setAnnounces false) :: between ++
      [.call (.setAnnounces true)])).value.telling? = some t') :
    t'.listener = { t with announces := true }.listener := by
  -- the two calls at the ends keep the observer as well
  have hall : ∀ turn ∈ .call (.setAnnounces false) :: between ++ [.call (.setAnnounces true)],
      turn.KeepsObserver := by
    intro turn hturn
    rcases List.mem_append.mp hturn with hturn | hturn
    · rcases List.mem_cons.mp hturn with rfl | hturn
      · exact ⟨fun _ _ _ => Call.noConfusion, fun _ => Call.noConfusion⟩
      · exact hkeeps turn hturn
    · rw [List.mem_singleton.mp hturn]
      exact ⟨fun _ _ _ => Call.noConfusion, fun _ => Call.noConfusion⟩
  obtain ⟨t₀, ht₀, hobserver, hshown⟩ := keepsObserver_play hall ht'
  obtain rfl := Option.some.inj (ht.symm.trans ht₀)
  rw [play_append] at ht'
  obtain ⟨t₁, -, rfl⟩ := Option.map_eq_some_iff.mp ((telling?_setAnnounces _ true).symm.trans ht')
  rw [Telling.listener, Telling.listener, hobserver, hshown]

/-- **Notices are exact.** On any host and in any session, however calls and decorated production
functions are mixed, the observers are told, in the order of completion, once of each marker that
is completed while there is one to be told, and of nothing else. A call completes as many as are
due: one where a marker is attached or closed, and one for each name where a token is yielded
marked. What the observers are shown carries the span of the marker by then. Who is told depends on
nothing but the calls that say so, and turning announcements off and on again gets the same
observer back. -/
theorem notices_exact (s : State) (turns : List Turn) :
    (play s turns).notices = toldBy s turns ∧
      (∀ call t, s.telling? = some t →
        (completed s.markers t.names call (step s call).value.2).length =
          due t.names call (step s call).value.2) ∧
      (∀ turn : Turn, ∀ c ∈ turn.completions s, c.Holds) ∧
      (∀ call, (step s call).value.1.telling? =
        tellingAfter s.telling? call (step s call).value.2) ∧
      ∀ t t' between, (∀ turn ∈ between, turn.KeepsObserver) → s.telling? = some t →
        (play s (.call (.setAnnounces false) :: between ++
          [.call (.setAnnounces true)])).value.telling? = some t' →
        t'.listener = { t with announces := true }.listener := by
  refine ⟨notices_play s turns, ?_, ?_, ?_, ?_⟩
  · intro call t ht
    exact (step_told s call).count t ht
  · intro turn c hc
    exact holds_of_mem_completions hc
  · intro call
    exact (step_told s call).telling
  · intro t t' between hkeeps ht ht'
    exact listener_resumes hkeeps ht ht'

end TokenSpans.Session
