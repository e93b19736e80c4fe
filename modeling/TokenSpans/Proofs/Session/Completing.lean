import TokenSpans.Proofs.Session.Course
import TokenSpans.Proofs.Spans

/-!
# Completing markers in a session

However the calls of a session are mixed, a marker that was set is found again under its number, and
completing it yields the span from the place where it was set to the place of the host now
(`step_completes`). The host has only moved on in between. So no span runs backwards, two spans of
one session are ordered as the calls are that set and completed their markers, and markers that are
nested in time have spans that are nested in the text (`spans_follow_calls`).

A marker is looked up by its number. The list of markers only grows at its end, so a number
means the same marker from the moment it is given out (`of_replyTo?_marked`), and before
that moment it means nothing, so that a marker cannot be completed before it is set. With
this the two ends of a span are two moments of the session, and all that is said about spans
is said about moments: the earlier moment has the earlier place, in all three counts.

The theorems about completion are of two kinds. One says that a span is handed out, if the
host and the item are there (`exists_completed`); the other says what a span is that was
handed out (`Completed.stretch`). Neither is enough alone: the second would hold of a
session that refuses every call.
-/

namespace TokenSpans

/-- One span lies within another, by the offset and by line and column. -/
structure Span.Encloses (outer inner : Span) : Prop where
  /-- the outer one starts no later -/
  start : outer.start.NoLater inner.start
  /-- and ends no earlier -/
  stop : inner.stop.NoLater outer.stop

namespace Session

/-! ## Calls that set a marker

A marker gets the default name, a given name, or the name of the outermost tracking. In the
last two forms the tracking is asked, and it answers for the host it is around. Since
tracking changes nothing about what is seen, the marker starts at the same place either way. -/

/-- The name that a marker gets on the subject: only a tracked host can name one, or be asked. -/
def Subject.markerName? (x : Subject) : MarkName → Option String
  | .default => some Spans.primaryName
  | .given name => some name
  | .ofTracking => x.tracked?.map Prod.snd
  | .throughTracking name => x.tracked?.map fun _ => name

/-- A marker is set where the host is seen, under the next number. -/
theorem step_mark {s : State} {x : Subject} {asked : MarkName} {name : String}
    (hx : s.subject = some x) (hname : x.markerName? asked = some name) :
    (step s (.mark asked)).value.2 = .marked s.markers.length ⟨x.view.location, name⟩ := by
  rw [step, hx]
  cases asked with
  | default =>
    cases hname
    rfl
  | given _ =>
    cases hname
    rfl
  | ofTracking =>
    obtain ⟨⟨inner, _⟩, htracked, rfl⟩ := Option.map_eq_some_iff.mp hname
    simp only [stepOn, htracked, Subject.view_of_tracked? htracked]
    rfl
  | throughTracking _ =>
    obtain ⟨⟨inner, _⟩, htracked, rfl⟩ := Option.map_eq_some_iff.mp hname
    simp only [stepOn, htracked, Subject.view_of_tracked? htracked]
    rfl

/-! ## Calls that complete a marker

Three calls complete a marker: one hands out the span alone, one attaches it to an item and
hands out both, and one hands out the item, so that the span has to be looked up under the
name of the marker. `Reply.Yields` covers all three, which lets the rest of the module speak
of a span without asking which call it came from. -/

/-- The marker that a call completes, if it completes one. -/
def Call.completes? : Call → Option Nat
  | .spanTo marker | .attach marker _ | .close marker _ => some marker
  | _ => none

/-- The item to which a call attaches the span, if it attaches it. -/
def Call.onto? : Call → Option Nat
  | .attach _ index | .close _ index => some index
  | _ => none

/-- Whether a reply hands out the span, alone or carried by an item under the name. -/
def Reply.Yields (span : Span) (name : String) : Reply → Prop
  | .span found => found = some span
  | .attached found holder => found = span ∧ (HoldsSpans.spans holder).get? name = some span
  | .item holder => (HoldsSpans.spans holder).get? name = some span
  | _ => False

/-- A reply hands out one span at most. -/
theorem Reply.Yields.unique {reply : Reply} {span span' : Span} {name : String}
    (h : reply.Yields span name) (h' : reply.Yields span' name) : span = span' := by
  cases reply with
  | span found => exact Option.some.inj (h.symm.trans h')
  | attached found holder => exact h.1.symm.trans h'.1
  | item holder => exact Option.some.inj (h.symm.trans h')
  | _ => exact absurd h id

/-- What a call needs to complete a marker: the host, and the item if there is one to attach to. -/
structure State.Offers (s : State) (call : Call) : Prop where
  /-- the host is there -/
  host : ∃ x, s.subject = some x
  /-- an item that is named is there -/
  item : ∀ index, call.onto? = some index → ∃ item, s.items[index]? = some (some item)

section

variable {s : State} {call : Call} {index : Nat}

/-- A call onto one item needs no other. -/
theorem State.offers_of_item {x : Subject} {item : Item} (hx : s.subject = some x)
    (honto : call.onto? = some index) (hitem : (s.items[index]?).join = some item) :
    s.Offers call where
  host := ⟨x, hx⟩
  item i hi := by
    cases honto.symm.trans hi
    exact ⟨item, Option.join_eq_some_iff.mp hitem⟩

/-- Completing a marker yields the span from where it starts to where the host is seen. -/
theorem step_completes {x : Subject} {m : Marker} (hsound : Sound s) (hx : s.subject = some x)
    (hm : s.markers[index]? = some m) (hcall : call.completes? = some index)
    (hoffers : s.Offers call) :
    (step s call).value.2.Yields ⟨m.start, x.view.location, x.view.source⟩ m.name := by
  have hoffset := hsound.offset_le hx hm
  rw [step, hx]
  cases call with
  | spanTo marker =>
    cases hcall
    simp only [stepOn, hm, Marker.spanTo_value hoffset]
    rfl
  | attach marker i =>
    cases hcall
    obtain ⟨item, hitem⟩ := hoffers.item i rfl
    simp only [stepOn, hm, hitem, Option.join_some,
      production_of_ok (Marker.attach_value item hoffset)]
    exact ⟨rfl, HoldsSpans.get?_attach ..⟩
  | close marker i =>
    cases hcall
    obtain ⟨item, hitem⟩ := hoffers.item i rfl
    simp only [stepOn, hm, hitem, Option.join_some,
      production_of_ok (Marker.close_value item hoffset)]
    exact HoldsSpans.get?_attach ..
  | _ => cases hcall

/-- Inversion for a call that is answered by a span: all that it needs was there. -/
theorem of_step_yields {span : Span} {name : String} (hcall : call.completes? = some index)
    (h : (step s call).value.2.Yields span name) :
    (∃ m, s.markers[index]? = some m) ∧ s.Offers call := by
  cases hx : s.subject with
  | none =>
    rw [step, hx] at h
    cases call with
    | spanTo marker => exact absurd h id
    | attach marker i => exact absurd h id
    | close marker i => exact absurd h id
    | _ => cases hcall
  | some x =>
    rw [step, hx] at h
    cases call with
    | spanTo marker =>
      cases hcall
      simp only [stepOn] at h
      split at h
      · exact absurd h id
      · rename_i m hm
        refine ⟨⟨m, hm⟩, ⟨x, hx⟩, ?_⟩
        rintro _ ⟨⟩
    | attach marker i =>
      cases hcall
      simp only [stepOn] at h
      split at h
      · exact absurd h id
      · exact absurd h id
      · rename_i m item hm hitem
        exact ⟨⟨m, hm⟩, s.offers_of_item hx rfl hitem⟩
    | close marker i =>
      cases hcall
      simp only [stepOn] at h
      split at h
      · exact absurd h id
      · exact absurd h id
      · rename_i m item hm hitem
        exact ⟨⟨m, hm⟩, s.offers_of_item hx rfl hitem⟩
    | _ => cases hcall

end

/-! ## Markers in the course of a session

`Completed` is about two calls by their place in the list and about what they were answered;
it does not mention the host. `Stretch` is about where the host was at these two calls. That
the first implies the second is what makes a span more than a pair of numbers: it is a piece
of the text that was read, and its length is the length of the piece.

The last part compares two stretches. Nothing about markers is needed any more, only that
the host is seen no earlier at a later moment, and each of the three clauses of `Ordered` is
that statement for another pair of ends. -/

/-- Among the calls, one sets a marker and another completes it, and is answered by a span. -/
structure Completed (s : State) (calls : List Call) (set done : Nat) (m : Marker) (span : Span) :
    Prop where
  /-- the one call is told the number of the marker, and the other names this number -/
  marked : ∃ index, replyTo? s calls set = some (.marked index m) ∧
    ∃ call, calls[done]? = some call ∧ call.completes? = some index
  /-- the other call is answered by the span -/
  answered : ∃ reply, replyTo? s calls done = some reply ∧ reply.Yields span m.name

/-- A span is the stretch of the text that the host has read between two calls. -/
structure Stretch (s : State) (calls : List Call) (set done : Nat) (m : Marker) (span : Span) :
    Prop where
  /-- the one call comes before the other -/
  order : set < done
  /-- each end is where the host was seen at its call, and the length counts what was read in
  between -/
  ends : ∃ x x' piece, (reached s calls set).subject = some x ∧
    (reached s calls done).subject = some x' ∧ Cursor.Moves x.inner piece x'.inner ∧
    m.start = x.view.location ∧ span = ⟨x.view.location, x'.view.location, x'.view.source⟩ ∧
    span.length = piece.length
  /-- the span ends in no earlier line than it starts -/
  line_le : span.start.line ≤ span.stop.line
  /-- in one line it ends in no earlier column -/
  column_le : span.start.line = span.stop.line → span.start.column ≤ span.stop.column

section

variable {s : State} {calls : List Call} {set done index : Nat} {m : Marker} {span : Span}
  (hcalls : ∀ setup settings text, Call.restart setup settings text ∉ calls) (hsound : Sound s)

include hcalls hsound

/-- A marker that was set starts where the host was seen, and from then on it is found under its
number, but not before. -/
theorem of_replyTo?_marked (h : replyTo? s calls set = some (.marked index m)) :
    (∃ x, (reached s calls set).subject = some x ∧ m.start = x.view.location) ∧
      (∀ n, set < n → (reached s calls n).markers[index]? = some m) ∧
      ∀ n, n ≤ set → (reached s calls n).markers[index]? = none := by
  obtain ⟨call, hcall, hreply, hproceeds⟩ := of_replyTo? hcalls hsound h
  obtain ⟨hindex, hmarkers, hstart⟩ := hproceeds.of_marked hreply
  rw [← reached_succ hcall] at hmarkers
  refine ⟨hstart, fun n hn => ?_, fun n hn => ?_⟩
  · -- since then the list has only grown behind it
    obtain ⟨more, hmore⟩ := (reached_later hcalls hsound hn).markers
    rw [← hmore, hmarkers, hindex, List.append_assoc, List.getElem?_append_right (Nat.le_refl _),
      Nat.sub_self]
    rfl
  · -- before it was set there were no more markers than its number
    have hlength := (reached_later hcalls hsound hn).markers.length_le
    rw [List.getElem?_eq_none_iff, hindex]
    exact hlength

/-- A call that completes a marker set before is answered by a span, if all that it needs is
there. -/
theorem exists_completed {call : Call} (h : replyTo? s calls set = some (.marked index m))
    (horder : set < done) (hcall : calls[done]? = some call)
    (hcompletes : call.completes? = some index) (hoffers : (reached s calls done).Offers call) :
    ∃ span, Completed s calls set done m span := by
  obtain ⟨x, hx⟩ := hoffers.host
  have hm := (of_replyTo?_marked hcalls hsound h).2.1 done horder
  have hyields := step_completes (reached_sound hcalls hsound done) hx hm hcompletes hoffers
  refine ⟨⟨m.start, x.view.location, x.view.source⟩, ⟨index, h, call, hcall, hcompletes⟩, _, ?_,
    hyields⟩
  rw [replyTo?_eq, hcall]
  rfl

/-- What the host has read between two calls is a stretch. -/
theorem stretch_between {x x' : Subject} (horder : set < done)
    (hx : (reached s calls set).subject = some x) (hx' : (reached s calls done).subject = some x')
    (hstart : m.start = x.view.location) :
    Stretch s calls set done m ⟨x.view.location, x'.view.location, x'.view.source⟩ := by
  have hlater := reached_later hcalls hsound (Nat.le_of_lt horder)
  obtain ⟨y, hy, piece, hmoves⟩ := hlater.host x' hx'
  cases hx.symm.trans hy
  -- the line and the column come with the place, the length has to be counted
  have hplace := hlater.noLater hx hx'
  have hlength : x'.view.location.offset - x.view.location.offset = piece.length := by
    rw [x.view_location, x'.view_location, hmoves.offset_eq, Nat.add_sub_cancel_left]
  exact {
    order := horder
    ends := ⟨x, x', piece, hx, hx', hmoves, hstart, rfl, hlength⟩
    line_le := hplace.line_le
    column_le := hplace.column_le }

/-- The span of a completed marker is the stretch that was read since it was set. -/
theorem Completed.stretch (h : Completed s calls set done m span) :
    Stretch s calls set done m span := by
  obtain ⟨⟨index, hset, call, hcall, hcompletes⟩, reply, hdone, hyields⟩ := h
  obtain ⟨⟨x, hx, hstart⟩, hfound, hnot⟩ := of_replyTo?_marked hcalls hsound hset
  have hreply : (step (reached s calls done) call).value.2 = reply := by
    rw [replyTo?_eq, hcall] at hdone
    exact Option.some.inj hdone
  rw [← hreply] at hyields
  obtain ⟨⟨m', hm'⟩, hoffers⟩ := of_step_yields hcompletes hyields
  -- a number that is not given out yet completes nothing
  have horder : set < done := by
    refine Nat.lt_of_not_le fun hle => ?_
    cases (hnot done hle).symm.trans hm'
  obtain ⟨x', hx'⟩ := hoffers.host
  have hcompleted := step_completes (reached_sound hcalls hsound done) hx' (hfound done horder)
    hcompletes hoffers
  rw [hyields.unique hcompleted, hstart]
  exact stretch_between hcalls hsound horder hx hx' hstart

end

/-- How the spans of two completed markers lie to one another: as the calls do that set the markers
and completed them. -/
structure Ordered (set done : Nat) (span : Span) (set' done' : Nat) (span' : Span) : Prop where
  /-- one marker has one start, and its ends only move on -/
  again : set = set' → span.start = span'.start ∧ (done ≤ done' → span.stop.NoLater span'.stop)
  /-- a marker set no later and completed no earlier has the outer span -/
  nested : set ≤ set' → done' ≤ done → span.Encloses span'
  /-- a marker set after the other was completed has the later span -/
  apart : done ≤ set' → span.stop.NoLater span'.start

section

variable {s : State} {calls : List Call}
  (hcalls : ∀ setup settings text, Call.restart setup settings text ∉ calls) (hsound : Sound s)

include hcalls hsound

/-- Stretches are ordered as the calls are. -/
theorem Stretch.ordered {set done set' done' : Nat} {m m' : Marker} {span span' : Span}
    (h : Stretch s calls set done m span) (h' : Stretch s calls set' done' m' span') :
    Ordered set done span set' done' span' := by
  obtain ⟨x, y, -, hx, hy, -, -, hspan, -⟩ := h.ends
  obtain ⟨x', y', -, hx', hy', -, -, hspan', -⟩ := h'.ends
  subst hspan hspan'
  have hseen : ∀ {n n' : Nat} {z z' : Subject}, n ≤ n' → (reached s calls n).subject = some z →
      (reached s calls n').subject = some z' → z.view.location.NoLater z'.view.location :=
    fun hle hz hz' => (reached_later hcalls hsound hle).noLater hz hz'
  exact {
    again := by
      rintro rfl
      cases hx.symm.trans hx'
      exact ⟨rfl, fun hdone => hseen hdone hy hy'⟩
    nested := fun hset hdone => ⟨hseen hset hx hx', hseen hdone hy' hy⟩
    apart := fun hlater => hseen hlater hy hx' }

end

/-- A session that has just been opened has no marker. -/
theorem sound_ofSubject (x : Subject) : Sound (.ofSubject x) :=
  fun _ _ _ hm => absurd hm List.not_mem_nil

/-- **Spans follow the calls of a session**: on one host, whatever it is and however its calls are
mixed, no span runs backwards; a marker is set where the host is; a call that completes a marker is
answered by a span, if the host and the item are there; each span is the stretch of the text that
was read between setting and completing the marker; and any two of them are ordered as the calls
are. -/
theorem spans_follow_calls (x : Subject) (calls : List Call)
    (hcalls : ∀ setup settings text, Call.restart setup settings text ∉ calls) :
    (∀ n start stop, replyTo? (.ofSubject x) calls n ≠
        some (.refused (.fault (.backwards start stop)))) ∧
      (∀ set host asked name, calls[set]? = some (.mark asked) →
        (reached (.ofSubject x) calls set).subject = some host →
        host.markerName? asked = some name →
        ∃ index, replyTo? (.ofSubject x) calls set =
          some (.marked index ⟨host.view.location, name⟩)) ∧
      (∀ set done index m call, replyTo? (.ofSubject x) calls set = some (.marked index m) →
        set < done → calls[done]? = some call → call.completes? = some index →
        (reached (.ofSubject x) calls done).Offers call →
        ∃ span, Completed (.ofSubject x) calls set done m span) ∧
      (∀ set done m span, Completed (.ofSubject x) calls set done m span →
        Stretch (.ofSubject x) calls set done m span) ∧
      ∀ set done m span set' done' m' span', Completed (.ofSubject x) calls set done m span →
        Completed (.ofSubject x) calls set' done' m' span' →
        Ordered set done span set' done' span' := by
  have hsound := sound_ofSubject x
  refine ⟨?_, ?_, ?_, ?_, ?_⟩
  · intro n start stop hreply
    obtain ⟨call, -, hcall, hproceeds⟩ := of_replyTo? hcalls hsound hreply
    exact hproceeds.not_backwards start stop hcall
  · intro set host asked name hcall hhost hname
    refine ⟨(reached (.ofSubject x) calls set).markers.length, ?_⟩
    rw [replyTo?_eq, hcall, ← step_mark hhost hname]
    rfl
  · intro set done index m call hset horder hcall hcompletes hoffers
    exact exists_completed hcalls hsound hset horder hcall hcompletes hoffers
  · intro set done m span h
    exact h.stretch hcalls hsound
  · intro set done m span set' done' m' span' h h'
    exact (h.stretch hcalls hsound).ordered hcalls hsound (h'.stretch hcalls hsound)

/-- Two markers on one cursor, the second set after the first and completed before it. -/
theorem spans_follow_calls_nested :
    ∃ outer inner,
      Completed (.ofSubject (.cursor (.ofText .standard ['a', 'b', '\n', 'c'])))
          [.mark .default, .read 1, .mark .default, .read 2, .spanTo 1, .spanTo 0]
          0 5 ⟨⟨0, 1, 1⟩, "position"⟩ outer ∧
        Completed (.ofSubject (.cursor (.ofText .standard ['a', 'b', '\n', 'c'])))
          [.mark .default, .read 1, .mark .default, .read 2, .spanTo 1, .spanTo 0]
          2 4 ⟨⟨1, 1, 2⟩, "position"⟩ inner ∧
        outer.Encloses inner := by
  obtain ⟨-, -, hcompletes, -, hordered⟩ := spans_follow_calls
    (.cursor (.ofText .standard ['a', 'b', '\n', 'c']))
    [.mark .default, .read 1, .mark .default, .read 2, .spanTo 1, .spanTo 0] (by simp)
  obtain ⟨outer, houter⟩ := hcompletes 0 5 0 ⟨⟨0, 1, 1⟩, "position"⟩ (.spanTo 0) rfl (by decide) rfl
    rfl ⟨⟨_, rfl⟩, fun _ hitem => nomatch hitem⟩
  obtain ⟨inner, hinner⟩ := hcompletes 2 4 1 ⟨⟨1, 1, 2⟩, "position"⟩ (.spanTo 1) rfl (by decide) rfl
    rfl ⟨⟨_, rfl⟩, fun _ hitem => nomatch hitem⟩
  have hnested := (hordered _ _ _ _ _ _ _ _ houter hinner).nested (by decide) (by decide)
  exact ⟨outer, inner, houter, hinner, hnested⟩


end Session

end TokenSpans
