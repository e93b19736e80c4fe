import Mathlib.Data.List.Nodup
import TokenSpans.Proofs.Session.Course
import TokenSpans.Proofs.Surrounding

/-!
# Attaching markers to items of a session

A marker is attached to an item as a whole or not at all. Where the host stands before the place at
which the marker was set, nothing changes and nothing is heard (`step_attach_of_backwards`).
Anywhere else the item gets one span, under the name of the marker, and all else in the session
stays (`step_attach`). The host need not be the one on which the marker was set, and the item may
carry any spans already.

Spans under different names do not meet on an item, so several markers may be attached in any order
(`run_attach`).

Nothing is supposed about the session here. The marker may come from another text and the
item may carry spans that run backwards, since a session does not check what it is handed.
So the three things that a call needs, `Ready`, are all that the statements start from, and
what they say is what the call does with them: the whole effect or none.

Closing goes the same way as attaching and differs in what is handed out, and in what is
left when it is refused: the item was given away by then, and is gone.
-/

namespace TokenSpans.Session

/-! ## What attaching makes of an item

An item is its spans and what is left without them. Attaching changes one entry of the first
and nothing of the second, and `Attached` says so by the values under every name; how the
spans are stored does not come up. The order of two attachments does not matter as long as
the names differ, and that holds of the items themselves, since spans are stored in a normal
form. -/

/-- The item without the spans it carries. -/
def Item.strip : Item → Item
  | .token t => .token t.strip
  | .spans _ => .spans .empty

/-- Attaching changes the spans and nothing else: a token keeps its kind and value. -/
@[simp] theorem Item.strip_attach (item : Item) (name : String) (span : Span) :
    (HoldsSpans.attach item name span).strip = item.strip := by
  cases item with
  | token t => rfl
  | spans s => rfl

/-- Spans under different names are attached in either order. -/
theorem Item.attach_attach_of_ne {name other : String} (h : name ≠ other) (item : Item)
    (span span' : Span) :
    HoldsSpans.attach (HoldsSpans.attach item name span) other span' =
      HoldsSpans.attach (HoldsSpans.attach item other span') name span := by
  cases item with
  | token t =>
    exact congrArg (fun s => Item.token ⟨t.kind, t.value, s⟩)
      (Spans.insert_insert_of_ne h t.spans span span')
  | spans s => exact congrArg Item.spans (Spans.insert_insert_of_ne h s span span')

/-- A marker was attached to an item where the host is seen like this: the span, and the item that
is left with it. -/
structure Attached (m : Marker) (view : View) (item : Item) (span : Span) (left : Item) : Prop where
  /-- the span is the one now carried under the name of the marker -/
  carried : (HoldsSpans.spans left).get? m.name = some span
  /-- it starts where the marker does -/
  start : span.start = m.start
  /-- it ends where the host is seen -/
  stop : span.stop = view.location
  /-- its label is the one of the host now, not of when the marker was set -/
  source : span.source = view.source
  /-- the spans under other names are those from before -/
  others : ∀ name, name ≠ m.name →
    (HoldsSpans.spans left).get? name = (HoldsSpans.spans item).get? name
  /-- and all that is not a span is from before too -/
  strip : left.strip = item.strip

/-- The span from a marker to where a host is seen. -/
def spanOf (view : View) (m : Marker) : Span :=
  ⟨m.start, view.location, view.source⟩

/-- Attaching the span from the marker to the host leaves such an item. -/
theorem attached (m : Marker) (view : View) (item : Item) :
    Attached m view item (spanOf view m) (HoldsSpans.attach item m.name (spanOf view m)) where
  carried := HoldsSpans.get?_attach ..
  start := rfl
  stop := rfl
  source := rfl
  others := by
    intro name hname
    rw [HoldsSpans.spans_attach, Spans.get?_insert, if_neg hname]
  strip := item.strip_attach ..

/-! ## One call

The call is decided by one comparison of offsets, and each side of it has an equation for
the whole step, state, reply and effects together. Lines and columns do not take part in the
comparison. An equation is more than the frame facts that follow from it, and `refused_iff`
is read off the two. -/

/-- The session with another item in the place of one. -/
def State.withItem (s : State) (index : Nat) (item : Item) : State :=
  { s with items := s.items.set index (some item) }

/-- What a marker needs to be attached: a host is there, the marker was set, and so is the item. -/
structure Ready (s : State) (x : Subject) (marker : Nat) (m : Marker) (index : Nat) (item : Item) :
    Prop where
  /-- the host is there -/
  host : s.subject = some x
  /-- the marker has this number -/
  marker : s.markers[marker]? = some m
  /-- the item has this one -/
  item : s.items[index]? = some (some item)

section

variable {s : State} {x : Subject} {marker index : Nat} {m : Marker} {item : Item}
  (h : Ready s x marker m index item)

include h

/-- Up to a host that stands no earlier than the marker, only the item changes. -/
theorem step_attach (hoffset : m.start.offset ≤ x.view.location.offset) :
    step s (.attach marker index) =
      ⟨(s.withItem index (HoldsSpans.attach item m.name (spanOf x.view m)),
          .attached (spanOf x.view m) (HoldsSpans.attach item m.name (spanOf x.view m))),
        (Completion.of m.name (spanOf x.view m) item).heard x.view.observer⟩ := by
  rw [step, h.host]
  simp only [stepOn, h.marker, h.item, Option.join_some, Marker.attach_eq item hoffset]
  exact Traced.ext rfl (List.append_nil _)

/-- On a host that stands before the marker the session stays as it is, and nothing is heard. -/
theorem step_attach_of_backwards (hoffset : x.view.location.offset < m.start.offset) :
    step s (.attach marker index) =
      ⟨(s, .refused (.fault (.backwards m.start.offset x.view.location.offset))), []⟩ := by
  rw [step, h.host]
  simp only [stepOn, h.marker, h.item, Option.join_some, Marker.attach_of_backwards item hoffset]
  rfl

/-- Closing a marker leaves the item that attaching it would leave. -/
theorem step_close (hoffset : m.start.offset ≤ x.view.location.offset) :
    (step s (.close marker index)).value =
      (s.withItem index (HoldsSpans.attach item m.name (spanOf x.view m)),
        .item (HoldsSpans.attach item m.name (spanOf x.view m))) := by
  rw [step, h.host]
  simp only [stepOn, h.marker, h.item, Option.join_some]
  rw [production_of_ok (Marker.close_value item hoffset)]
  rfl

/-- A marker is refused exactly on a host that stands before it. -/
theorem refused_iff : (∃ f, (step s (.attach marker index)).value.2 = .refused (.fault f)) ↔
    x.view.location.offset < m.start.offset := by
  constructor
  · rintro ⟨f, hf⟩
    refine Nat.lt_of_not_le fun hoffset => ?_
    rw [step_attach h hoffset] at hf
    cases hf
  · intro hoffset
    rw [step_attach_of_backwards h hoffset]
    exact ⟨_, rfl⟩

end

/-! ## Several markers

Attaching one marker after the other is a fold over the markers, with the view fixed, since
no call in between moves the host. Two neighbours may be exchanged where their names differ,
so a fold over markers with different names does not depend on the order, and the library
lemma about folds over permuted lists does the rest. Without the condition it would: of two
markers with one name the last one wins. -/

/-- The item with a span from each of the markers, attached one after the other. -/
def attachEach (view : View) (markers : List Marker) (item : Item) : Item :=
  markers.foldl (fun item m => HoldsSpans.attach item m.name (spanOf view m)) item

section

variable {view : View} {markers : List Marker}

/-- Attaching many spans changes nothing but spans. -/
theorem strip_attachEach (view : View) (markers : List Marker) (item : Item) :
    (attachEach view markers item).strip = item.strip := by
  induction markers generalizing item with
  | nil => rfl
  | cons m rest ih =>
    rw [attachEach, List.foldl_cons]
    exact (ih _).trans (item.strip_attach ..)

/-- Under a name that none of the markers has the item carries what it carried before. -/
theorem get?_attachEach_of_not_mem {name : String} (h : name ∉ markers.map Marker.name)
    (item : Item) : (HoldsSpans.spans (attachEach view markers item)).get? name =
      (HoldsSpans.spans item).get? name := by
  induction markers generalizing item with
  | nil => rfl
  | cons m rest ih =>
    rw [List.map_cons, List.mem_cons, not_or] at h
    rw [attachEach, List.foldl_cons]
    refine (ih h.2 _).trans ?_
    rw [HoldsSpans.spans_attach, Spans.get?_insert, if_neg h.1]

/-- Under the name of a marker the item carries its span, if no later marker has that name. -/
theorem get?_attachEach (hnames : (markers.map Marker.name).Nodup) {m : Marker} (hm : m ∈ markers)
    (item : Item) : (HoldsSpans.spans (attachEach view markers item)).get? m.name =
      some (spanOf view m) := by
  induction markers generalizing item with
  | nil => cases hm
  | cons first rest ih =>
    rw [List.map_cons, List.nodup_cons] at hnames
    rw [attachEach, List.foldl_cons]
    rcases List.mem_cons.mp hm with rfl | hm
    · exact (get?_attachEach_of_not_mem hnames.1 _).trans (HoldsSpans.get?_attach ..)
    · exact ih hnames.2 hm _

/-- Markers with different names make the same of an item in any order. -/
theorem attachEach_perm {markers' : List Marker} (hnames : (markers.map Marker.name).Nodup)
    (hperm : markers.Perm markers') (item : Item) :
    attachEach view markers item = attachEach view markers' item := by
  refine hperm.foldl_eq' (fun m hm m' hm' item => ?_) item
  by_cases hname : m.name = m'.name
  · -- of two markers with one name there is only one
    rw [List.inj_on_of_nodup_map hnames hm hm' hname]
  · exact Item.attach_attach_of_ne hname item ..

end

section

variable {s : State} {x : Subject} {index : Nat} {item : Item}

/-- An item in its own place changes nothing. -/
theorem withItem_self (hitem : s.items[index]? = some (some item)) : s.withItem index item = s := by
  obtain ⟨hlt, hget⟩ := List.getElem?_eq_some_iff.mp hitem
  rw [State.withItem, ← hget, List.set_getElem_self]

/-- Of two items in one place the second stays. -/
theorem withItem_withItem (s : State) (index : Nat) (item item' : Item) :
    (s.withItem index item).withItem index item' = s.withItem index item' := by
  rw [State.withItem, State.withItem, State.withItem, List.set_set]

/-- What a marker needs is still there after the item has changed. -/
theorem Ready.withItem {marker : Nat} {m : Marker} (h : Ready s x marker m index item)
    (left : Item) : Ready (s.withItem index left) x marker m index left where
  host := h.host
  marker := h.marker
  item := by
    obtain ⟨hlt, -⟩ := List.getElem?_eq_some_iff.mp h.item
    exact List.getElem?_set_self hlt

/-- **Markers attached one after the other** leave the session with the item that has all their
spans, and with nothing else changed. -/
theorem run_attach {marks : List (Nat × Marker)} (hitem : s.items[index]? = some (some item))
    (hmarks : ∀ p ∈ marks, Ready s x p.1 p.2 index item ∧
      p.2.start.offset ≤ x.view.location.offset) :
    (run s (marks.map fun p => .attach p.1 index)).value.1 =
      s.withItem index (attachEach x.view (marks.map Prod.snd) item) := by
  induction marks generalizing s item with
  | nil => exact (withItem_self hitem).symm
  | cons p rest ih =>
    obtain ⟨⟨hready, hoffset⟩, hrest⟩ := List.forall_mem_cons.mp hmarks
    -- the other markers find the item as this one has left it
    have hready' := hready.withItem (HoldsSpans.attach item p.2.name (spanOf x.view p.2))
    have hstep := congrArg (fun work => work.value.1) (step_attach hready hoffset)
    have hmore := ih hready'.item fun q hq => ⟨(hrest q hq).1.withItem _, (hrest q hq).2⟩
    rw [withItem_withItem] at hmore
    rw [List.map_cons, run]
    simp only [Traced.bind_value, Traced.pure_value]
    rw [hstep]
    exact hmore

end

/-- **Attaching a marker is all or nothing**, whatever host it was set on and whatever the item
carries. It is refused exactly where the host stands before the marker; then the session with its
items stays as it is, no observer is told and no completion is reported. Otherwise the item gets the
span, which takes the place of one under the same name, and nothing else changes; the span is also
handed out, and closing the marker yields the same item. Markers with different names that start no
later than the host leave the same item in every order. -/
theorem attach_all_or_nothing (s : State) (x : Subject) (marker : Nat) (m : Marker) (index : Nat)
    (item : Item) (h : Ready s x marker m index item) :
    ((∃ f, (step s (.attach marker index)).value.2 = .refused (.fault f)) ↔
        x.view.location.offset < m.start.offset) ∧
      (x.view.location.offset < m.start.offset →
        (step s (.attach marker index)).value.1 = s ∧
          (step s (.attach marker index)).effects = []) ∧
      (m.start.offset ≤ x.view.location.offset →
        ∃ span left, Attached m x.view item span left ∧
          (step s (.attach marker index)).value = (s.withItem index left, .attached span left) ∧
          (step s (.close marker index)).value = (s.withItem index left, .item left)) ∧
      ∀ marks marks' : List (Nat × Marker),
        (∀ p ∈ marks, s.markers[p.1]? = some p.2 ∧
          p.2.start.offset ≤ x.view.location.offset) →
        (marks.map fun p => p.2.name).Nodup → marks.Perm marks' →
        ∃ left, (run s (marks.map fun p => .attach p.1 index)).value.1 = s.withItem index left ∧
          (run s (marks'.map fun p => .attach p.1 index)).value.1 = s.withItem index left ∧
          (∀ p ∈ marks, (HoldsSpans.spans left).get? p.2.name =
            some ⟨p.2.start, x.view.location, x.view.source⟩) ∧
          (∀ name, name ∉ marks.map (fun p => p.2.name) →
            (HoldsSpans.spans left).get? name = (HoldsSpans.spans item).get? name) ∧
          left.strip = item.strip := by
  refine ⟨refused_iff h, ?_, ?_, ?_⟩
  · intro hoffset
    rw [step_attach_of_backwards h hoffset]
    exact ⟨rfl, rfl⟩
  · intro hoffset
    refine ⟨spanOf x.view m, _, attached m x.view item, ?_, step_close h hoffset⟩
    rw [step_attach h hoffset]
  · intro marks marks' hmarks hnames hperm
    have hready : ∀ p ∈ marks, Ready s x p.1 p.2 index item ∧
        p.2.start.offset ≤ x.view.location.offset :=
      fun p hp => ⟨⟨h.host, (hmarks p hp).1, h.item⟩, (hmarks p hp).2⟩
    have hmap : marks.map (fun p => p.2.name) = (marks.map Prod.snd).map Marker.name := by
      rw [List.map_map]
      rfl
    rw [hmap] at hnames ⊢
    refine ⟨_, run_attach h.item hready, ?_, ?_, ?_, strip_attachEach ..⟩
    · rw [attachEach_perm hnames (hperm.map Prod.snd)]
      exact run_attach h.item fun p hp => hready p (hperm.mem_iff.mpr hp)
    · intro p hp
      exact get?_attachEach hnames (List.mem_map_of_mem hp) item
    · intro name hname
      exact get?_attachEach_of_not_mem hname item

/-- A token with a span that runs backwards under one of the names, on a cursor that stands between
markers of another one: the marker in front of it is refused, the others are attached in both
orders. -/
theorem attach_all_or_nothing_elsewhere :
    let cursor := (Cursor.ofText .standard ['a', 'b']).moved ['a'] ['b']
    let item := Item.token ⟨"word", "a", .ofList [("inner", ⟨⟨9, 9, 9⟩, ⟨0, 1, 1⟩, some ""⟩)]⟩
    let s : State := ⟨some (.cursor cursor),
      [⟨⟨0, 1, 1⟩, "outer"⟩, ⟨⟨1, 3, 1⟩, "inner"⟩, ⟨⟨2, 1, 3⟩, "late"⟩], [some item]⟩
    (step s (.attach 2 0)).value.1 = s ∧
      (∃ span left, Attached ⟨⟨1, 3, 1⟩, "inner"⟩ cursor.view item span left ∧
        (step s (.attach 1 0)).value = (s.withItem 0 left, .attached span left)) ∧
      (run s [.attach 0 0, .attach 1 0]).value.1 = (run s [.attach 1 0, .attach 0 0]).value.1 := by
  intro cursor item s
  have hlate := attach_all_or_nothing s (.cursor cursor) 2 ⟨⟨2, 1, 3⟩, "late"⟩ 0 item
    ⟨rfl, rfl, rfl⟩
  obtain ⟨-, -, hinner, horders⟩ :=
    attach_all_or_nothing s (.cursor cursor) 1 ⟨⟨1, 3, 1⟩, "inner"⟩ 0 item ⟨rfl, rfl, rfl⟩
  obtain ⟨span, left, hattached, hstep, -⟩ := hinner (by decide)
  obtain ⟨left', hforth, hback, -⟩ := horders
    [(0, ⟨⟨0, 1, 1⟩, "outer"⟩), (1, ⟨⟨1, 3, 1⟩, "inner"⟩)]
    [(1, ⟨⟨1, 3, 1⟩, "inner"⟩), (0, ⟨⟨0, 1, 1⟩, "outer"⟩)]
    (List.forall_mem_cons.mpr ⟨⟨rfl, by decide⟩, List.forall_mem_singleton.mpr ⟨rfl, by decide⟩⟩)
    (by decide) (List.Perm.swap ..)
  exact ⟨(hlate.2.1 (by decide)).1, ⟨span, left, hattached, hstep⟩, hforth.trans hback.symm⟩

end TokenSpans.Session
