import Mathlib.Data.List.Infix
import TokenSpans.Proofs.Marking
import TokenSpans.Proofs.Spans

/-!
# Productions under several markers

A production may be surrounded by a marker, and the result is a production again that may be
surrounded by another. `Marker.aroundAll` does so for a list of names, the first one innermost.

`Marker.aroundAll_eq` says all that comes of it. The markers are set from the outside in, before
anything else happens; then the production runs as it would have run alone; then the markers are
completed from the inside out, all of them between the same two places, so that each one finds on
the item the spans of those inside it and adds its own. Where nothing is yielded there is nothing to
complete.

The result is an equation between actions, not between their values: host, item and all that
is heard, in order. Everything else about several markers is read off it: which spans an
item carries, which notices an observer gets, and that decorating a function is surrounding
each of its calls.

The list of names runs from the inside out, because `foldl` does. A further marker around
what is there is then one more element at the end, and the induction, which takes names from
the front, puts the new marker on the inside of those that are still to come.
-/

namespace TokenSpans

/-- A function of the value leaves the effects alone. -/
theorem Action.map_eq {α β : Type} (f : α → β) (x : Action α) :
    f <$> x = ⟨x.value.map f, x.effects⟩ := by
  obtain ⟨value, effects⟩ := x
  cases value with
  | error fault => rfl
  | ok a => exact Action.ext rfl (List.append_nil effects)

/-! ## Items under several names

What an item carries after one span was attached under several names is asked name by name.
The order of the names does not matter for what is found, nor whether they coincide; it does
matter for what the item carries on the way. -/

namespace HoldsSpans

variable {ι : Type} [HoldsSpans ι]

/-- The item with one span attached under each of the names, one after the other. -/
def attachAll (names : List String) (span : Span) (item : ι) : ι :=
  names.foldl (fun item name => HoldsSpans.attach item name span) item

/-- The first name is the first to be attached. -/
theorem attachAll_cons (name : String) (names : List String) (span : Span) (item : ι) :
    attachAll (name :: names) span item =
      attachAll names span (HoldsSpans.attach item name span) := rfl

/-- The span is found under each of the names, and what was under the others is still there. -/
theorem get?_attachAll (names : List String) (span : Span) (item : ι) (name : String) :
    (HoldsSpans.spans (attachAll names span item)).get? name =
      if name ∈ names then some span else (HoldsSpans.spans item).get? name := by
  induction names generalizing item with
  | nil => rfl
  | cons first rest ih =>
    rw [attachAll_cons, ih, HoldsSpans.spans_attach, Spans.get?_insert]
    by_cases hrest : name ∈ rest
    · simp [hrest]
    · by_cases hfirst : name = first
      · simp [hfirst]
      · simp [hrest, hfirst]

end HoldsSpans

/-! ## Completions

A completion is recorded with what the item carries at that moment, because that is what an
observer is shown. From the record one can tell what is heard (`heard`) and who is told
(`told`); the other way round it could not be recovered, since a report names only the
offsets. -/

/-- A marker that was completed on an item: its name, its span, and what the item carries by
then. -/
structure Completion where
  name : String
  span : Span
  /-- Everything that the item carries, with the new span among it. -/
  carried : Spans

namespace Completion

variable {ι : Type} [HoldsSpans ι]

/-- A marker is completed by attaching its span to the item. -/
def of (name : String) (span : Span) (item : ι) : Completion :=
  ⟨name, span, HoldsSpans.spans (HoldsSpans.attach item name span)⟩

/-- Markers are completed one after the other, all with one span: each one finds on the item the
spans of those before it. -/
def each : List String → Span → ι → List Completion
  | [], _, _ => []
  | name :: rest, span, item => of name span item :: each rest span (HoldsSpans.attach item name span)

/-- The markers are completed in the order of their names, and each one adds its own span. -/
theorem each_eq (names : List String) (span : Span) (item : ι) :
    each names span item = names.zipIdx.map fun (name, k) =>
      ⟨name, span, HoldsSpans.spans (HoldsSpans.attachAll (names.take (k + 1)) span item)⟩ := by
  induction names generalizing item with
  | nil => rfl
  | cons name rest ih =>
    rw [each, ih, List.zipIdx_cons', List.map_cons, List.map_map]
    rfl

/-- By then the item carries the span under the name. -/
def Holds (c : Completion) : Prop :=
  c.carried.get? c.name = some c.span

/-- The span that was just attached is there. -/
theorem holds_of (name : String) (span : Span) (item : ι) : (of name span item).Holds :=
  HoldsSpans.get?_attach item name span

/-- Each completion of several finds its own span on the item. -/
theorem holds_of_mem_each {names : List String} {span : Span} {item : ι} {c : Completion}
    (hc : c ∈ each names span item) : c.Holds := by
  induction names generalizing item with
  | nil => cases hc
  | cons name rest ih =>
    rcases List.mem_cons.mp hc with rfl | hc
    · exact holds_of name span item
    · exact ih hc

/-- The notice of a completion, if there is an observer to be told. -/
def told (observer : Option Observer) (c : Completion) : List Notice :=
  observer.toList.map fun observer => ⟨observer, "position", c.carried⟩

/-- What is heard of a completion: a report, and the notice, which is announced by another report.
-/
def heard (observer : Option Observer) (c : Completion) : List Effect :=
  .report (.completed c.name c.span.start.offset c.span.stop.offset) ::
    (c.told observer).flatMap fun notice => [.report (.notifying c.name), .notice notice]

/-- Of what is heard of a completion the notice is what an observer is told. -/
theorem notices_heard (observer : Option Observer) (c : Completion) :
    (c.heard observer).filterMap Effect.notice? = c.told observer := by
  cases observer with
  | none => rfl
  | some observer => rfl

/-- The notices of several completions are those of each, in order. -/
theorem notices_heard_all (observer : Option Observer) (completions : List Completion) :
    (completions.flatMap (heard observer)).filterMap Effect.notice? =
      completions.flatMap (told observer) := by
  rw [List.filterMap_flatMap]
  exact List.flatMap_congr fun c _ => c.notices_heard observer

end Completion

namespace Marker

variable {σ τ ι : Type} [HoldsSpans ι]

/-! ## One marker

There are four ways for one marker around a production to end: the production comes to a
fault, it yields nothing, it yields an item on a host that stands no earlier, or on one that
was taken back. Each has an equation, and the fourth is the only one in which the marker
itself is at fault. A host that reads a text is never taken back, but these are about any
production. -/

/-- A marker on a host that stands no earlier is attached, and that is heard. -/
theorem attach_eq {m : Marker} {view : View} (item : ι)
    (h : m.start.offset ≤ view.location.offset) :
    m.attach view item =
      ⟨.ok (⟨m.start, view.location, view.source⟩,
          HoldsSpans.attach item m.name ⟨m.start, view.location, view.source⟩),
        (Completion.of m.name ⟨m.start, view.location, view.source⟩ item).heard view.observer⟩ := by
  rw [attach, spanTo_value h]
  cases view.observer with
  | none => rfl
  | some observer => rfl

/-- On a host that stands before the marker nothing is attached, and nothing is heard. -/
theorem attach_of_backwards {m : Marker} {view : View} (item : ι)
    (h : view.location.offset < m.start.offset) :
    m.attach view item =
      ⟨.error (.backwards m.start.offset view.location.offset), []⟩ := by
  have hspan : m.spanTo view = .error (.backwards m.start.offset view.location.offset) :=
    if_neg (Nat.not_le_of_lt h)
  rw [attach, hspan]
  rfl

/-- Closing does and tells the same, and yields the item alone. -/
theorem close_eq {m : Marker} {view : View} (item : ι)
    (h : m.start.offset ≤ view.location.offset) :
    m.close view item =
      ⟨.ok (HoldsSpans.attach item m.name ⟨m.start, view.location, view.source⟩),
        (Completion.of m.name ⟨m.start, view.location, view.source⟩ item).heard view.observer⟩ := by
  rw [close, attach_eq item h]
  exact Action.ext rfl (List.append_nil _)

/-- Nor is a marker closed on a host that stands before it. -/
theorem close_of_backwards {m : Marker} {view : View} (item : ι)
    (h : view.location.offset < m.start.offset) :
    m.close view item =
      ⟨.error (.backwards m.start.offset view.location.offset), []⟩ := by
  rw [close, attach_of_backwards item h]
  rfl

section

variable {name : String} {view : σ → View} {host next : σ} {production : Action (σ × Option ι)}

/-- A fault of the production is the fault of the whole, after the marker was set. -/
theorem around_of_error {fault : Fault} (h : production.value = .error fault) :
    around name view host production =
      ⟨.error fault, .report (.marked name (view host).location) :: production.effects⟩ := by
  have hmarker : ((Marker.set (view host) name : Traced Marker) : Action Marker).value =
      .ok ⟨(view host).location, name⟩ := rfl
  rw [around, Action.bind_of_ok hmarker, Action.bind_of_error h]
  rfl

/-- Where nothing is yielded the marker is given up, which is heard. -/
theorem around_of_none (h : production.value = .ok (next, none)) :
    around name view host production =
      ⟨.ok (next, none), .report (.marked name (view host).location) :: production.effects ++
        [.report (.nothingProduced (view next).location.offset)]⟩ := by
  have hmarker : ((Marker.set (view host) name : Traced Marker) : Action Marker).value =
      .ok ⟨(view host).location, name⟩ := rfl
  rw [around, Action.bind_of_ok hmarker, Action.bind_of_ok h]
  rfl

/-- Where an item is yielded, the marker is closed on it. -/
theorem around_of_item {item : ι} (h : production.value = .ok (next, some item)) :
    around name view host production =
      ⟨((⟨(view host).location, name⟩ : Marker).close (view next) item).value.map fun item =>
          (next, some item),
        .report (.marked name (view host).location) :: production.effects ++
          ((⟨(view host).location, name⟩ : Marker).close (view next) item).effects⟩ := by
  have hmarker : ((Marker.set (view host) name : Traced Marker) : Action Marker).value =
      .ok ⟨(view host).location, name⟩ := rfl
  have hinner := Action.map_eq (fun item : ι => (next, some item))
    ((⟨(view host).location, name⟩ : Marker).close (view next) item)
  rw [around, Action.bind_of_ok hmarker, Action.bind_of_ok h]
  have hvalue := congrArg Action.value hinner
  have heffects := congrArg (fun x : Action (σ × Option ι) =>
    .report (.marked name (view host).location) :: production.effects ++ x.effects) hinner
  exact Action.ext hvalue heffects

/-- Where an item is yielded by a host that has moved on, the item gets its span. -/
theorem around_of_some {item : ι} (h : production.value = .ok (next, some item))
    (hoffset : (view host).location.offset ≤ (view next).location.offset) :
    around name view host production =
      ⟨.ok (next, some (HoldsSpans.attach item name
          ⟨(view host).location, (view next).location, (view next).source⟩)),
        .report (.marked name (view host).location) :: production.effects ++
          (Completion.of name ⟨(view host).location, (view next).location, (view next).source⟩
            item).heard (view next).observer⟩ := by
  rw [around_of_item h, close_eq item hoffset]
  rfl

/-- A host that was taken back cannot be marked: the span would run backwards. -/
theorem around_of_backwards {item : ι} (h : production.value = .ok (next, some item))
    (hoffset : (view next).location.offset < (view host).location.offset) :
    around name view host production =
      ⟨.error (.backwards (view host).location.offset (view next).location.offset),
        .report (.marked name (view host).location) :: production.effects⟩ := by
  rw [around_of_item h, close_of_backwards item hoffset, List.append_nil]
  rfl

/-- Inversion for a marker around a production: the host is left as the production has left it. -/
theorem of_around_eq_ok {yielded : Option ι}
    (h : (around name view host production).value = .ok (next, yielded)) :
    ∃ bare, production.value = .ok (next, bare) := by
  obtain ⟨marker, -, h⟩ := Action.of_bind_eq_ok h
  obtain ⟨⟨reached, bare⟩, hproduction, h⟩ := Action.of_bind_eq_ok h
  refine ⟨bare, hproduction.trans ?_⟩
  cases bare with
  | none =>
    obtain ⟨-, -, h⟩ := Action.of_bind_eq_ok h
    cases h
    rfl
  | some item =>
    obtain ⟨marked, -, h⟩ := Action.of_bind_eq_ok h
    cases h
    rfl

/-- Marking does not look at more of a host than its view. -/
theorem around_map {view' : τ → View} (f : σ → τ) (hview : ∀ x, view' (f x) = view x) :
    around name view' (f host) ((fun r => (f r.1, r.2)) <$> production) =
      (fun r => (f r.1, r.2)) <$> around name view host production := by
  have hmap := Action.map_eq (fun r : σ × Option ι => (f r.1, r.2)) production
  cases hvalue : production.value with
  | error fault =>
    have hvalue' : (⟨production.value.map fun r => (f r.1, r.2), production.effects⟩ :
        Action (τ × Option ι)).value = .error fault := by rw [hvalue]; rfl
    rw [hmap, around_of_error hvalue', around_of_error hvalue, Action.map_eq, hview]
    rfl
  | ok r =>
    obtain ⟨next, yielded⟩ := r
    have hvalue' : (⟨production.value.map fun r => (f r.1, r.2), production.effects⟩ :
        Action (τ × Option ι)).value = .ok (f next, yielded) := by rw [hvalue]; rfl
    cases yielded with
    | none =>
      rw [hmap, around_of_none hvalue', around_of_none hvalue, Action.map_eq, hview, hview]
      rfl
    | some item =>
      rw [hmap, around_of_item hvalue', around_of_item hvalue, Action.map_eq, hview, hview]
      refine Action.ext ?_ rfl
      cases ((⟨(view host).location, name⟩ : Marker).close (view next) item).value with
      | error fault => rfl
      | ok item => rfl

end

/-! ## Several markers

The outermost marker is set first and completed last. In the equation the effects fall into
three parts, `openings`, those of the production, and `endings`, and the induction over the
names moves one report from the middle part to each of the outer ones. -/

/-- One production surrounded by a marker for each of the names, the first one innermost. -/
def aroundAll (names : List String) (view : σ → View) (host : σ)
    (production : Action (σ × Option ι)) : Action (σ × Option ι) :=
  names.foldl (fun work name => around name view host work) production

/-- What is heard when the markers are set, the outermost first. -/
def openings (names : List String) (start : Location) : List Effect :=
  names.reverse.map fun name => .report (.marked name start)

/-- What is heard behind a production: the markers are completed on the item, the innermost first,
or each of them finds that there is none. -/
def endings (names : List String) (start : Location) (view : View) : Option ι → List Effect
  | none => names.map fun _ => .report (.nothingProduced view.location.offset)
  | some item => (Completion.each names ⟨start, view.location, view.source⟩ item).flatMap
      (Completion.heard view.observer)

/-- A further name on the inside is the last to be set. -/
theorem openings_cons (name : String) (names : List String) (start : Location) :
    openings (name :: names) start = openings names start ++ [.report (.marked name start)] := by
  rw [openings, List.reverse_cons, List.map_append]
  rfl

section

variable {view : σ → View} {host next : σ} {production : Action (σ × Option ι)}

/-- The first name surrounds the production itself, and the others what comes of that. -/
theorem aroundAll_cons (name : String) (names : List String) (view : σ → View) (host : σ)
    (production : Action (σ × Option ι)) :
    aroundAll (name :: names) view host production =
      aroundAll names view host (around name view host production) := rfl

/-- **Several markers around a production** are set before it, the outermost first, and completed
behind it, the innermost first. The host is left as the production leaves it, and an item gets the
same span under all the names. -/
theorem aroundAll_eq {yielded : Option ι} (names : List String)
    (h : production.value = .ok (next, yielded))
    (hoffset : ∀ item ∈ yielded, (view host).location.offset ≤ (view next).location.offset) :
    aroundAll names view host production =
      ⟨.ok (next, yielded.map (HoldsSpans.attachAll names
          ⟨(view host).location, (view next).location, (view next).source⟩)),
        openings names (view host).location ++ production.effects ++
          endings names (view host).location (view next) yielded⟩ := by
  induction names generalizing production yielded with
  | nil =>
    have hyielded : yielded.map (HoldsSpans.attachAll []
        ⟨(view host).location, (view next).location, (view next).source⟩) = yielded :=
      Option.map_id'
    have hendings : endings [] (view host).location (view next) yielded = [] := by
      cases yielded <;> rfl
    rw [hyielded, hendings, ← h, List.append_nil]
    rfl
  | cons name rest ih =>
    rw [aroundAll_cons, openings_cons]
    cases yielded with
    | none =>
      rw [ih (congrArg Action.value (around_of_none h)) hoffset, around_of_none h]
      refine Action.ext rfl ?_
      simp [endings]
    | some item =>
      -- the host is the same after the first marker, so the others find it where it stood
      have hle := hoffset item rfl
      rw [ih (congrArg Action.value (around_of_some h hle)) fun _ _ => hle, around_of_some h hle]
      refine Action.ext rfl ?_
      simp [endings, Completion.each]

/-- A production that comes to a fault does so under markers, too. -/
theorem aroundAll_of_error {fault : Fault} (names : List String)
    (h : production.value = .error fault) :
    aroundAll names view host production =
      ⟨.error fault, openings names (view host).location ++ production.effects⟩ := by
  induction names generalizing production with
  | nil => exact Action.ext h rfl
  | cons name rest ih =>
    rw [aroundAll_cons, openings_cons, ih (congrArg Action.value (around_of_error h)),
      around_of_error h]
    simp

/-- Of several markers around a production that takes its host back, the innermost comes to a
fault. -/
theorem aroundAll_of_backwards {item : ι} (name : String) (names : List String)
    (h : production.value = .ok (next, some item))
    (hoffset : (view next).location.offset < (view host).location.offset) :
    aroundAll (name :: names) view host production =
      ⟨.error (.backwards (view host).location.offset (view next).location.offset),
        openings (name :: names) (view host).location ++ production.effects⟩ := by
  rw [aroundAll_cons, openings_cons,
    aroundAll_of_error names (congrArg Action.value (around_of_backwards h hoffset)),
    around_of_backwards h hoffset]
  simp

/-- Inversion for markers around a production: the host is left as the production has left it. -/
theorem of_aroundAll_eq_ok {names : List String} {yielded : Option ι}
    (h : (aroundAll names view host production).value = .ok (next, yielded)) :
    ∃ bare, production.value = .ok (next, bare) := by
  induction names generalizing production with
  | nil => exact ⟨yielded, h⟩
  | cons name rest ih =>
    rw [aroundAll_cons] at h
    obtain ⟨marked, hmarked⟩ := ih h
    exact of_around_eq_ok hmarked

/-- A production function decorated under several names, the first one innermost. -/
def wrapAll {α : Type} (names : List String) (view : σ → View)
    (produce : σ → α → Action (σ × Option ι)) : σ → α → Action (σ × Option ι) :=
  names.foldl (fun produce name => wrap name view produce) produce

/-- Decorations of a production function are markers around each of its productions. -/
theorem wrapAll_eq {α : Type} (names : List String) (view : σ → View)
    (produce : σ → α → Action (σ × Option ι)) (host : σ) (argument : α) :
    wrapAll names view produce host argument =
      aroundAll names view host (produce host argument) := by
  induction names generalizing produce with
  | nil => rfl
  | cons name rest ih => exact ih (wrap name view produce)

/-- Marking under several names does not look at more of a host than its view, either. -/
theorem aroundAll_map {view' : τ → View} (f : σ → τ) (hview : ∀ x, view' (f x) = view x)
    (names : List String) :
    aroundAll names view' (f host) ((fun r => (f r.1, r.2)) <$> production) =
      (fun r => (f r.1, r.2)) <$> aroundAll names view host production := by
  induction names generalizing production with
  | nil => rfl
  | cons name rest ih => rw [aroundAll_cons, aroundAll_cons, around_map f hview, ih]

end

/-! ## Notices

An observer hears nothing of a marker being set. So the notices of a marked production are
those of the production itself and then one for each completion. -/

/-- Reports are no notices. -/
theorem notices_reports (reports : List Report) :
    (reports.map Effect.report).filterMap Effect.notice? = [] := by
  rw [List.filterMap_map]
  exact List.filterMap_eq_nil_iff.mpr fun _ _ => rfl

/-- Nobody is told of a marker that is set. -/
theorem notices_openings (names : List String) (start : Location) :
    (openings names start).filterMap Effect.notice? = [] := by
  have hreports : openings names start =
      (names.reverse.map fun name => .marked name start).map Effect.report := by
    rw [List.map_map]
    rfl
  rw [hreports, notices_reports]

/-- One notice for each marker that is completed, if there is one to be told. -/
theorem notices_endings (names : List String) (start : Location) (view : View)
    (yielded : Option ι) :
    (endings names start view yielded).filterMap Effect.notice? =
      (yielded.toList.flatMap (Completion.each names ⟨start, view.location, view.source⟩)).flatMap
        (Completion.told view.observer) := by
  cases yielded with
  | none =>
    have hreports : (endings names start view (none : Option ι)) =
        (names.map fun _ => .nothingProduced view.location.offset).map Effect.report := by
      rw [List.map_map]
      rfl
    rw [hreports, notices_reports]
    rfl
  | some item =>
    rw [endings, Completion.notices_heard_all, Option.toList_some, List.flatMap_singleton]

end Marker

end TokenSpans
