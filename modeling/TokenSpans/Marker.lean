import TokenSpans.Cursor

/-!
# Markers

A marker remembers where something started and the name its span will have. Completing it looks
where the host is by then, attaches the span between the two places to an item, and tells the
observer, if there is one to be told. A marker does not hold the host it was set on: it may be
completed more than once, and on any host.

What a marker needs of a host is its `View`, and nothing here depends on how the host reads:
`around` takes any state with a function that shows it, so one definition surrounds the
productions of lexers, of chunkers and of hosts that are tracked themselves.

Completing has a fixed order: the span is made first and may be a fault; then it is reported
and attached; the observer comes last, and is told of the item with the new span already on
it. The comparison of the two offsets is not dropped, although a host that only moves on can
never fail it, since a marker may be completed on another host.
-/

namespace TokenSpans

/-- The start of a span that is not complete yet. -/
structure Marker where
  start : Location
  /-- The name under which the span is attached. -/
  name : String
  deriving DecidableEq, Repr

namespace Marker

/-- The name of the event of which observers are told. -/
def eventName : String :=
  "position"

/-- Sets a marker where the host is now. -/
def set (view : View) (name : String) : Traced Marker := do
  Traced.report (.marked name view.location)
  return ⟨view.location, name⟩

/-- The span up to where the host is now; nothing is attached and nobody is told. The label
is that of the host at this moment, not of when the marker was set. -/
def spanTo (m : Marker) (view : View) : Except Fault Span :=
  Span.between m.start view.location view.source

/-- Attaches the span up to where the host is now, and yields the span with the item. If the
span is a fault nothing else happens: the item is not touched and nothing is heard. -/
def attach {ι : Type} [HoldsSpans ι] (m : Marker) (view : View) (item : ι) :
    Action (Span × ι) := do
  let span ← m.spanTo view
  Traced.report (.completed m.name span.start.offset span.stop.offset)
  let item := HoldsSpans.attach item m.name span
  if let some observer := view.observer then
    Traced.report (.notifying m.name)
    Traced.notify ⟨observer, eventName, HoldsSpans.spans item⟩
  return (span, item)

/-- Attaches the span up to where the host is now, and yields the item alone. -/
def close {ι : Type} [HoldsSpans ι] (m : Marker) (view : View) (item : ι) : Action ι := do
  let (_, item) ← m.attach view item
  return item

/--
Surrounds one production of a host by a marker: set before it, and completed on the item if it
yields one.
-/
def around {σ ι : Type} [HoldsSpans ι] (name : String) (view : σ → View) (host : σ)
    (production : Action (σ × Option ι)) : Action (σ × Option ι) := do
  let marker ← Marker.set (view host) name
  let (next, yielded) ← production
  match yielded with
  | some item =>
    let item ← marker.close (view next) item
    return (next, some item)
  | none =>
    Traced.report (.nothingProduced (view next).location.offset)
    return (next, none)

/-- What a marked production yields was yielded by the production, and the host is the same.
This is what the termination of hosts needs of markers: surrounding a production does not
make it yield more. -/
theorem of_around_eq_some {σ ι : Type} [HoldsSpans ι] {name : String} {view : σ → View}
    {host next : σ} {production : Action (σ × Option ι)} {item : ι}
    (h : (around name view host production).value = .ok (next, some item)) :
    ∃ bare, production.value = .ok (next, some bare) := by
  -- one inversion for each step of `around`: the marker, the production, and then what it
  -- yielded
  obtain ⟨marker, -, h⟩ := Action.of_bind_eq_ok h
  obtain ⟨⟨reached, yielded⟩, hproduction, h⟩ := Action.of_bind_eq_ok h
  cases yielded with
  | none =>
    obtain ⟨-, -, h⟩ := Action.of_bind_eq_ok h
    simp at h
  | some bare =>
    obtain ⟨marked, -, h⟩ := Action.of_bind_eq_ok h
    simp only [Action.pure_value, Except.ok.injEq, Prod.mk.injEq] at h
    exact ⟨bare, by rw [hproduction, h.1]⟩

/-- The production function that does what `produce` does and marks every item it yields. It
is itself such a function and may be wrapped again. -/
def wrap {σ α ι : Type} [HoldsSpans ι] (name : String) (view : σ → View)
    (produce : σ → α → Action (σ × Option ι)) (host : σ) (argument : α) :
    Action (σ × Option ι) :=
  around name view host (produce host argument)

/-- All fields with their names. -/
def dump (m : Marker) : String :=
  "Marker \x7b start: " ++ m.start.dump ++ ", name: " ++ Text.quoted m.name ++ " \x7d"

end Marker

end TokenSpans
