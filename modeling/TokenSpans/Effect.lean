import TokenSpans.Report
import TokenSpans.Spans

/-!
# Work and what is heard of it

Reading a text has two kinds of effect on the outside: reports on the work, and notices to an
observer of completed spans. Neither changes what is computed, so both are returned beside the
value, in the order in which they happen.

`Traced` is work that always yields a value, and `Action` is work that may end in a fault. The
effects up to the fault are kept.

The two are monads of writers, made by hand so that everything about them is visible: the
value and the list of effects are fields, and each lemma below says of one operation what it
does to one field. The lemmas are tagged for `simp`, which turns a `do` block into its value
and the concatenation of its effects. For an `Action` there is a branch at each step, so
there the proofs go by `bind_of_ok`, `bind_of_error` and the inversion `of_bind_eq_ok`
instead.

Effects are never read by the work itself. There is no operation that looks at them, and so
none that could depend on who listens.
-/

namespace TokenSpans

/-! ## What can be heard

A report is about the work and is said whoever listens; whether it is let through is decided
elsewhere. A notice is for one observer, and holds all that this observer could ask for, the
spans on the item at that moment. -/

/-- One who is told of completed spans, and under which names it looks for them. -/
structure Observer where
  /-- The names, in the order in which they are looked up. -/
  watches : List String
  deriving DecidableEq, Repr

/-- One call of an observer: the name of the event and the spans that the item carries by then. -/
structure Notice where
  observer : Observer
  /-- The name of the event, the same for all completed spans. -/
  event : String
  /-- All spans on the item, the completed one among them. -/
  spans : Spans
  deriving DecidableEq, Repr

namespace Notice

/-- What the observer sees of the item: the spans under the names it watches. -/
def seen (n : Notice) : List (String × Option Span) :=
  n.observer.watches.map (fun name => (name, n.spans.get? name))

end Notice

/-- Something heard on the outside. -/
inductive Effect
  | report (r : Report)
  | notice (n : Notice)
  deriving DecidableEq, Repr

namespace Effect

/-- The report, if the effect is one. -/
def report? : Effect → Option Report
  | report r => some r
  | notice _ => none

/-- The notice, if the effect is one. -/
def notice? : Effect → Option Notice
  | report _ => none
  | notice n => some n

end Effect

/-! ## Work that always yields a value

The equations say what each operation does to the value and to the effects, and `simp` may
use them in any order. The laws of the monad are those of lists, since doing one thing after
another appends the effects. -/

/-- A value and the effects of computing it, the first one first. -/
structure Traced (α : Type) where
  value : α
  /-- In the order in which they happen. -/
  effects : List Effect

namespace Traced

variable {α β : Type}

instance : Monad Traced where
  pure a := ⟨a, []⟩
  bind x f :=
    let y := f x.value
    ⟨y.value, x.effects ++ y.effects⟩

@[simp] theorem pure_value (a : α) : (pure a : Traced α).value = a := rfl

@[simp] theorem pure_effects (a : α) : (pure a : Traced α).effects = [] := rfl

@[simp] theorem bind_value (x : Traced α) (f : α → Traced β) :
    (x >>= f).value = (f x.value).value := rfl

@[simp] theorem bind_effects (x : Traced α) (f : α → Traced β) :
    (x >>= f).effects = x.effects ++ (f x.value).effects := rfl

@[simp] theorem map_value (g : α → β) (x : Traced α) : (g <$> x).value = g x.value := rfl

@[simp] theorem map_effects (g : α → β) (x : Traced α) : (g <$> x).effects = x.effects := by
  change x.effects ++ [] = x.effects
  simp

/-- Work is its value and its effects. -/
theorem ext {x y : Traced α} (hv : x.value = y.value) (he : x.effects = y.effects) : x = y := by
  cases x
  cases y
  cases hv
  cases he
  rfl

instance : LawfulMonad Traced :=
  LawfulMonad.mk' Traced
    (fun x => ext rfl (by change x.effects ++ [] = x.effects; simp))
    (fun _ _ => rfl)
    (fun _ _ _ => ext rfl (List.append_assoc _ _ _))

/-- Says one thing. -/
def report (r : Report) : Traced Unit :=
  ⟨(), [.report r]⟩

/-- Tells an observer. -/
def notify (n : Notice) : Traced Unit :=
  ⟨(), [.notice n]⟩

@[simp] theorem report_effects (r : Report) : (report r).effects = [.report r] := rfl

@[simp] theorem notify_effects (n : Notice) : (notify n).effects = [.notice n] := rfl

/-- The reports among the effects. -/
def reports (x : Traced α) : List Report :=
  x.effects.filterMap Effect.report?

/-- The notices among the effects. -/
def notices (x : Traced α) : List Notice :=
  x.effects.filterMap Effect.notice?

end Traced

/-! ## Work that may end in a fault

A fault ends the work and keeps what was heard before it, so that a run which fails has said
why. Whether a step has come to a value has to be known before anything can be said about
the steps after it, which is why there are no equations for `bind` here that `simp` could
use. -/

/-- A value or a fault, and the effects of coming to it, the first one first. -/
structure Action (α : Type) where
  value : Except Fault α
  effects : List Effect

namespace Action

variable {α β : Type}

instance : Monad Action where
  pure a := ⟨.ok a, []⟩
  bind x f :=
    match x.value with
    | .error fault => ⟨.error fault, x.effects⟩
    | .ok a =>
      let y := f a
      ⟨y.value, x.effects ++ y.effects⟩

/-- Work is what it comes to and its effects. -/
theorem ext {x y : Action α} (hv : x.value = y.value) (he : x.effects = y.effects) : x = y := by
  cases x
  cases y
  cases hv
  cases he
  rfl

/-- Ends in a fault. -/
def fail (fault : Fault) : Action α :=
  ⟨.error fault, []⟩

/-- Work that has no fault to end in. -/
def ofTraced (x : Traced α) : Action α :=
  ⟨.ok x.value, x.effects⟩

/-- A value or a fault that came about without effects. -/
def ofExcept (x : Except Fault α) : Action α :=
  ⟨x, []⟩

instance : MonadLift Traced Action :=
  ⟨ofTraced⟩

instance : MonadLift (Except Fault) Action :=
  ⟨ofExcept⟩

/-- The same work with the fault as a value. -/
def outcome (x : Action α) : Traced (Except Fault α) :=
  ⟨x.value, x.effects⟩

/-- The reports among the effects. -/
def reports (x : Action α) : List Report :=
  x.effects.filterMap Effect.report?

/-- The notices among the effects. -/
def notices (x : Action α) : List Notice :=
  x.effects.filterMap Effect.notice?

@[simp] theorem pure_value (a : α) : (pure a : Action α).value = .ok a := rfl

@[simp] theorem pure_effects (a : α) : (pure a : Action α).effects = [] := rfl

@[simp] theorem fail_value (fault : Fault) : (fail fault : Action α).value = .error fault := rfl

@[simp] theorem fail_effects (fault : Fault) : (fail fault : Action α).effects = [] := rfl

@[simp] theorem lift_traced_value (x : Traced α) : (liftM x : Action α).value = .ok x.value := rfl

@[simp] theorem lift_traced_effects (x : Traced α) : (liftM x : Action α).effects = x.effects :=
  rfl

@[simp] theorem lift_except_value (x : Except Fault α) : (liftM x : Action α).value = x := rfl

@[simp] theorem lift_except_effects (x : Except Fault α) : (liftM x : Action α).effects = [] :=
  rfl

/-- Work goes on where the value is there. -/
theorem bind_of_ok {x : Action α} {a : α} (h : x.value = .ok a) (f : α → Action β) :
    x >>= f = ⟨(f a).value, x.effects ++ (f a).effects⟩ := by
  cases x
  cases h
  rfl

/-- Work ends with the first fault. -/
theorem bind_of_error {x : Action α} {fault : Fault} (h : x.value = .error fault)
    (f : α → Action β) : x >>= f = ⟨.error fault, x.effects⟩ := by
  cases x
  cases h
  rfl

/-- Work that comes to a value came to one at each step. Most proofs about a run that
succeeds open it with this lemma, one step at a time. -/
theorem of_bind_eq_ok {x : Action α} {f : α → Action β} {b : β}
    (h : (x >>= f).value = .ok b) : ∃ a, x.value = .ok a ∧ (f a).value = .ok b := by
  cases hx : x.value with
  | error fault =>
    rw [bind_of_error hx] at h
    cases h
  | ok a =>
    rw [bind_of_ok hx] at h
    exact ⟨a, rfl, h⟩

/-- Work that only hands on its value is the work. -/
theorem bind_pure_self (x : Action α) : (x >>= fun a => pure a) = x := by
  obtain ⟨value, effects⟩ := x
  cases value with
  | error fault => rfl
  | ok a => exact ext rfl (List.append_nil effects)

/-- Steps may be grouped in either way. A fault in the first or in the second step ends both
groupings at the same place, with the same effects. -/
theorem bind_bind {γ : Type} (x : Action α) (f : α → Action β) (g : β → Action γ) :
    x >>= f >>= g = x >>= fun a => f a >>= g := by
  cases hx : x.value with
  | error fault => rw [bind_of_error hx, bind_of_error rfl, bind_of_error hx]
  | ok a =>
    rw [bind_of_ok hx, bind_of_ok hx]
    cases hf : (f a).value with
    | error fault => rw [bind_of_error rfl, bind_of_error hf]
    | ok b => rw [bind_of_ok rfl, bind_of_ok hf, List.append_assoc]

/-- The laws allow `simp` to normalise `do` blocks without knowing what their steps do. -/
instance : LawfulMonad Action :=
  LawfulMonad.mk' Action bind_pure_self (fun _ f => bind_of_ok rfl f) bind_bind

end Action

end TokenSpans
