import TokenSpans.Proofs.Nesting

/-!
# Stopping and resuming

A lexer yields tokens until there is no text ahead or no rule takes anything of it
(`Lexer.Stopped`). There it stays: whether it is asked for a next token then or for all of them, it
yields nothing and is left as it is. Any production that yields nothing leaves its host as it is,
also under trackings: the markers have been set by then, but none of them is completed.

`Lexer.Runs` says that a lexer comes from one state to another by next tokens alone. A run of all
tokens may be broken off behind any of them and taken up again (`Host.tokenise_tracking_of_runs`),
so it does not matter whether tokens are asked for one by one or all at once
(`Host.stops_and_resumes`).

Being stopped is a condition on the text ahead and the rules, not something that a lexer
remembers. It can be left again by giving the lexer another rule, but by no production: the
lexer that yields nothing is the same lexer. `Runs` does not ask whether the lexer it leads
to has stopped, so it describes every place on the way, and the course of a whole run is a
`Runs` that ends where the lexer stops.
-/

namespace TokenSpans

namespace Lexer

variable {l next last : Lexer} {t : Token} {tokens : List Token} {names : List String}

/-! ## Where a lexer stops

The two reasons to stop are those of `next`, in the words of the rules. Both directions are
needed: a stopped lexer yields nothing, and one that yields nothing has stopped. -/

/-- There is no text ahead, or no rule takes anything of it. -/
def Stopped (l : Lexer) : Prop :=
  l.cursor.isDone = true ∨ ∀ r ∈ l.rules, r.matchLength l.cursor.ahead = none

/-- A stopped lexer yields nothing and stays as it is. -/
theorem Stopped.next_value (h : l.Stopped) : l.next.value = (l, none) :=
  next_of_none (Rule.cut?_eq_none_iff.mpr h)

/-- A stopped lexer has no tokens left, and looking for them leaves it as it is. -/
theorem Stopped.tokenise_value (h : l.Stopped) : l.tokenise.value = (l, []) :=
  tokenise_of_none (Rule.cut?_eq_none_iff.mpr h)

/-- A lexer that yields nothing has stopped. -/
theorem stopped_of_next (h : l.next.value.2 = none) : l.Stopped := by
  refine Rule.cut?_eq_none_iff.mp (Option.eq_none_iff_forall_not_mem.mpr fun found hfound => ?_)
  rw [next_of_some (Option.mem_def.mp hfound)] at h
  cases h

/-! ## From one state to another

A list of next tokens with the lexer before and behind each. It is an inductive predicate,
so that a proof about what a run preserves is an induction over it with two cases, and it
carries the marks of the tokens, so that bare and tracked runs are one thing: the bare run
has no names. -/

/-- A lexer yields tokens one after the other and is another one then; the tokens are marked under
the names as they are yielded. -/
inductive Runs (names : List String) : Lexer → List Token → Lexer → Prop
  /-- nothing is asked for -/
  | refl (l : Lexer) : Runs names l [] l
  /-- one more next token at the front -/
  | next {l next last : Lexer} {t : Token} {tokens : List Token}
      (production : l.next.value = (next, some t)) (rest : Runs names next tokens last) :
      Runs names l (t.mark names (l.spanTo next) :: tokens) last

/-- Where there is a next token, there is text ahead. -/
theorem ahead_ne_nil_of_next (h : l.next.value = (next, some t)) : l.cursor.ahead ≠ [] := by
  intro hnil
  have hless := next_shortens h
  rw [hnil] at hless
  exact Nat.not_lt_zero _ hless

end Lexer

namespace Host

variable {l next last : Lexer} {t : Token} {tokens : List Token} {names : List String}

/-- A tracked lexer yields nothing where the lexer inside yields nothing. -/
theorem next_tracking_of_none (h : l.next.value = (l, none)) :
    (tracking l names).next.value = .ok (tracking l names, none) := by
  rw [next_tracking, surround, h]
  rfl

/-- A tracked lexer yields the token of the lexer inside, marked. -/
theorem next_tracking_of_some (h : l.next.value = (next, some t)) :
    (tracking l names).next.value =
      .ok (tracking next names, some (t.mark names (l.spanTo next))) := by
  rw [next_tracking, surround, h]
  rfl

/-- What tokenising comes to behind a next token. -/
theorem tokenise_tracking_of_next (h : l.next.value = (next, some t)) :
    (tracking l names).tokenise.value = (tracking next names).tokenise.value.map fun found =>
      (found.1, t.mark names (l.spanTo next) :: found.2) := by
  have hahead : (tracking l names).view.ahead ≠ [] := by
    rw [view_tracking]
    exact Lexer.ahead_ne_nil_of_next h
  exact tokenise_of_some (moves_tracking l names) hahead (next_tracking_of_some h)

/-- **A run may be broken off and taken up again**: the tokens that have been yielded by then are
followed by those that are yielded from there on. -/
theorem tokenise_tracking_of_runs (h : l.Runs names tokens last) :
    (tracking l names).tokenise.value = (tracking last names).tokenise.value.map fun found =>
      (found.1, tokens ++ found.2) := by
  -- the induction is on the tokens that were yielded; what is still to come stays as it is
  induction h with
  | refl l =>
    cases (tracking l names).tokenise.value with
    | error fault => rfl
    | ok found => rfl
  | next production rest ih =>
    rw [tokenise_tracking_of_next production, ih]
    generalize (tracking _ names).tokenise.value = value
    cases value with
    | error fault => rfl
    | ok found => rfl

/-- The course of a run leads from token to token to where the lexer stops. -/
theorem Course.runs {effects : List Effect} (h : Course names l tokens effects last) :
    l.Runs names tokens last ∧ last.Stopped := by
  induction h with
  | ended ahead => exact ⟨.refl _, .inl (List.isEmpty_iff.mpr ahead)⟩
  | @stopped l ahead production =>
    rw [l.produces_next.eq_of_none production]
    exact ⟨.refl l, Lexer.stopped_of_next production⟩
  | @went l last t tokens effects ahead production rest ih =>
    exact ⟨.next (Prod.ext rfl production) ih.1, ih.2⟩

/-- Tokenising leads to where the lexer stops, tracked or not. -/
theorem exists_runs_tokenise (l : Lexer) (names : List String) :
    ∃ last tokens, (tracking l names).tokenise.value = .ok (tracking last names, tokens) ∧
      l.tokenise.value = (last, tokens.map Token.strip) ∧ l.Runs names tokens last ∧
      last.Stopped := by
  obtain ⟨last, tokens, hvalue, hcourse⟩ := course_tokenise l names
  exact ⟨last, tokens, hvalue, hcourse.mirrors.1, hcourse.runs⟩

/-- Tokenising where the lexer has stopped. -/
theorem tokenise_tracking_of_stopped (h : l.Stopped) :
    (tracking l names).tokenise.value = .ok (tracking l names, []) := by
  obtain ⟨last, tokens, hvalue, hbare, -, -⟩ := exists_runs_tokenise l names
  rw [h.tokenise_value] at hbare
  obtain ⟨rfl, hnil⟩ := Prod.mk.inj hbare
  obtain rfl := List.map_eq_nil_iff.mp hnil.symm
  exact hvalue

/-! ## Token by token

Asking for `k` next tokens stops early where there are fewer, so it leads along a run in
every case, and what is left can be asked for from there. The equation with one run of all
tokens is then the lemma on breaking off. -/

/-- Asks for a number of next tokens; where none is yielded, no more are asked for. -/
def nextUpTo : Nat → Host → Action (Host × List Token)
  | 0, h => pure (h, [])
  | k + 1, h => do
    let (h, token) ← h.next
    match token with
    | none => return (h, [])
    | some token =>
      let (h, rest) ← nextUpTo k h
      return (h, token :: rest)

/-- Asks for a number of next tokens, and then for all that are left. -/
def nextThenAll (k : Nat) (h : Host) : Action (Host × List Token) := do
  let (h, first) ← h.nextUpTo k
  let (h, rest) ← h.tokenise
  return (h, first ++ rest)

/-- To ask for some next tokens leads along a run. -/
theorem exists_runs_nextUpTo (k : Nat) (l : Lexer) (names : List String) :
    ∃ last tokens, ((tracking l names).nextUpTo k).value = .ok (tracking last names, tokens) ∧
      l.Runs names tokens last := by
  induction k generalizing l with
  | zero => exact ⟨l, [], rfl, .refl l⟩
  | succ k ih =>
    cases hyielded : l.next.value.2 with
    | none =>
      have hnext := (Lexer.stopped_of_next hyielded).next_value
      refine ⟨l, [], ?_, .refl l⟩
      rw [nextUpTo, Action.bind_of_ok (next_tracking_of_none hnext)]
      rfl
    | some t =>
      have hnext : l.next.value = (l.next.value.1, some t) := Prod.ext rfl hyielded
      obtain ⟨last, tokens, hvalue, hruns⟩ := ih l.next.value.1
      refine ⟨last, _, ?_, .next hnext hruns⟩
      rw [nextUpTo, Action.bind_of_ok (next_tracking_of_some hnext)]
      dsimp only
      rw [Action.bind_of_ok hvalue]
      rfl

/-- Some next tokens and then all others are all tokens. -/
theorem nextThenAll_tracking (k : Nat) (l : Lexer) (names : List String) :
    ((tracking l names).nextThenAll k).value = (tracking l names).tokenise.value := by
  obtain ⟨reached, first, hfirst, hruns⟩ := exists_runs_nextUpTo k l names
  obtain ⟨last, rest, hrest, -, -, -⟩ := exists_runs_tokenise reached names
  rw [nextThenAll, Action.bind_of_ok hfirst, tokenise_tracking_of_runs hruns]
  dsimp only
  rw [Action.bind_of_ok hrest, hrest]
  rfl

/-! ## Productions that yield nothing

What a production leaves behind besides its token: nothing, where there is no token. Under
trackings the markers have been set by then, and giving them up is reported, but nothing of
that is a completion. -/

/-- A tracked production that yields nothing leaves the lexer as it was; no marker was completed,
and nobody was told. -/
theorem of_surround_eq_none {work : Traced (Lexer × Option Token)} (h : l.Produces work)
    {host : Host} (hnone : (surround l names work).value = .ok (host, none)) :
    host = tracking l names ∧
      (surround l names work).effects.filterMap Effect.completing? = [] := by
  obtain ⟨hhost, hyielded⟩ := Prod.mk.inj (Except.ok.inj hnone)
  have hwork := Option.map_eq_none_iff.mp hyielded
  rw [surround_completing h, hyielded, ← hhost, h.eq_of_none hwork]
  exact ⟨rfl, rfl⟩

/-- **A lexer stops for good, and may be resumed until then.** On a lexer, bare or tracked, a next
token or a token of a kind that is not there leaves everything as it was, completes no marker and
tells nobody. A run of all tokens ends where there is no text ahead or no rule takes anything of
it, and from there on neither a next token nor a run of all tokens yields anything or changes
anything. Next tokens, as many as one likes, and then all that are left are the tokens of one run,
and the host is left the same. -/
theorem stops_and_resumes (l : Lexer) (names : List String) :
    (∀ host, (tracking l names).next.value = .ok (host, none) →
        host = tracking l names ∧
          (tracking l names).next.effects.filterMap Effect.completing? = []) ∧
      (∀ kind host, ((tracking l names).tryKind kind).value = .ok (host, none) →
        host = tracking l names ∧
          ((tracking l names).tryKind kind).effects.filterMap Effect.completing? = []) ∧
      (∀ kind next, (l.tryKind kind).value = (next, none) →
        next = l ∧ (l.tryKind kind).effects.filterMap Effect.completing? = []) ∧
      (∃ last tokens, (tracking l names).tokenise.value = .ok (tracking last names, tokens) ∧
        l.tokenise.value = (last, tokens.map Token.strip) ∧
        (last.cursor.isDone = true ∨
          ∀ r ∈ last.rules, r.matchLength last.cursor.ahead = none) ∧
        (tracking last names).next.value = .ok (tracking last names, none) ∧
        (tracking last names).tokenise.value = .ok (tracking last names, []) ∧
        last.next.value = (last, none) ∧ last.tokenise.value = (last, [])) ∧
      ∀ k, ((tracking l names).nextThenAll k).value = (tracking l names).tokenise.value := by
  refine ⟨fun host hnone => ?_, fun kind host hnone => ?_, fun kind next hnone => ?_, ?_,
    fun k => nextThenAll_tracking k l names⟩
  · rw [next_tracking] at hnone ⊢
    exact of_surround_eq_none l.produces_next hnone
  · rw [tryKind_tracking] at hnone ⊢
    exact of_surround_eq_none (l.produces_tryKind kind) hnone
  · have hproduces := l.produces_tryKind kind
    have hnext := hproduces.eq_of_none (congrArg Prod.snd hnone)
    rw [hnone] at hnext
    exact ⟨hnext, hproduces.filterMap_completing?⟩
  · obtain ⟨last, tokens, hvalue, hbare, -, hstopped⟩ := exists_runs_tokenise l names
    exact ⟨last, tokens, hvalue, hbare, hstopped, next_tracking_of_none hstopped.next_value,
      tokenise_tracking_of_stopped hstopped, hstopped.next_value, hstopped.tokenise_value⟩

end Host

end TokenSpans
