import TokenSpans.Chosen.Calls

/-!
# Settings that stay

Every call but the question whether settings are chosen leaves them chosen: to ask for the settings
and to tokenise with them chooses the standard ones where there are none. What is chosen after some
calls is therefore what the first of these calls has chosen (`reached_eq`), and it stays
(`reached_of_first`). The reply to a call depends on that alone (`replyTo?_eq`).

The cell is written once, but a list of calls does not say by which of them. `Call.choice?`
is what a call would write if it came first, and the cell after any calls is the first of
these in the list, found by `findSome?`. All the rest is about lists: what is found among
the first `n` calls is found among the first `n + 1`, and where nothing is found before `n`,
the call at `n` decides.
-/

namespace TokenSpans.Chosen

/-- What a call chooses where nothing is chosen yet. -/
def Call.choice? : Call → Option Settings
  | .choose settings => some settings
  | .current => some .standard
  | .isChosen => none
  | .tokenise _ => some .standard

/-- Only one call chooses nothing. -/
theorem Call.choice?_eq_none_iff {call : Call} : call.choice? = none ↔ call = .isChosen := by
  cases call with
  | choose settings => exact ⟨nofun, nofun⟩
  | current => exact ⟨nofun, nofun⟩
  | isChosen => exact ⟨fun _ => rfl, fun _ => rfl⟩
  | tokenise source => exact ⟨nofun, nofun⟩

/-! ## What calls leave chosen

One step, then the run by induction. The cell of a process is described as a value at each
position in the list of calls (`reached`), and the reply to a call is its reply to that
cell, so that later proofs need not speak of the fold. -/

/-- What was chosen stays; otherwise it is what the call chooses. -/
theorem answer_fst (c : Chosen) (call : Call) :
    (c.answer call).1 = ⟨c.settings?.or call.choice?⟩ := by
  obtain ⟨chosen⟩ := c
  cases chosen with
  | none => cases call <;> rfl
  | some settings => cases call <;> rfl

/-- After calls it is what the first of them that chooses anything has chosen. -/
theorem answerAll_fst (c : Chosen) (calls : List Call) :
    (c.answerAll calls).1 = ⟨c.settings?.or (calls.findSome? Call.choice?)⟩ := by
  induction calls generalizing c with
  | nil => rw [List.findSome?_nil, Option.or_none]; rfl
  | cons call rest ih =>
    rw [answerAll, ih, answer_fst, Option.or_assoc, List.findSome?_cons]
    cases call.choice? <;> rfl

/-- The process after the first `n` of its calls. -/
def reached (calls : List Call) (n : Nat) : Chosen :=
  (fresh.answerAll (calls.take n)).1

/-- The reply to the call at position `n`. -/
def replyTo? (calls : List Call) (n : Nat) : Option Reply :=
  (fresh.answerAll calls).2[n]?

variable {calls : List Call} {n : Nat}

/-- After the first calls it is what the first of them that chooses anything has chosen. -/
theorem reached_eq (calls : List Call) (n : Nat) :
    reached calls n = ⟨(calls.take n).findSome? Call.choice?⟩ :=
  answerAll_fst fresh (calls.take n)

/-- One more call chooses where those before it have not. -/
theorem reached_succ (calls : List Call) (n : Nat) :
    reached calls (n + 1) = ⟨(reached calls n).settings?.or (calls[n]?.bind Call.choice?)⟩ := by
  rw [reached_eq, reached_eq, List.take_add_one, List.findSome?_append]
  cases calls[n]? with
  | none => rfl
  | some call =>
    rw [Option.toList_some, List.findSome?_singleton]
    rfl

/-- Each reply is that of its call to the process reached by then. -/
theorem replyTo?_eq (calls : List Call) (n : Nat) :
    replyTo? calls n = calls[n]?.map fun call => ((reached calls n).answer call).2 := by
  rw [replyTo?, reached]
  generalize fresh = c
  induction calls generalizing c n with
  | nil => rfl
  | cons first rest ih =>
    cases n with
    | zero => rfl
    | succ n => exact ih n (c.answer first).1

/-- The reply to a call that is there. -/
theorem replyTo?_of_call {call : Call} (h : calls[n]? = some call) :
    replyTo? calls n = some ((reached calls n).answer call).2 := by
  rw [replyTo?_eq, h, Option.map_some]

/-! ## Before and after the first choice

The history is divided at the first call that chooses. Up to it there is nothing but the
question whether settings are chosen, and the cell is empty; behind it the cell is full and
no call can change it. That a call to choose succeeds is a property of the place in the
history, and so at most one does. -/

/-- Before position `n` nothing was asked but whether settings are chosen. -/
def OpenAt (calls : List Call) (n : Nat) : Prop :=
  ∀ call ∈ calls.take n, call = .isChosen

/-- The call at position `n` has chosen the settings. -/
def Succeeds (calls : List Call) (n : Nat) : Prop :=
  replyTo? calls n = some (.chosen (.ok ()))

/-- Settings are open as long as nothing else was asked. -/
theorem reached_settings_eq_none_iff : (reached calls n).settings? = none ↔ OpenAt calls n := by
  rw [reached_eq, List.findSome?_eq_none_iff]
  exact forall₂_congr fun call _ => Call.choice?_eq_none_iff

/-- As long as settings are open the process is as fresh as at the beginning. -/
theorem reached_of_openAt (h : OpenAt calls n) : reached calls n = fresh :=
  congrArg mk (reached_settings_eq_none_iff.mpr h)

/-- **What the first call chooses stays chosen.** -/
theorem reached_of_first {first : Call} {v : Settings} (hopen : OpenAt calls n)
    (hfirst : calls[n]? = some first) (hchoice : first.choice? = some v) {i : Nat} (hlt : n < i) :
    reached calls i = ⟨some v⟩ := by
  induction hlt with
  | refl =>
    rw [reached_succ, reached_of_openAt hopen, hfirst, Option.bind_some, hchoice]
    rfl
  | step hlt ih => rw [reached_succ, ih, Option.some_or]

/-- A call that would choose the standard settings uses what the first call chooses, also if it is
the first one itself. -/
theorem current_of_first {first call : Call} {v : Settings} (hopen : OpenAt calls n)
    (hfirst : calls[n]? = some first) (hchoice : first.choice? = some v) {i : Nat} (hle : n ≤ i)
    (hcall : calls[i]? = some call) (hstandard : call.choice? = some .standard) :
    (reached calls i).current.2 = v := by
  rcases Nat.eq_or_lt_of_le hle with rfl | hlt
  · -- at the first call the settings are still open
    obtain rfl := Option.some.inj (hfirst.symm.trans hcall)
    rw [reached_of_openAt hopen]
    exact Option.some.inj (hstandard.symm.trans hchoice)
  · rw [reached_of_first hopen hfirst hchoice hlt]
    rfl

/-- To choose succeeds exactly where the settings are open. -/
theorem succeeds_iff :
    Succeeds calls n ↔ (∃ settings, calls[n]? = some (.choose settings)) ∧ OpenAt calls n := by
  rw [Succeeds, ← reached_settings_eq_none_iff]
  constructor
  · intro h
    rw [replyTo?_eq] at h
    obtain ⟨call, hcall, hreply⟩ := Option.map_eq_some_iff.mp h
    cases call with
    | choose settings =>
      refine ⟨⟨settings, hcall⟩, ?_⟩
      cases hreached : (reached calls n).settings? with
      | none => rfl
      | some v =>
        rw [answer, choose, hreached] at hreply
        cases hreply
    | current => cases hreply
    | isChosen => cases hreply
    | tokenise source => cases hreply
  · rintro ⟨⟨settings, hcall⟩, hopen⟩
    rw [replyTo?_of_call hcall, answer, choose, hopen]

/-- Behind a call that has chosen the settings no other one can. -/
theorem Succeeds.not_lt {i j : Nat} (hi : Succeeds calls i) (hj : Succeeds calls j) : ¬ i < j := by
  intro hlt
  obtain ⟨⟨settings, hcall⟩, -⟩ := succeeds_iff.mp hi
  obtain ⟨-, hopen⟩ := succeeds_iff.mp hj
  -- the earlier call would be one of those that leave the settings open
  have hmem : Call.choose settings ∈ calls.take j := by
    apply List.mem_of_getElem?
    rw [List.getElem?_take_of_lt hlt]
    exact hcall
  cases hopen _ hmem

/-- **The settings of a process are chosen once.** At most one call to choose them succeeds, and one
does exactly where nothing was asked before but whether they are chosen; that question is answered
in the negative exactly as long. From the first other call on there is one choice, which is the one
that this call has made, or else the standard one: it is what every call for the settings yields and
what every source is tokenised with, and to choose again is refused and changes nothing. -/
theorem settings_chosen_once (calls : List Call) :
    (∀ i j, Succeeds calls i → Succeeds calls j → i = j) ∧
      (∀ i, Succeeds calls i ↔
        (∃ settings, calls[i]? = some (.choose settings)) ∧ OpenAt calls i) ∧
      (∀ i, calls[i]? = some .isChosen →
        ∃ flag, replyTo? calls i = some (.flag flag) ∧ (flag = false ↔ OpenAt calls i)) ∧
      ∀ n first, calls[n]? = some first → first ≠ .isChosen → OpenAt calls n →
        ∃ v, ((first = .choose v ∧ Succeeds calls n) ∨
            (first = .current ∨ ∃ source, first = .tokenise source) ∧ v = .standard) ∧
          (∀ i, n ≤ i → calls[i]? = some .current → replyTo? calls i = some (.settings v)) ∧
          (∀ i source, n ≤ i → calls[i]? = some (.tokenise source) →
            replyTo? calls i = some (.tokens (Standard.tokenise v source))) ∧
          ∀ i settings, n < i → calls[i]? = some (.choose settings) →
            replyTo? calls i = some (.chosen (.error .alreadyChosen)) ∧
              reached calls (i + 1) = reached calls i := by
  refine ⟨?_, fun i => succeeds_iff, ?_, ?_⟩
  · intro i j hi hj
    exact Nat.le_antisymm (Nat.not_lt.mp (hj.not_lt hi)) (Nat.not_lt.mp (hi.not_lt hj))
  · intro i hcall
    refine ⟨_, replyTo?_of_call hcall, ?_⟩
    rw [← reached_settings_eq_none_iff]
    exact Option.isSome_eq_false_iff.trans Option.isNone_iff_eq_none
  · intro n first hfirst hne hopen
    obtain ⟨v, hchoice⟩ := Option.ne_none_iff_exists'.mp (mt Call.choice?_eq_none_iff.mp hne)
    refine ⟨v, ?_, ?_, ?_, ?_⟩
    · cases first with
      | choose settings =>
        obtain rfl := Option.some.inj hchoice
        exact .inl ⟨rfl, succeeds_iff.mpr ⟨⟨settings, hfirst⟩, hopen⟩⟩
      | current => exact .inr ⟨.inl rfl, (Option.some.inj hchoice).symm⟩
      | isChosen => exact absurd rfl hne
      | tokenise source => exact .inr ⟨.inr ⟨source, rfl⟩, (Option.some.inj hchoice).symm⟩
    · intro i hle hcall
      rw [replyTo?_of_call hcall, answer, current_of_first hopen hfirst hchoice hle hcall rfl]
    · intro i source hle hcall
      rw [replyTo?_of_call hcall, answer, tokenise,
        current_of_first hopen hfirst hchoice hle hcall rfl]
    · intro i settings hlt hcall
      have hreached := reached_of_first hopen hfirst hchoice hlt
      rw [replyTo?_of_call hcall, reached_of_first hopen hfirst hchoice (Nat.lt_succ_of_lt hlt),
        hreached]
      exact ⟨rfl, rfl⟩

end TokenSpans.Chosen
