import TokenSpans.Proofs.Resuming

/-!
# Tokenising ends

Tokens are asked for in a loop without a counter: while there is text ahead the next one is asked
for, until none is yielded. `askWithin` is this loop with a bound on how often it asks, and it has
no result where the bound is too small. So the loop comes to its end where `askWithin` has a
result, and where it has one, a larger bound changes nothing.

Every token takes some of the text ahead (`Lexer.Runs.length_add_le`), whatever the matchers
answer: at the end of the text none is asked, one that takes nothing is passed over, and a length
that ends inside a character takes all of it. So the number of characters ahead is a bound that is
large enough, for a lexer and under any trackings (`Host.tokenising_ends`).

The definitions of tokenising end because Lean has accepted their recursion, which needs
that a token shortens the text ahead. The loop here does not know that. It makes no use of
what a token does, has a plain counter for its recursion, and would run out of turns if a
lexer yielded tokens for ever. That it comes to the same tokens is therefore a statement
about the lexer and not about how it was defined.
-/

namespace TokenSpans

/-! ## The loop

The loop is written for any state that shows the text ahead of it and can be asked for an
item, so that it serves lexers and hosts. One lemma for each way a turn may go; a fault ends
it as well, but no lexer comes to one. -/

section Loop

variable {σ τ : Type} {ahead : σ → List Char} {next : σ → Except Fault (σ × Option τ)}

/-- While there is text ahead, asks for the next item, until none is yielded. There is no result
where one would have to be asked for more than `turns` times. -/
def askWithin (ahead : σ → List Char) (next : σ → Except Fault (σ × Option τ)) :
    Nat → σ → Option (Except Fault (σ × List τ))
  | 0, s => if (ahead s).isEmpty then some (.ok (s, [])) else none
  | turns + 1, s =>
    if (ahead s).isEmpty then some (.ok (s, []))
    else
      match next s with
      | .error fault => some (.error fault)
      | .ok (s, none) => some (.ok (s, []))
      | .ok (s, some item) =>
        (askWithin ahead next turns s).map (Except.map fun found => (found.1, item :: found.2))

/-- At the end of the text nothing is asked for. -/
theorem askWithin_of_ended {s : σ} (h : ahead s = []) (turns : Nat) :
    askWithin ahead next turns s = some (.ok (s, [])) := by
  cases turns with
  | zero => simp [askWithin, h]
  | succ turns => simp [askWithin, h]

/-- Where nothing is yielded the loop ends, and has needed one turn to find out. -/
theorem askWithin_of_none {s reached : σ} (h : ahead s ≠ []) (hnext : next s = .ok (reached, none))
    (turns : Nat) : askWithin ahead next (turns + 1) s = some (.ok (reached, [])) := by
  simp [askWithin, h, hnext]

/-- Where an item is yielded the loop goes on with one turn less. -/
theorem askWithin_of_some {s reached : σ} {item : τ} (h : ahead s ≠ [])
    (hnext : next s = .ok (reached, some item)) (turns : Nat) :
    askWithin ahead next (turns + 1) s =
      (askWithin ahead next turns reached).map
        (Except.map fun found => (found.1, item :: found.2)) := by
  simp [askWithin, h, hnext]

end Loop

/-- The loop in which a lexer is tokenised, with a bound on its turns. -/
def Lexer.tokeniseWithin (turns : Nat) (l : Lexer) : Option (Except Fault (Lexer × List Token)) :=
  askWithin (fun l => l.cursor.ahead) (fun l => .ok l.next.value) turns l

/-- The loop in which a host is tokenised, with a bound on its turns. -/
def Host.tokeniseWithin (turns : Nat) (h : Host) : Option (Except Fault (Host × List Token)) :=
  askWithin (fun h => h.view.ahead) (fun h => h.next.value) turns h

namespace Lexer

variable {l last : Lexer} {tokens : List Token} {names : List String}

/-! ## Every token takes some text

A run is a list of productions that have yielded tokens (`Lexer.Runs`). Each has left less
text, and so the number of tokens and of characters that are left add up to no more than
there were. -/

/-- A run yields no more tokens than it takes characters. -/
theorem Runs.length_add_le (h : l.Runs names tokens last) :
    tokens.length + last.cursor.ahead.length ≤ l.cursor.ahead.length := by
  induction h with
  | refl l => simp
  | @next l reached last t tokens production rest ih =>
    have hless : reached.cursor.ahead.length < l.cursor.ahead.length := next_shortens production
    rw [List.length_cons]
    omega

/-- A run under trackings is one of the bare lexer, but for the marks. -/
theorem Runs.strip (h : l.Runs names tokens last) : l.Runs [] (tokens.map Token.strip) last := by
  induction h with
  | refl l => exact .refl l
  | @next l reached last t tokens production rest ih =>
    have hbare : t.strip = t := by
      have hproduces := l.produces_next.bare
      rw [production] at hproduces
      exact (hproduces t rfl).symm
    rw [List.map_cons, Token.strip_mark, hbare]
    exact .next production ih

/-- Something that is asked for items as a lexer is asked for tokens, and marks them. -/
structure AsksFor {σ : Type} (names : List String) (ahead : σ → List Char)
    (next : σ → Except Fault (σ × Option Token)) (host : Lexer → σ) : Prop where
  /-- it has the same text ahead -/
  ahead_eq : ∀ l, ahead (host l) = l.cursor.ahead
  /-- it yields nothing where the lexer yields nothing -/
  nothing : ∀ l, l.next.value = (l, none) → next (host l) = .ok (host l, none)
  /-- and otherwise the token, marked, and goes on as the lexer does -/
  token : ∀ l reached t, l.next.value = (reached, some t) →
    next (host l) = .ok (host reached, some (t.mark names (l.spanTo reached)))

/-- **The loop comes to the end of a run**, since it need not ask for more tokens than there are
characters. -/
theorem Runs.askWithin_eq {σ : Type} {ahead : σ → List Char}
    {next : σ → Except Fault (σ × Option Token)} {host : Lexer → σ}
    (hasks : AsksFor names ahead next host) (h : l.Runs names tokens last) (hlast : last.Stopped)
    {turns : Nat} (hturns : tokens.length + last.cursor.ahead.length ≤ turns) :
    askWithin ahead next turns (host l) = some (.ok (host last, tokens)) := by
  induction h generalizing turns with
  | refl l =>
    by_cases hend : ahead (host l) = []
    · exact askWithin_of_ended hend turns
    · -- one more turn shows that nothing is yielded, and there is a character left for it
      have hpos : 0 < l.cursor.ahead.length := by
        rw [hasks.ahead_eq] at hend
        exact List.length_pos_iff.mpr hend
      obtain ⟨more, rfl⟩ : ∃ more, turns = more + 1 := ⟨turns - 1, by omega⟩
      exact askWithin_of_none hend (hasks.nothing l hlast.next_value) more
  | @next l reached last t tokens production rest ih =>
    have hahead : ahead (host l) ≠ [] := by
      rw [hasks.ahead_eq]
      exact ahead_ne_nil_of_next production
    rw [List.length_cons] at hturns
    obtain ⟨more, rfl⟩ : ∃ more, turns = more + 1 := ⟨turns - 1, by omega⟩
    rw [askWithin_of_some hahead (hasks.token l reached t production), ih hlast (by omega)]
    rfl

/-- A bare lexer marks nothing. -/
theorem asksFor_bare :
    AsksFor [] (fun l => l.cursor.ahead) (fun l => .ok l.next.value) (fun l => l) where
  ahead_eq _ := rfl
  nothing _ h := congrArg Except.ok h
  token _ _ _ h := congrArg Except.ok h

end Lexer

namespace Host

/-- A lexer under trackings marks with their names. -/
theorem asksFor_tracking (names : List String) :
    Lexer.AsksFor names (fun h => h.view.ahead) (fun h => h.next.value)
      (fun l => tracking l names) where
  ahead_eq l := by
    rw [view_tracking]
    rfl
  nothing _ h := next_tracking_of_none h
  token _ _ _ h := next_tracking_of_some h

/-- **Tokenising ends, after no more tokens than there are characters ahead.** Whatever the rules
of a lexer answer, and under any trackings, the loop that asks for one token after the other comes
to its end within as many turns as there are characters ahead, and then a larger bound makes no
difference. Each token takes one character at least, so that there are no more of them than
characters that have been taken. -/
theorem tokenising_ends (l : Lexer) (names : List String) :
    ∃ last tokens,
      l.tokenise.value = (last, tokens.map Token.strip) ∧
        (tracking l names).tokenise.value = .ok (tracking last names, tokens) ∧
        (∀ spare, l.tokeniseWithin (l.cursor.ahead.length + spare) =
          some (.ok (last, tokens.map Token.strip))) ∧
        (∀ spare, (tracking l names).tokeniseWithin (l.cursor.ahead.length + spare) =
          some (.ok (tracking last names, tokens))) ∧
        tokens.length + last.cursor.ahead.length ≤ l.cursor.ahead.length := by
  obtain ⟨last, tokens, hvalue, hbare, hruns, hstopped⟩ := exists_runs_tokenise l names
  have hcount := hruns.length_add_le
  refine ⟨last, tokens, hbare, hvalue, fun spare => ?_, fun spare => ?_, hcount⟩
  · apply hruns.strip.askWithin_eq Lexer.asksFor_bare hstopped
    rw [List.length_map]
    omega
  · apply hruns.askWithin_eq (asksFor_tracking names) hstopped
    omega

/-- A bound below the number of characters may be too small. -/
example :
    let l : Lexer := ⟨.ofText .standard ['é', 'b'], [⟨"none", .fixed 0⟩, ⟨"half", .fixed 1⟩]⟩
    l.tokeniseWithin 1 = none ∧
      (l.tokeniseWithin 2).map (Except.map Prod.snd) =
        some (.ok [.bare "half" "é", .bare "half" "b"]) :=
  ⟨rfl, rfl⟩

end Host

end TokenSpans
