import TokenSpans.Proofs.Dispatch
import TokenSpans.Proofs.Partition
import TokenSpans.Proofs.Resuming

/-!
# Further rules

A rule that is added stands behind the rules that there are, so it is tried only where none of them
takes anything, and it is not the one that a kind leads to where one of them has the kind. Whatever
a lexer yields by a next token, it yields with further rules, too, and then it goes on from the same
place (`Lexer.next_further`). So its whole run is the beginning of the run with further rules, which
starts anew where the lexer would have stopped (`Host.tokenise_further`).

The reason is always the same: rules are searched from the front, so a search that ends
within the old rules does not see the new ones. What differs is for whom the search ends
there. A next token that is yielded has ended it, and so has a kind that the lexer knows;
for a kind that is new, and where the lexer would yield nothing, further rules may of course
change what happens.

A lexer with further rules differs from the one without them in its list of rules for the
whole run. This is why the statements carry `further` along on both sides instead of
speaking of equal lexers.
-/

namespace TokenSpans

namespace Rule

variable {rules : List Rule} {s : List Char} {r : Rule} {bytes : Nat} {kind : String}

/-- A first match stays the first one when rules are added behind. -/
theorem firstMatch_append (extra : List Rule) (h : firstMatch rules s = some (r, bytes)) :
    firstMatch (rules ++ extra) s = some (r, bytes) := by
  rw [firstMatch, List.findSome?_append, ← firstMatch, h, Option.some_or]

/-- The rule that a known kind leads to stays the same when rules are added behind. -/
theorem ofKind?_append_of_mem (extra : List Rule) (h : kind ∈ rules.map Rule.kind) :
    ofKind? (rules ++ extra) kind = ofKind? rules kind := by
  obtain ⟨r, hr, rfl⟩ := List.mem_map.mp h
  have hsome : ofKind? rules r.kind ≠ none := fun hnone => ofKind?_eq_none_iff.mp hnone r hr rfl
  rw [ofKind?_append, Option.or_of_isSome (Option.isSome_iff_ne_none.mpr hsome)]

end Rule

namespace Lexer

variable {l next last : Lexer} {t : Token} {tokens : List Token} {names : List String}

/-- The lexer with further rules behind those it has. -/
def further (extra : List Rule) (l : Lexer) : Lexer :=
  { l with rules := l.rules ++ extra }

/-- Adding rules is having them as further rules. -/
theorem addRules_eq_further (l : Lexer) (extra : List Rule) :
    (l.addRules extra).value = l.further extra :=
  addRules_value l extra

/-! ## One production

The production is the same action up to the rules in the lexer that is left, effects
included, so nothing else could be heard of it either. -/

/-- A lexer that yields a next token yields it with further rules, too, and they are the only
difference to be seen or heard then. -/
theorem next_further (extra : List Rule) (h : l.next.value = (next, some t)) :
    (l.further extra).next = (fun r => (r.1.further extra, r.2)) <$> l.next := by
  have hdone : ¬ l.cursor.isDone = true := fun hdone =>
    ahead_ne_nil_of_next h (List.isEmpty_iff.mp hdone)
  have hdone' : ¬ (l.further extra).cursor.isDone = true := hdone
  cases hfirst : Rule.firstMatch l.rules l.cursor.ahead with
  | none =>
    rw [Lexer.next, if_neg hdone, hfirst] at h
    cases h
  | some found =>
    have hfirst' : Rule.firstMatch (l.further extra).rules (l.further extra).cursor.ahead =
        some found := Rule.firstMatch_append extra hfirst
    rw [Lexer.next, if_neg hdone', hfirst', Lexer.next, if_neg hdone, hfirst]
    rfl

/-- A kind that a lexer has rules of leads to the same as before. -/
theorem tryKind_further (extra : List Rule) {kind : String} (h : kind ∈ l.kinds) :
    (l.further extra).tryKind kind = (fun r => (r.1.further extra, r.2)) <$> l.tryKind kind := by
  have hkind : (l.further extra).rules.find? (fun r => r.kind == kind) =
      l.rules.find? fun r => r.kind == kind := Rule.ofKind?_append_of_mem extra h
  rw [tryKind, tryKind, hkind]
  cases l.rules.find? fun r => r.kind == kind with
  | none => rfl
  | some r =>
    dsimp only
    cases hmatch : r.matchLength l.cursor.ahead with
    | none =>
      have hmatch' : r.matchLength (l.further extra).cursor.ahead = none := hmatch
      rw [hmatch']
      rfl
    | some bytes =>
      have hmatch' : r.matchLength (l.further extra).cursor.ahead = some bytes := hmatch
      rw [hmatch']
      rfl

/-! ## A whole run

The run without further rules is a sequence of next tokens up to where the lexer stops, and
each of these is yielded with further rules as well. There the run is broken off, and with
further rules it goes on: that the tokens so far are a beginning of all tokens is then a
property of lists. -/

/-- What a lexer yields, it yields with further rules. -/
theorem Runs.further (extra : List Rule) (h : l.Runs names tokens last) :
    (l.further extra).Runs names tokens (last.further extra) := by
  induction h with
  | refl l => exact .refl _
  | @next l next last t tokens production rest ih =>
    have hnext : (l.further extra).next.value = (next.further extra, some t) := by
      rw [next_further extra production, Traced.map_value, production]
    -- the token is marked as it was, since further rules do not change where a lexer stands
    have hspan : (l.further extra).spanTo (next.further extra) = l.spanTo next := rfl
    rw [← hspan]
    exact .next hnext ih

end Lexer

namespace Host

/-- The tokens of a tracked lexer are those of the lexer, but for the marks. -/
theorem map_strip_of_tokenise {l : Lexer} {names : List String} {host : Host} {tokens : List Token}
    (h : (tracking l names).tokenise.value = .ok (host, tokens)) :
    tokens.map Token.strip = l.tokenise.value.2 := by
  obtain ⟨tokens', hvalue, hstrip⟩ := (mirrors_tokenise l names).value
  obtain ⟨-, rfl⟩ := Prod.mk.inj (Except.ok.inj (hvalue.symm.trans h))
  exact hstrip

/-- **A run with further rules** is the run without them, and then what is yielded with them from
where that one stops. -/
theorem tokenise_further (l : Lexer) (extra : List Rule) (names : List String) :
    ∃ last tokens more, (tracking l names).tokenise.value = .ok (tracking last names, tokens) ∧
      ∃ host, (tracking (last.further extra) names).tokenise.value = .ok (host, more) ∧
        (tracking (l.further extra) names).tokenise.value = .ok (host, tokens ++ more) := by
  obtain ⟨last, tokens, hvalue, -, hruns, -⟩ := exists_runs_tokenise l names
  obtain ⟨final, more, hmore, -, -, -⟩ := exists_runs_tokenise (last.further extra) names
  refine ⟨last, tokens, more, hvalue, _, hmore, ?_⟩
  rw [tokenise_tracking_of_runs (hruns.further extra), hmore]
  rfl

end Host

namespace Lexer

/-- **Further rules change nothing about what is yielded without them.** The tokens of a lexer are
the first ones that it yields once further rules have been added, and under any trackings they
carry the same spans. A next token that is there without them is the same with them, and so is what
is left but for the rules. A kind that had rules before leads to the same as before. -/
theorem addRules_conservative (l : Lexer) (extra : List Rule) :
    (l.addRules extra).value = l.further extra ∧
      l.tokenise.value.2 <+: (l.further extra).tokenise.value.2 ∧
      (∀ names, ∃ host tokens host' tokens',
        (Host.tracking l names).tokenise.value = .ok (host, tokens) ∧
        (Host.tracking (l.further extra) names).tokenise.value = .ok (host', tokens') ∧
        tokens <+: tokens') ∧
      (∀ next t, l.next.value = (next, some t) →
        (l.further extra).next.value = (next.further extra, some t)) ∧
      ∀ kind ∈ l.kinds,
        (l.further extra).tryKind kind = (fun r => (r.1.further extra, r.2)) <$> l.tryKind kind := by
  refine ⟨l.addRules_eq_further extra, ?_, fun names => ?_, fun next t h => ?_,
    fun kind h => tryKind_further extra h⟩
  · obtain ⟨last, tokens, more, hvalue, host, -, hmore⟩ := Host.tokenise_further l extra []
    rw [← Host.map_strip_of_tokenise hvalue, ← Host.map_strip_of_tokenise hmore]
    exact (List.prefix_append tokens more).map Token.strip
  · obtain ⟨last, tokens, more, hvalue, host, -, hmore⟩ := Host.tokenise_further l extra names
    exact ⟨_, tokens, host, _, hvalue, hmore, List.prefix_append tokens more⟩
  · rw [next_further extra h, Traced.map_value, h]

end Lexer

end TokenSpans
