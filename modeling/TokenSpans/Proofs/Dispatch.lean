import TokenSpans.Proofs.Tracking

/-!
# Two ways to a token

A lexer comes to a token in two ways: it tries all its rules in order, or it looks a rule up by its
kind and tries that one alone. Of several rules of one kind only the first is ever looked up, so
the rule that takes something first (`Rule.TakesFirst`) is the one that its kind leads to just
where no rule before it has the same kind. A rule before it that has the kind takes nothing, and
then the kind leads nowhere (`Lexer.dispatch_agrees`).

Where all kinds differ, a lexer might as well try the kinds one after the other
(`Lexer.next_eq_tryKinds`).

Both ways are searches from the front of the same list, one for a rule that takes something
and one for a rule with a kind. To compare them the list is divided at the place of the rule
that takes something first (`Rule.eq_take_append`): whether the other search is over before
it gets there depends on the rules before that place and on nothing else, neither on their
matchers nor on the text.
-/

namespace TokenSpans

namespace Rule

variable {rules : List Rule} {s : List Char} {place bytes : Nat} {r : Rule} {kind : String}

/-! ## The first rule that takes something

The place of the rule is part of the description, so that one can speak of the rules before
it. It is determined by the text, and there is one as soon as any rule takes something. -/

/-- The rule at a place takes a number of bytes of a text, and no rule before it takes anything. -/
structure TakesFirst (rules : List Rule) (s : List Char) (place : Nat) (r : Rule) (bytes : Nat) :
    Prop where
  /-- the rule at the place -/
  atPlace : rules[place]? = some r
  /-- it takes so much -/
  takes : r.matchLength s = some bytes
  /-- those before it take nothing -/
  before : ∀ q ∈ rules.take place, q.matchLength s = none

/-- The rules before a place, the one there, and those behind it. -/
theorem eq_take_append (h : rules[place]? = some r) :
    rules = rules.take place ++ r :: rules.drop (place + 1) := by
  obtain ⟨hlt, rfl⟩ := List.getElem?_eq_some_iff.mp h
  rw [← List.drop_eq_getElem_cons hlt, List.take_append_drop]

/-- The rule that takes something first is the first match. -/
theorem TakesFirst.firstMatch (h : TakesFirst rules s place r bytes) :
    firstMatch rules s = some (r, bytes) := by
  have hbefore : Rule.firstMatch (rules.take place) s = none := firstMatch_eq_none_iff.mpr h.before
  rw [eq_take_append h.atPlace, Rule.firstMatch, List.findSome?_append, ← Rule.firstMatch, hbefore,
    Option.none_or, List.findSome?_cons, h.takes]
  rfl

/-- Where some rule takes something, one of them does so first. -/
theorem exists_takesFirst (h : ∃ q ∈ rules, q.matchLength s ≠ none) :
    ∃ place r bytes, TakesFirst rules s place r bytes := by
  obtain ⟨q, hq, htakes⟩ := h
  have hsome : Rule.firstMatch rules s ≠ none := fun hnone =>
    htakes (firstMatch_eq_none_iff.mp hnone q hq)
  obtain ⟨found, hfound⟩ := Option.ne_none_iff_exists'.mp hsome
  obtain ⟨before, r, behind, rfl, hr, hbefore⟩ := List.findSome?_eq_some_iff.mp hfound
  obtain ⟨bytes, hbytes, -⟩ := Option.map_eq_some_iff.mp hr
  refine ⟨before.length, r, bytes, ?_, hbytes, ?_⟩
  · rw [List.getElem?_append_right (Nat.le_refl _), Nat.sub_self]
    rfl
  · rw [List.take_left]
    exact fun q hq => Option.map_eq_none_iff.mp (hbefore q hq)

/-! ## The rule of a kind

Kinds need not differ. A kind leads to the first rule that has it, so a rule further back is
reached by its kind only where no rule before it shares the kind, and always where all kinds
differ. -/

/-- The rule that is tried for a kind: the first one that has it. -/
def ofKind? (rules : List Rule) (kind : String) : Option Rule :=
  rules.find? fun r => r.kind == kind

/-- The rules in front go first, also when they are looked up by a kind. -/
theorem ofKind?_append (rules extra : List Rule) (kind : String) :
    ofKind? (rules ++ extra) kind = (ofKind? rules kind).or (ofKind? extra kind) :=
  List.find?_append

/-- A rule that a kind leads to is one of the rules. -/
theorem mem_of_ofKind? (h : ofKind? rules kind = some r) : r ∈ rules :=
  List.mem_of_find?_eq_some h

/-- A kind leads nowhere just where no rule has it. -/
theorem ofKind?_eq_none_iff : ofKind? rules kind = none ↔ ∀ q ∈ rules, q.kind ≠ kind := by
  rw [ofKind?, List.find?_eq_none]
  exact forall₂_congr fun q _ => not_congr beq_iff_eq

/-- A rule is the one that its kind leads to, where no rule before it has the kind. -/
theorem ofKind?_of_forall_ne (h : rules[place]? = some r)
    (hne : ∀ q ∈ rules.take place, q.kind ≠ r.kind) : ofKind? rules r.kind = some r := by
  rw [eq_take_append h, ofKind?_append, ofKind?_eq_none_iff.mpr hne, Option.none_or]
  exact List.find?_cons_of_pos (beq_self_eq_true r.kind)

/-- Where a rule before a place has the kind, the kind leads to such a rule. -/
theorem exists_ofKind?_of_mem_take {q : Rule} (hq : q ∈ rules.take place) :
    ∃ first ∈ rules.take place, ofKind? rules q.kind = some first := by
  have hsome : ofKind? (rules.take place) q.kind ≠ none := fun hnone =>
    ofKind?_eq_none_iff.mp hnone q hq rfl
  obtain ⟨first, hfirst⟩ := Option.ne_none_iff_exists'.mp hsome
  refine ⟨first, mem_of_ofKind? hfirst, ?_⟩
  have hall := ofKind?_append (rules.take place) (rules.drop place) q.kind
  rw [List.take_append_drop, hfirst] at hall
  exact hall

/-- Where all kinds differ, every rule is the one that its kind leads to. -/
theorem ofKind?_of_nodup (hnodup : (rules.map Rule.kind).Nodup) (hr : r ∈ rules) :
    ofKind? rules r.kind = some r := by
  obtain ⟨place, hplace⟩ := List.mem_iff_getElem?.mp hr
  refine ofKind?_of_forall_ne hplace fun q hq heq => ?_
  rw [eq_take_append hplace, List.map_append, List.map_cons] at hnodup
  have hfresh := (List.nodup_cons.mp (List.nodup_middle.mp hnodup)).1
  refine hfresh (List.mem_append_left _ ?_)
  rw [← heq]
  exact List.mem_map_of_mem hq

end Rule

namespace Lexer

variable {l : Lexer} {r : Rule} {place bytes : Nat} {kind : String}

/-! ## One production by one rule

Either way, once a rule is found the lexer reads what it takes. `yield` is this common end,
and the productions are equal where both come to it by the same rule. Where the kind leads
to another rule, that one stands before the rule that takes something first, hence takes
nothing, and there is no token. -/

/-- Yields what a rule takes. -/
def yield (l : Lexer) (r : Rule) (bytes : Nat) : Traced (Lexer × Option Token) :=
  (fun taken => (taken.1, some taken.2)) <$> l.take r bytes

/-- What a rule yields is what the cursor reads of the text ahead. -/
theorem yield_value (l : Lexer) (r : Rule) (bytes : Nat) :
    (l.yield r bytes).value = ({ l with cursor := (l.cursor.read bytes).value.1 },
      some (.bare r.kind (String.ofList (l.cursor.read bytes).value.2))) := rfl

/-- A kind yields what its rule takes. -/
theorem tryKind_of_takes (hkind : Rule.ofKind? l.rules kind = some r)
    (htakes : r.matchLength l.cursor.ahead = some bytes) : l.tryKind kind = l.yield r bytes := by
  rw [Rule.ofKind?] at hkind
  rw [tryKind, hkind]
  dsimp only
  rw [htakes]
  rfl

/-- A kind without a rule, or one whose rule takes nothing, leads nowhere. -/
theorem tryKind_value_of_none
    (h : ∀ r, Rule.ofKind? l.rules kind = some r → r.matchLength l.cursor.ahead = none) :
    (l.tryKind kind).value = (l, none) := by
  rw [tryKind]
  split
  · rfl
  · rename_i r hkind
    rw [h r hkind]
    rfl

/-- The next token is what is taken first. -/
theorem next_of_takesFirst (hahead : l.cursor.isDone = false)
    (h : Rule.TakesFirst l.rules l.cursor.ahead place r bytes) : l.next = l.yield r bytes := by
  rw [next, if_neg (Bool.eq_false_iff.mp hahead), h.firstMatch]
  rfl

/-- Where no rule takes anything, there is no next token. -/
theorem next_value_of_none (h : ∀ r ∈ l.rules, r.matchLength l.cursor.ahead = none) :
    l.next.value = (l, none) :=
  next_of_none (Rule.cut?_eq_none_iff.mpr (.inr h))

/-- The rule that takes something first is the one that its kind leads to, unless a rule before it
has the kind. -/
theorem tryKind_eq_next (hahead : l.cursor.isDone = false)
    (h : Rule.TakesFirst l.rules l.cursor.ahead place r bytes)
    (hne : ∀ q ∈ l.rules.take place, q.kind ≠ r.kind) : l.tryKind r.kind = l.next := by
  rw [next_of_takesFirst hahead h,
    tryKind_of_takes (Rule.ofKind?_of_forall_ne h.atPlace hne) h.takes]

/-- A rule before it that has the kind takes nothing, and is the only one that is tried. -/
theorem tryKind_value_of_shadowed (h : Rule.TakesFirst l.rules l.cursor.ahead place r bytes)
    (hshadowed : ∃ q ∈ l.rules.take place, q.kind = r.kind) :
    (l.tryKind r.kind).value = (l, none) := by
  obtain ⟨q, hq, hkind⟩ := hshadowed
  refine tryKind_value_of_none fun first hfirst => ?_
  obtain ⟨first', hmem, hfirst'⟩ := Rule.exists_ofKind?_of_mem_take hq
  rw [hkind, hfirst] at hfirst'
  obtain rfl := Option.some.inj hfirst'
  exact h.before first hmem

/-- So its kind leads to the next token just where no rule before it has the kind. -/
theorem tryKind_eq_next_iff (hahead : l.cursor.isDone = false)
    (h : Rule.TakesFirst l.rules l.cursor.ahead place r bytes) :
    (l.tryKind r.kind).value = l.next.value ↔ ∀ q ∈ l.rules.take place, q.kind ≠ r.kind := by
  constructor
  · intro heq q hq hkind
    rw [tryKind_value_of_shadowed h ⟨q, hq, hkind⟩, next_of_takesFirst hahead h, yield_value] at heq
    cases (Prod.mk.inj heq).2
  · intro hne
    rw [tryKind_eq_next hahead h hne]

/-! ## One kind after the other

A lexer that only knew kinds could try them in the order of its rules. Each kind that leads
nowhere leaves the lexer as it is, so the next one is tried on the same text, and the first
that yields a token ends the search. With two rules of one kind this would miss the second
of them. -/

/-- The kinds of the rules before a place, of the one there, and of those behind it. -/
theorem kinds_eq_append (h : l.rules[place]? = some r) :
    l.kinds = (l.rules.take place).map Rule.kind ++
      r.kind :: (l.rules.drop (place + 1)).map Rule.kind := by
  rw [← List.map_cons, ← List.map_append, ← Rule.eq_take_append h]
  rfl

/-- Tries kinds one after the other, until one of them yields a token. -/
def tryKinds (l : Lexer) : List String → Traced (Lexer × Option Token)
  | [] => pure (l, none)
  | kind :: rest => do
    let (l, token) ← l.tryKind kind
    match token with
    | some token => return (l, some token)
    | none => l.tryKinds rest

/-- A kind that leads nowhere is passed over. -/
theorem tryKinds_of_none {rest : List String} (h : (l.tryKind kind).value = (l, none)) :
    (l.tryKinds (kind :: rest)).value = (l.tryKinds rest).value := by
  rw [tryKinds, Traced.bind_value, h]

/-- A kind that yields a token ends the search. -/
theorem tryKinds_of_some {next : Lexer} {token : Token} {rest : List String}
    (h : (l.tryKind kind).value = (next, some token)) :
    (l.tryKinds (kind :: rest)).value = (next, some token) := by
  rw [tryKinds, Traced.bind_value, h]
  rfl

/-- Kinds that lead nowhere are passed over. -/
theorem tryKinds_append {kinds : List String}
    (h : ∀ kind ∈ kinds, (l.tryKind kind).value = (l, none))
    (rest : List String) : (l.tryKinds (kinds ++ rest)).value = (l.tryKinds rest).value := by
  induction kinds with
  | nil => rfl
  | cons kind kinds ih =>
    obtain ⟨hkind, hkinds⟩ := List.forall_mem_cons.mp h
    rw [List.cons_append, tryKinds_of_none hkind, ih hkinds]

/-- Where all kinds differ, rules that take nothing are of kinds that lead nowhere. -/
theorem tryKind_value_of_nodup (hnodup : l.kinds.Nodup) (hr : r ∈ l.rules)
    (hnone : r.matchLength l.cursor.ahead = none) : (l.tryKind r.kind).value = (l, none) := by
  refine tryKind_value_of_none fun first hfirst => ?_
  rw [Rule.ofKind?_of_nodup hnodup hr] at hfirst
  obtain rfl := Option.some.inj hfirst
  exact hnone

/-- **Where all kinds differ**, the next token is the one that the kinds lead to one after the
other. -/
theorem next_eq_tryKinds (hahead : l.cursor.isDone = false) (hnodup : l.kinds.Nodup) :
    l.next.value = (l.tryKinds l.kinds).value := by
  by_cases hsome : ∃ q ∈ l.rules, q.matchLength l.cursor.ahead ≠ none
  · obtain ⟨place, r, bytes, hfirst⟩ := Rule.exists_takesFirst hsome
    have hr : r ∈ l.rules := List.mem_of_getElem? hfirst.atPlace
    -- each kind leads to its own rule, and no rule before the first that takes something does so
    have hbefore : ∀ kind ∈ (l.rules.take place).map Rule.kind,
        (l.tryKind kind).value = (l, none) := by
      intro kind hkind
      obtain ⟨q, hq, rfl⟩ := List.mem_map.mp hkind
      exact tryKind_value_of_nodup hnodup (List.mem_of_mem_take hq) (hfirst.before q hq)
    have htry : (l.tryKind r.kind).value = _ := congrArg Traced.value
      (tryKind_of_takes (Rule.ofKind?_of_nodup hnodup hr) hfirst.takes)
    rw [yield_value] at htry
    rw [next_of_takesFirst hahead hfirst, yield_value, kinds_eq_append hfirst.atPlace,
      tryKinds_append hbefore, tryKinds_of_some htry]
  · have hnone : ∀ q ∈ l.rules, q.matchLength l.cursor.ahead = none := fun q hq =>
      by_contra fun htakes => hsome ⟨q, hq, htakes⟩
    have hkinds : ∀ kind ∈ l.kinds, (l.tryKind kind).value = (l, none) := by
      intro kind hkind
      exact tryKind_value_of_none fun r hr => hnone r (Rule.mem_of_ofKind? hr)
    have htry := tryKinds_append hkinds []
    rw [List.append_nil] at htry
    rw [next_value_of_none hnone, htry]
    rfl

end Lexer

namespace Host

variable {l : Lexer} {r : Rule} {place bytes : Nat}

/-! ## Under trackings

Trackings mark what is yielded and leave alone what is not, so the comparison carries over:
equal productions are marked alike, and a token on one side only stays one after marking. -/

/-- A kind that leads nowhere does so under trackings. -/
theorem tryKind_tracking_of_shadowed (names : List String)
    (h : Rule.TakesFirst l.rules l.cursor.ahead place r bytes)
    (hshadowed : ∃ q ∈ l.rules.take place, q.kind = r.kind) :
    ((tracking l names).tryKind r.kind).value = .ok (tracking l names, none) := by
  rw [tryKind_tracking, surround, Lexer.tryKind_value_of_shadowed h hshadowed]
  rfl

/-- Under trackings the two ways agree in the same cases. -/
theorem tryKind_tracking_eq_next_iff (names : List String) (hahead : l.cursor.isDone = false)
    (h : Rule.TakesFirst l.rules l.cursor.ahead place r bytes) :
    ((tracking l names).tryKind r.kind).value = (tracking l names).next.value ↔
      ∀ q ∈ l.rules.take place, q.kind ≠ r.kind := by
  constructor
  · intro heq q hq hkind
    rw [tryKind_tracking_of_shadowed names h ⟨q, hq, hkind⟩, next_tracking,
      Lexer.next_of_takesFirst hahead h] at heq
    cases (Prod.mk.inj (Except.ok.inj heq)).2
  · intro hne
    rw [tryKind_tracking, next_tracking, Lexer.tryKind_eq_next hahead h hne]

end Host

namespace Lexer

/-- **The two ways to a token agree as far as the kinds tell the rules apart.** While there is text
ahead, no token is yielded either way where no rule takes anything. Else the next token is what is
read by the rule that takes something first. The kind of this rule leads to the same token and the
same state just where no rule before it has the kind, and where one has, it leads nowhere; so it
does under any trackings. Where all kinds differ, the next token is the one that the kinds lead to
one after the other. -/
theorem dispatch_agrees {l : Lexer} (hahead : l.cursor.isDone = false) :
    ((∀ r ∈ l.rules, r.matchLength l.cursor.ahead = none) →
        l.next.value = (l, none) ∧ ∀ kind, (l.tryKind kind).value = (l, none)) ∧
      ((∃ r ∈ l.rules, r.matchLength l.cursor.ahead ≠ none) →
        ∃ place r bytes, Rule.TakesFirst l.rules l.cursor.ahead place r bytes ∧
          l.next.value = ({ l with cursor := (l.cursor.read bytes).value.1 },
            some (.bare r.kind (String.ofList (l.cursor.read bytes).value.2))) ∧
          ((l.tryKind r.kind).value = l.next.value ↔
            ∀ q ∈ l.rules.take place, q.kind ≠ r.kind) ∧
          ((∃ q ∈ l.rules.take place, q.kind = r.kind) →
            (l.tryKind r.kind).value = (l, none)) ∧
          ∀ names,
            (((Host.tracking l names).tryKind r.kind).value = (Host.tracking l names).next.value ↔
              ∀ q ∈ l.rules.take place, q.kind ≠ r.kind) ∧
            ((∃ q ∈ l.rules.take place, q.kind = r.kind) →
              ((Host.tracking l names).tryKind r.kind).value =
                .ok (Host.tracking l names, none))) ∧
      (l.kinds.Nodup → l.next.value = (l.tryKinds l.kinds).value) := by
  refine ⟨fun hnone => ⟨next_value_of_none hnone, fun kind => ?_⟩, fun hsome => ?_,
    next_eq_tryKinds hahead⟩
  · exact tryKind_value_of_none fun r hr => hnone r (Rule.mem_of_ofKind? hr)
  · obtain ⟨place, r, bytes, hfirst⟩ := Rule.exists_takesFirst hsome
    have hnext : l.next.value = _ := congrArg Traced.value (next_of_takesFirst hahead hfirst)
    refine ⟨place, r, bytes, hfirst, hnext, tryKind_eq_next_iff hahead hfirst,
      tryKind_value_of_shadowed hfirst, fun names => ?_⟩
    exact ⟨Host.tryKind_tracking_eq_next_iff names hahead hfirst,
      Host.tryKind_tracking_of_shadowed names hfirst⟩

/-- A rule for `x` stands before one for `a` of the same kind: there is a next token, and the kind
leads nowhere. -/
theorem dispatch_agrees_shadowed :
    ∃ l : Lexer,
      l = ⟨.ofText .standard ['a'], [⟨"letter", .single 'x'⟩, ⟨"letter", .single 'a'⟩]⟩ ∧
      l.cursor.isDone = false ∧ l.next.value.2 = some (.bare "letter" "a") ∧
      (l.tryKind "letter").value = (l, none) := by
  obtain ⟨-, hsome, -⟩ := dispatch_agrees
    (l := ⟨.ofText .standard ['a'], [⟨"letter", .single 'x'⟩, ⟨"letter", .single 'a'⟩]⟩) rfl
  obtain ⟨place, r, bytes, hfirst, hnext, -, hnowhere, -⟩ :=
    hsome ⟨⟨"letter", .single 'a'⟩, List.mem_cons_of_mem _ List.mem_cons_self, by decide⟩
  obtain ⟨hplace, htakes, -⟩ := hfirst
  refine ⟨_, rfl, rfl, ?_⟩
  rcases place with _ | _ | place
  · obtain rfl := Option.some.inj hplace
    cases htakes
  · obtain rfl := Option.some.inj hplace
    obtain rfl := Option.some.inj htakes
    exact ⟨congrArg Prod.snd hnext, hnowhere ⟨_, List.mem_cons_self, rfl⟩⟩
  · cases hplace

end Lexer

end TokenSpans
