import TokenSpans.Filter

/-!
# The limit that a target meets

Among the rules of a filter that begin a target, one that is as long as any other decides
(`limitFor_cases`). The targets of the parts all go on differently behind what they have in common,
so a text names at most one part (`Part.eq_of_prefixes`), and the length never has to decide: the
limit is that of the part that the text names, whatever the order of the rules.

A part without a limit of its own has a rule with the global limit, which is what would hold without
the rule. So the rules of such parts may as well be left out (`limitFor_ofParts`).

Two facts of different kinds meet here. How a filter searches its rules is a matter of the
definition and holds for any rules; that no target of a part begins another is a matter of
the four texts and is decided by looking at them. Neither is enough alone: with overlapping
targets the longest rule would decide, and without the search one could not say that some
rule is found.
-/

namespace TokenSpans

namespace Part

/-! ## Targets of parts

The four targets are compared once, by evaluation. From there on a part is found in a target
by its own text alone, so `named?` is a function on texts that no rule and no limit occurs
in. -/

/-- Every part is listed. -/
theorem mem_all (p : Part) : p ∈ all := by
  cases p <;> decide

/-- No part's target begins another's. -/
theorem eq_of_prefix_target {p q : Part} (h : p.target.toList <+: q.target.toList) : p = q := by
  have hall : ∀ p ∈ all, ∀ q ∈ all, p.target.toList <+: q.target.toList → p = q := by decide
  exact hall p p.mem_all q q.mem_all h

/-- At most one part's target begins a text. -/
theorem eq_of_prefixes {p q : Part} {s : List Char} (hp : p.target.toList <+: s)
    (hq : q.target.toList <+: s) : p = q := by
  rcases List.prefix_or_prefix_of_prefix hp hq with h | h
  · exact eq_of_prefix_target h
  · exact (eq_of_prefix_target h).symm

/-- The part whose target begins a text. -/
def named? (target : String) : Option Part :=
  all.find? fun p => p.target.toList.isPrefixOf target.toList

/-- A part that is found has a target that begins the text. -/
theorem prefix_of_named? {target : String} {p : Part} (h : named? target = some p) :
    p.target.toList <+: target.toList := by
  rw [named?] at h
  have hfound := List.find?_some h
  exact List.isPrefixOf_iff_prefix.mp hfound

/-- A part is found exactly if its target begins the text. -/
theorem named?_eq_some_iff {target : String} {p : Part} :
    named? target = some p ↔ p.target.toList <+: target.toList := by
  constructor
  · exact prefix_of_named?
  · intro h
    have hfound : (named? target).isSome :=
      List.find?_isSome.mpr ⟨p, p.mem_all, List.isPrefixOf_iff_prefix.mpr h⟩
    obtain ⟨q, hq⟩ := Option.isSome_iff_exists.mp hfound
    obtain rfl := eq_of_prefixes (prefix_of_named? hq) h
    exact hq

/-- No part is found exactly if no target begins the text. -/
theorem named?_eq_none_iff {target : String} :
    named? target = none ↔ ∀ p : Part, ¬ p.target.toList <+: target.toList := by
  constructor
  · intro h p hprefix
    cases h.symm.trans (named?_eq_some_iff.mpr hprefix)
  · intro h
    exact Option.eq_none_iff_forall_ne_some.mpr fun p hp => h p (named?_eq_some_iff.mp hp)

end Part

namespace Filter

/-! ## The longest rule

The search keeps the rules that begin the target and folds over them. That a fold with
`longer` yields one of the elements, and one that none is longer than, is by induction with
the first element free, since it is what changes from step to step. -/

/-- Of two rules the longer one is one of them, and no shorter than either. -/
theorem longer_cases (a b : String × Level) :
    (longer a b = a ∨ longer a b = b) ∧ a.1.length ≤ (longer a b).1.length ∧
      b.1.length ≤ (longer a b).1.length := by
  rw [longer]
  split
  · exact ⟨.inr rfl, by omega, Nat.le_refl _⟩
  · exact ⟨.inl rfl, Nat.le_refl _, by omega⟩

/-- The longest of some rules is one of them, and none is longer. -/
theorem foldl_longer (first : String × Level) (more : List (String × Level)) :
    more.foldl longer first ∈ first :: more ∧
      ∀ r ∈ first :: more, r.1.length ≤ (more.foldl longer first).1.length := by
  induction more generalizing first with
  | nil =>
    refine ⟨List.mem_cons_self, fun r hr => ?_⟩
    obtain rfl := List.mem_singleton.mp hr
    exact Nat.le_refl _
  | cons next rest ih =>
    obtain ⟨hmem, hlongest⟩ := ih (longer first next)
    obtain ⟨hone, hfirst, hnext⟩ := longer_cases first next
    have hhead := hlongest _ List.mem_cons_self
    rw [List.foldl_cons]
    constructor
    · rcases List.mem_cons.mp hmem with heq | hrest
      · rw [heq]
        rcases hone with h | h
        · rw [h]
          exact List.mem_cons_self
        · rw [h]
          exact List.mem_cons_of_mem _ List.mem_cons_self
      · exact List.mem_cons_of_mem _ (List.mem_cons_of_mem _ hrest)
    · intro r hr
      rcases List.mem_cons.mp hr with rfl | hr
      · exact Nat.le_trans hfirst hhead
      · rcases List.mem_cons.mp hr with rfl | hr
        · exact Nat.le_trans hnext hhead
        · exact hlongest r (List.mem_cons_of_mem _ hr)

/-- **The longest rule that begins a target decides**, and the global limit where there is none. -/
theorem limitFor_cases (f : Filter) (target : String) :
    (∃ r ∈ f.rules, r.1.toList <+: target.toList ∧
        (∀ s ∈ f.rules, s.1.toList <+: target.toList → s.1.length ≤ r.1.length) ∧
        f.limitFor target = r.2) ∨
      (∀ r ∈ f.rules, ¬ r.1.toList <+: target.toList) ∧ f.limitFor target = f.otherwise := by
  have hmem : ∀ r, r ∈ f.rules.filter (fun r => r.1.toList.isPrefixOf target.toList) ↔
      r ∈ f.rules ∧ r.1.toList <+: target.toList := by
    intro r
    rw [List.mem_filter, List.isPrefixOf_iff_prefix]
  rw [limitFor]
  cases hfound : f.rules.filter fun r => r.1.toList.isPrefixOf target.toList with
  | nil =>
    refine .inr ⟨fun r hr hprefix => ?_, rfl⟩
    have hnil := (hmem r).mpr ⟨hr, hprefix⟩
    rw [hfound] at hnil
    cases hnil
  | cons first more =>
    rw [hfound] at hmem
    obtain ⟨hone, hlongest⟩ := foldl_longer first more
    obtain ⟨hrule, hprefix⟩ := (hmem _).mp hone
    exact .inl ⟨_, hrule, hprefix, fun s hs hbegins => hlongest s ((hmem s).mpr ⟨hs, hbegins⟩), rfl⟩

/-! ## Filters of parts

A filter made for some list of parts is compared with what the limits say of the part that a
target names. The list may be any as long as the parts left out have no limit of their own,
which covers the filter with all rules, with the rules in another order, and with as few
rules as possible. -/

variable {l : Limits} {target : String}

/-- A target meets the limit of the part that it names, or else the global one. Of the parts that
have no limit of their own, any may be without a rule. -/
theorem limitFor_ofParts {parts : List Part} (hparts : ∀ p ∉ parts, l.own? p = none) :
    (ofParts parts l).limitFor target = ((Part.named? target).bind l.own?).getD l.global := by
  rcases limitFor_cases (ofParts parts l) target with ⟨r, hr, hprefix, -, hlimit⟩ | ⟨hnone, hlimit⟩
  · obtain ⟨p, -, rfl⟩ := List.mem_map.mp hr
    rw [hlimit, Part.named?_eq_some_iff.mpr hprefix]
    rfl
  · rw [hlimit]
    cases hnamed : Part.named? target with
    | none => rfl
    | some p =>
      -- the part is named but has no rule, so it has no limit of its own
      have hp : p ∉ parts := fun hmem =>
        hnone _ (List.mem_map_of_mem hmem) (Part.named?_eq_some_iff.mp hnamed)
      rw [Option.bind_some, hparts p hp]
      rfl

/-- The filter with all rules is the case in which no part is left out. -/
theorem limitFor_ofLimits :
    (ofLimits l).limitFor target = ((Part.named? target).bind l.own?).getD l.global :=
  limitFor_ofParts fun p hp => absurd p.mem_all hp

/-- A report passes if its level is no less grave than the limit. -/
theorem lets_eq_true_iff {f : Filter} {level : Level} :
    f.lets target level = true ↔ level.rank ≤ (f.limitFor target).rank :=
  decide_eq_true_iff

/-- Filters with the same limit for a target let the same reports through. -/
theorem lets_congr {f f' : Filter} (h : f.limitFor target = f'.limitFor target) (level : Level) :
    f.lets target level = f'.lets target level := by
  rw [lets, lets, h]

/-- **A report is let through up to the limit of the part that its target names**, or up to the
global limit where it names none, and no target names two. So the order of the parts makes no
difference, a limit of one part matters to the targets that name it and to no others, and a part
without a limit of its own is judged as if there were no rules at all: the rules of all such parts
may be left out. -/
theorem targets_meet_one_limit (l : Limits) (target : String) :
    (∀ p : Part, p.target.toList <+: target.toList → ∀ level,
        ((ofLimits l).lets target level = true ↔ level.rank ≤ (l.limitFor p).rank)) ∧
      ((∀ p : Part, ¬ p.target.toList <+: target.toList) → ∀ level,
        ((ofLimits l).lets target level = true ↔ level.rank ≤ l.global.rank)) ∧
      (∀ p q : Part, p.target.toList <+: target.toList → q.target.toList <+: target.toList →
        p = q) ∧
      (∀ parts, parts.Perm Part.all → ∀ level,
        (ofParts parts l).lets target level = (ofLimits l).lets target level) ∧
      (∀ (p : Part) (l' : Limits), l'.global = l.global → (∀ q, q ≠ p → l'.own? q = l.own? q) →
        ¬ p.target.toList <+: target.toList → ∀ level,
          (ofLimits l').lets target level = (ofLimits l).lets target level) ∧
      (∀ p : Part, l.own? p = none → p.target.toList <+: target.toList → ∀ level,
        (ofLimits l).lets target level = (ofParts [] l).lets target level) ∧
      ∀ level, (ofParts (Part.all.filter fun p => (l.own? p).isSome) l).lets target level =
        (ofLimits l).lets target level := by
  refine ⟨?_, ?_, fun p q => Part.eq_of_prefixes, ?_, ?_, ?_, ?_⟩
  · intro p hprefix level
    rw [lets_eq_true_iff, limitFor_ofLimits, Part.named?_eq_some_iff.mpr hprefix]
    exact Iff.rfl
  · intro hnone level
    rw [lets_eq_true_iff, limitFor_ofLimits, Part.named?_eq_none_iff.mpr hnone]
    exact Iff.rfl
  · intro parts hperm
    refine lets_congr ?_
    rw [limitFor_ofLimits]
    exact limitFor_ofParts fun p hp => absurd (hperm.mem_iff.mpr p.mem_all) hp
  · intro p l' hglobal hothers hprefix
    refine lets_congr ?_
    rw [limitFor_ofLimits, limitFor_ofLimits, hglobal]
    cases hnamed : Part.named? target with
    | none => rfl
    | some q =>
      have hne : q ≠ p := by
        rintro rfl
        exact hprefix (Part.named?_eq_some_iff.mp hnamed)
      rw [Option.bind_some, Option.bind_some, hothers q hne]
  · intro p hown hprefix
    refine lets_congr ?_
    rw [limitFor_ofLimits, Part.named?_eq_some_iff.mpr hprefix, Option.bind_some, hown]
    rfl
  · refine lets_congr ?_
    rw [limitFor_ofLimits]
    refine limitFor_ofParts fun p hp => ?_
    rw [← Option.not_isSome_iff_eq_none]
    exact fun hsome => hp (List.mem_filter.mpr ⟨p.mem_all, hsome⟩)

end Filter

end TokenSpans
