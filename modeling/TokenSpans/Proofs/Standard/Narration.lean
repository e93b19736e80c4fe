import TokenSpans.Proofs.Filtering
import TokenSpans.Proofs.Standard.Acceptance
import TokenSpans.Proofs.Transparency
import TokenSpans.Standard.Narration

/-!
# The narration of a run

What tokenising a source says about its work can be told from what it comes to. Every token of a
tracked run is four reports (`Lexer.Produces.reports`), a production that yields none is three
(`Lexer.reports_of_none`), and a run is what its productions are (`Course.reports`). Put between
what is said before the run and behind it, that is the narration (`Standard.narrated`).

Effects are compared as lists, so the order of the reports is part of what is proved, and so
is that there are no others. The narration is computed from tokens that have their spans
already; a production is heard of while it goes on. What connects the two is that each
report of a production tells of a place at which its token starts or stops, and the token
has the same place in its span.

Nobody observes a run of this kind, so there are no notices, and no report that announces
one. This is used early: a marker is completed in one way where someone is to be told, and
in another where not.
-/

namespace TokenSpans

open Host Standard

/-! ## Reports that are let through

A filter may have limits of its own for the parts, so the most talkative limit has to be
given for all of them; what the filter looks up for a part is then that limit, by whichever
rule it comes. -/

/-- With the most talkative limit everywhere no report is held back. -/
theorem Report.passes_of_trace {limits : Limits} (hglobal : limits.global = .trace)
    (hparts : ∀ part, limits.limitFor part = .trace) (r : Report) :
    r.passes (Filter.ofLimits limits) = true := by
  have hlimit : (Filter.ofLimits limits).limitFor r.part.target = .trace := by
    rcases (Filter.ofLimits limits).limitFor_cases r.part.target with
      ⟨rule, hrule, -, -, h⟩ | ⟨-, h⟩
    · obtain ⟨part, -, rfl⟩ := List.mem_map.mp hrule
      exact h.trans (hparts part)
    · exact h.trans hglobal
  rw [passes, Filter.lets, hlimit]
  cases r.level with
  | error => rfl
  | warn => rfl
  | info => rfl
  | debug => rfl
  | trace => rfl

/-! ## One production

A production under one marker says that the marker is set, what the bare production says,
and that the marker is completed. For a token these are four reports, one of which names its
bytes and one its kind and value. Without a token they are three: that the marker is set,
that no rule matches, and that nothing was produced. The marker is then dropped, of which
nothing is said. -/

/-- A token that was marked under one name has its four reports. -/
theorem Standard.tokenReports_mark (property : String) (span : Span) (t : Token) :
    tokenReports property (t.mark [property] span) =
      [.marked property span.start,
        .read (Text.byteLength t.value.toList) span.stop,
        .produced t.kind t.value span.stop.line span.stop.column,
        .completed property span.start.offset span.stop.offset] := by
  have hspan : (t.mark [property] span).spans.get? property = some span :=
    HoldsSpans.get?_attach t property span
  rw [tokenReports, hspan]
  rfl

/-- What is said where a lexer has text ahead and yields nothing. -/
def Standard.halting (property : String) (l : Lexer) : List Report :=
  if l.cursor.ahead = [] then []
  else [.marked property l.cursor.location, .noRuleMatched l.cursor.location,
    .nothingProduced l.cursor.location.offset]

namespace Lexer

variable {l : Lexer}

/-- What is said of a token under one marker, where nobody is to be told. -/
theorem Produces.reports {work : Traced (Lexer × Option Token)} (h : l.Produces work)
    (hobserver : l.view.observer = none) (property : String) {t : Token}
    (ht : work.value.2 = some t) :
    (surround l [property] work).effects =
      (tokenReports property (t.mark [property] (l.spanTo work.value.1))).map Effect.report := by
  have hnext := h.observer_eq.trans hobserver
  rw [tokenReports_mark, surround, ht, Marker.endings, hnext]
  cases h with
  | nothing reports part => cases ht
  | token piece rest ahead =>
    obtain rfl := Option.some.inj ht
    rw [Piece.value_token]
    rfl

/-- A lexer that has text ahead and yields nothing says that no rule matches. -/
theorem next_effects_of_none (hahead : l.cursor.ahead ≠ []) (hnone : l.next.value.2 = none) :
    l.next.effects = [.report (.noRuleMatched l.cursor.location)] := by
  have hdone : ¬ l.cursor.isDone = true := fun hend => hahead (List.isEmpty_iff.mp hend)
  rw [next, if_neg hdone] at hnone ⊢
  split at hnone
  · rfl
  · cases hnone

/-- Under one marker such a lexer says three things. -/
theorem reports_of_none (hahead : l.cursor.ahead ≠ []) (hnone : l.next.value.2 = none)
    (property : String) :
    (surround l [property] l.next).effects = (halting property l).map Effect.report := by
  rw [halting, if_neg hahead, surround, hnone, next_effects_of_none hahead hnone,
    l.produces_next.eq_of_none hnone]
  rfl

end Lexer

/-! ## A run

The course of a run has three constructors, for an end of the text, a stop and a token. Each
adds its reports to those of the rest, and the observer stays away throughout. -/

/-- **What is said in a run** is said of its tokens one after the other, and of the production that
has ended it, if text is left. -/
theorem Host.Course.reports {property : String} {l last : Lexer} {tokens : List Token}
    {effects : List Effect} (h : Course [property] l tokens effects last)
    (hobserver : l.view.observer = none) :
    effects =
      (tokens.flatMap (tokenReports property) ++ halting property last).map Effect.report := by
  induction h with
  | ended ahead =>
    rw [halting, if_pos ahead]
    rfl
  | @stopped l ahead production =>
    rw [l.produces_next.eq_of_none production, Lexer.reports_of_none ahead production]
    rfl
  | @went l last t tokens effects ahead production rest ih =>
    have hnext := l.produces_next.observer_eq.trans hobserver
    rw [ih hnext, l.produces_next.reports hobserver property production, List.flatMap_cons,
      List.append_assoc, List.map_append, List.map_append, List.map_append]

/-! ## Tokenising a source

The reports before and after the run are written out in `tokenise`, so there is not much to
prove about them. Only the ending has to be put together from two places: the run itself
says why it halts, and what is concluded from it says the rest. -/

namespace Standard

variable (settings : Settings) (source : List Char)

/-- Tokens are the same when what cannot be read is left out. -/
theorem marked_takeWhile :
    marked settings (source.takeWhile isAccepted) = marked settings source := by
  have hsegments : segments (source.takeWhile isAccepted) = segments source := by
    rw [← texts_segments]
    exact segments_slice (List.infix_refl _)
  rw [marked, marked, hsegments]

/-- What is said of a lexer that is set up with the standard rules. -/
theorem lexer_effects (settings : CursorSettings) :
    (lexer settings source).effects =
      List.map Effect.report (.lexerCreated :: rules.map fun r => .ruleRegistered r.kind) := by
  rw [lexer, Traced.bind_effects, Lexer.addRules_effects]
  rfl

/-- The lexer inside the host of a run when it stops. -/
def halted : Lexer :=
  ((Cursor.ofText settings.cursor source).lexer rules).moved
    (source.takeWhile isAccepted) (source.dropWhile isAccepted)

/-- What is said of a run. -/
theorem tracked_run_effects :
    (Host.tracked (.lexer ((Cursor.ofText settings.cursor source).lexer rules))
      settings.span.property).tokenise.effects =
      ((marked settings source).flatMap (tokenReports settings.span.property) ++
        halting settings.span.property (halted settings source)).map Effect.report := by
  obtain ⟨last, tokens, hvalue, hcourse⟩ := Host.course_tokenise
    ((Cursor.ofText settings.cursor source).lexer rules) [settings.span.property]
  obtain ⟨hlast, rfl⟩ :=
    Prod.mk.inj (Except.ok.inj ((tracked_run_value settings source).symm.trans hvalue))
  obtain rfl := Host.lexer.inj (Host.tracked.inj hlast).1
  refine hcourse.reports ?_
  -- a cursor that has just been set up has no observer
  exact ite_self none

/-- What a run halts with and what is concluded from it are the ending of the narration. -/
theorem ending_conclude (property : String) (l : Lexer) (tokens : List Token) :
    (halting property l).map Effect.report ++ (conclude property l.view tokens).effects =
      (ending property (conclude property l.view tokens).value).map Effect.report := by
  have hview : l.view.ahead = l.cursor.ahead := rfl
  rw [conclude, halting, hview]
  cases l.cursor.ahead with
  | nil => rfl
  | cons c rest => rfl

/-- What is said of tokenising a source is the narration of its tokens. -/
theorem tokenise_effects :
    (tokenise settings source).effects =
      (narration settings.span.property source (marked settings source)
        (tokenise settings source).value).map Effect.report := by
  have hreport : ∀ r, ((Traced.report r : Traced Unit) : Action Unit).value = .ok () :=
    fun _ => rfl
  have hlexer : ((lexer settings.cursor source : Traced Lexer) : Action Lexer).value =
      .ok ((Cursor.ofText settings.cursor source).lexer rules) :=
    congrArg Except.ok (lexer_value ..)
  have htrack : ((Host.lexer ((Cursor.ofText settings.cursor source).lexer rules)).track
      settings.span.property).value = .ok (.tracked (.lexer _) settings.span.property) := rfl
  rw [tokenise_value, tokenise, Action.bind_of_ok (hreport _), Action.bind_of_ok (hreport _),
    Action.bind_of_ok hlexer, Action.bind_of_ok htrack,
    Action.bind_of_ok (tracked_run_value settings source)]
  have hview : (stopped settings source).view = (halted settings source).view := rfl
  dsimp only
  rw [Action.lift_traced_effects, Action.lift_traced_effects, Action.lift_traced_effects,
    lexer_effects, tracked_run_effects, narration, opening, List.map_append, hview,
    List.map_append, ← ending_conclude]
  simp only [List.map_append, List.append_assoc]
  rfl

variable {settings source}

/-- A token of a run has its span under the name of the settings, so all four reports are there. -/
theorem tokenReports_marked {t : Token} (ht : t ∈ marked settings source) :
    ∃ span, t.spans.get? settings.span.property = some span ∧
      tokenReports settings.span.property t =
        [.marked settings.span.property span.start,
          .read (Text.byteLength t.value.toList) span.stop,
          .produced t.kind t.value span.stop.line span.stop.column,
          .completed settings.span.property span.start.offset span.stop.offset] := by
  obtain ⟨span, hfits⟩ := Token.exists_fits_of_mem_layOut ht
  have hspan : t.spans.get? settings.span.property = some span := by
    rw [Spans.get?, hfits.entries, List.lookup_cons_self]
  refine ⟨span, hspan, ?_⟩
  rw [tokenReports, hspan]

/-- Reports that a narration may hold: none announces a notice, and none tells of an end of the text
that was asked beyond. -/
def IsNarrated : Report → Prop
  | .notifying _ | .endOfInput => False
  | _ => True

/-- The opening is narrated. -/
theorem isNarrated_opening {property : String} {r : Report} (hr : r ∈ opening property source) :
    IsNarrated r := by
  rcases List.mem_append.mp hr with hr | hr
  · rcases List.mem_append.mp hr with hr | hr
    · rcases List.mem_cons.mp hr with rfl | hr
      · trivial
      · rcases List.mem_cons.mp hr with rfl | hr
        · trivial
        · obtain rfl := List.mem_singleton.mp hr
          trivial
    · obtain ⟨rule, -, rfl⟩ := List.mem_map.mp hr
      trivial
  · obtain rfl := List.mem_singleton.mp hr
    trivial

/-- So are the reports of a token. -/
theorem isNarrated_tokenReports {property : String} {t : Token} {r : Report}
    (hr : r ∈ tokenReports property t) : IsNarrated r := by
  rw [tokenReports] at hr
  split at hr
  · cases hr
  · simp only [List.mem_cons, List.not_mem_nil, or_false] at hr
    rcases hr with rfl | rfl | rfl | rfl
    all_goals trivial

/-- So is the ending. -/
theorem isNarrated_ending {property : String} {outcome : Except Fault TokenList} {r : Report}
    (hr : r ∈ ending property outcome) : IsNarrated r := by
  unfold ending at hr
  split at hr
  · obtain rfl := List.mem_singleton.mp hr
    trivial
  · simp only [List.mem_cons, List.not_mem_nil, or_false] at hr
    rcases hr with rfl | rfl | rfl | rfl
    all_goals trivial
  · cases hr

/-- Hence so is all that a narration holds. -/
theorem isNarrated_narration {property : String} {tokens : List Token}
    {outcome : Except Fault TokenList} {r : Report}
    (hr : r ∈ narration property source tokens outcome) : IsNarrated r := by
  rcases List.mem_append.mp hr with hr | hr
  · rcases List.mem_append.mp hr with hr | hr
    · exact isNarrated_opening hr
    · obtain ⟨t, -, hr⟩ := List.mem_flatMap.mp hr
      exact isNarrated_tokenReports hr
  · exact isNarrated_ending hr

/-- **A run is narrated.** All that is heard of tokenising a source are reports, and they are the
narration of what it comes to: the opening, four reports for each token, and the ending. Where it
comes to a fault, the tokens are those of the source up to the place of the fault. With the most
talkative limits no report is held back; none announces a notice, and none tells of an end of the
text that was asked beyond. -/
theorem narrated (settings : Settings) (source : List Char) :
    (∀ found, (tokenise settings source).value = .ok found →
      (tokenise settings source).effects =
        (narration settings.span.property source found.tokens (.ok found)).map Effect.report) ∧
      (∀ fault, (tokenise settings source).value = .error fault →
        ∃ place shown found, fault = .unexpected place shown ∧
          (tokenise settings (source.take place.offset)).value = .ok found ∧
          (tokenise settings source).effects =
            (narration settings.span.property source found.tokens (.error fault)).map
              Effect.report) ∧
      (∀ text found, (tokenise settings text).value = .ok found → ∀ t ∈ found.tokens,
        ∃ span, t.spans.get? settings.span.property = some span ∧
          tokenReports settings.span.property t =
            [.marked settings.span.property span.start,
              .read (Text.byteLength t.value.toList) span.stop,
              .produced t.kind t.value span.stop.line span.stop.column,
              .completed settings.span.property span.start.offset span.stop.offset]) ∧
      (∀ limits : Limits, limits.global = .trace → (∀ part, limits.limitFor part = .trace) →
        ∀ r ∈ (tokenise settings source).reports, r.passes (Filter.ofLimits limits) = true) ∧
      ∀ r ∈ (tokenise settings source).reports,
        r ≠ .endOfInput ∧ ∀ name, r ≠ .notifying name := by
  have heffects := tokenise_effects settings source
  refine ⟨?_, ?_, ?_, ?_, ?_⟩
  · intro found hfound
    rw [heffects, hfound, (of_tokenise_eq_ok hfound).2]
  · intro fault hfault
    obtain ⟨before, c, rest, hsource, hbefore, hc, rfl⟩ := of_tokenise_eq_error hfault
    have hstop : ∀ d ∈ (c :: rest).head?, isAccepted d = false := by
      intro d hd
      obtain rfl := Option.some.inj hd
      exact hc
    have htake : source.takeWhile isAccepted = before := by
      rw [hsource]
      exact (Text.takeWhile_append_of_head? hbefore hstop).1
    have hbefore' : source.take before.length = before := by
      rw [hsource, List.take_left]
    refine ⟨_, _, ⟨settings.span.property, marked settings source⟩, rfl, ?_, ?_⟩
    · have hplace : (Location.after settings.cursor.numbering.first before).offset =
          before.length := rfl
      rw [hplace, hbefore', tokenise_of_accepted hbefore, ← htake, marked_takeWhile]
    · rw [heffects, hfault]
  · intro text found hfound t ht
    rw [(of_tokenise_eq_ok hfound).2] at ht
    exact tokenReports_marked ht
  · intro limits hglobal hparts r hr
    exact r.passes_of_trace hglobal hparts
  · intro r hr
    -- what is heard is the narration, and a report in it is one of its parts
    have hmem : r ∈ narration settings.span.property source (marked settings source)
        (tokenise settings source).value := by
      rw [Action.reports, heffects, List.filterMap_map] at hr
      obtain ⟨r', hr', heq⟩ := List.mem_filterMap.mp hr
      obtain rfl := Option.some.inj heq
      exact hr'
    have hnarrated := isNarrated_narration hmem
    constructor
    · rintro rfl
      exact hnarrated
    · rintro name rfl
      exact hnarrated

end Standard

end TokenSpans
