import TokenSpans.Proofs.CommandLine.Pointing
import TokenSpans.Proofs.Standard.Joining
import TokenSpans.Proofs.Standard.Narration

/-!
# One source under several settings

Whether a source is accepted and what its tokens are depends on no setting. The settings decide how
the spans of the tokens are written down: from where lines and columns are counted, under which
name a span is kept, and which label it has. Counting from one adds one to every line and column,
and the excerpt that goes with a fault takes it off again, so that it is the same text.
Announcements make no difference, since nobody observes a run (`tokenise_settings`).

Each setting is compared by changing it alone. For the tokens this means one equation for
`marked`: laid out in another way they are the tokens from before, each with its span
changed. A fault has no spans and changes with the numbering only, since its place is
counted too. One lemma turns the equation into one about outcomes
(`tokenise_value_of_marked`).

What is said of a run is settled by its narration, which is a function of the tokens and the
outcome. It names the property and the places, and never the label.
-/

namespace TokenSpans

/-! ## Changing one setting

Four settings are looked at, and each has a function that sets it and leaves the others. The
limits of the log are not among them: they decide which reports are let through, and that is
not part of a run. -/

namespace Settings

/-- With another numbering. -/
def withNumbering (s : Settings) (numbering : Numbering) : Settings :=
  { s with cursor := { s.cursor with numbering } }

/-- With another label, or without one. -/
def withSource (s : Settings) (source : Option String) : Settings :=
  { s with cursor := { s.cursor with source } }

/-- With announcements turned on or off. -/
def withAnnounces (s : Settings) (announces : Bool) : Settings :=
  { s with cursor := { s.cursor with announces } }

/-- With spans kept under another name. -/
def withProperty (s : Settings) (property : String) : Settings :=
  { s with span := ⟨property⟩ }

end Settings

/-! ## Spans written down in another way

For each setting there is a change of a single span, and from it one of a list of tokens.
Counting from one commutes with advancing over a text, and this is all that has to be known
about numberings. -/

namespace Location

/-- The same place where lines and columns are counted from one and not from zero. -/
def fromOne (l : Location) : Location :=
  { l with line := l.line + 1, column := l.column + 1 }

/-- Counting from one and advancing may be done in either order. -/
theorem advance_fromOne (l : Location) (text : List Char) :
    l.fromOne.advance 1 text = (l.advance 0 text).fromOne := by
  simp only [advance, fromOne, mk.injEq, true_and]
  refine ⟨?_, ?_⟩
  · omega
  · split <;> omega

/-- The place behind a text, counted from one. -/
theorem after_fromOne (text : List Char) : after 1 text = (after 0 text).fromOne := by
  have hadvance := advance_fromOne (origin 0) text
  rw [advance_origin] at hadvance
  rw [← hadvance, ← advance_origin]
  rfl

end Location

namespace Span

/-- The same span where lines and columns are counted from one and not from zero. -/
def fromOne (s : Span) : Span :=
  { s with start := s.start.fromOne, stop := s.stop.fromOne }

/-- The same span with another label, or without one. -/
def withSource (source : Option String) (s : Span) : Span :=
  { s with source }

end Span

/-- The span under one name put under another. -/
def Spans.rename (name name' : String) (spans : Spans) : Spans :=
  ofList (spans.entries.map fun e => (if e.1 = name then name' else e.1, e.2))

/-- The token with its span under another name. -/
def Token.rename (name name' : String) (t : Token) : Token :=
  { t with spans := t.spans.rename name name' }

/-- The report told of another property. -/
def Report.about (property : String) : Report → Report
  | marked _ start => marked property start
  | completed _ start stop => completed property start stop
  | notifying _ => notifying property
  | installed role _ => installed role property
  | r => r

/-- The report that is heard told of another property; notices stay as they are. -/
def Effect.about (property : String) : Effect → Effect
  | report r => report (r.about property)
  | notice n => notice n

namespace TokenList

/-- The list with every span changed in the same way. -/
def mapSpans (f : Span → Span) (l : TokenList) : TokenList :=
  { l with tokens := l.tokens.map (Token.mapSpans f) }

/-- The list with the spans of its tokens under another name. -/
def rename (name : String) (l : TokenList) : TokenList :=
  ⟨name, l.tokens.map (Token.rename l.property name)⟩

end TokenList

/-- Tokens laid out under another name. -/
theorem Token.layOut_rename {first : Nat} {source : Option String} (name name' : String)
    (here : Location) (pieces : List Piece) :
    layOut [name'] first source here (pieces.map Piece.token) =
      (layOut [name] first source here (pieces.map Piece.token)).map (rename name name') := by
  induction pieces generalizing here with
  | nil => rfl
  | cons p rest ih =>
    have hrename : ∀ span, (p.token.mark [name] span).rename name name' =
        p.token.mark [name'] span := by
      intro span
      have hspans : (p.token.mark [name] span).spans.rename name name' =
          (p.token.mark [name'] span).spans := by
        change Spans.ofList [(if name = name then name' else name, span)] = _
        rw [if_pos rfl]
        rfl
      rw [Token.rename, hspans]
      rfl
    rw [List.map_cons, layOut, layOut, List.map_cons, ih, hrename]

namespace Standard

variable (settings : Settings) (source : List Char)

/-! ## What a run comes to

The label and the name are changed in the same two steps: first the tokens, then what is
said of them. The reports on a token ask for its span under the name of the settings, so
renaming has to be done in the settings and in the tokens at once, or no span would be
found. -/

/-- Settings that count alike come to the same but for how the tokens are written down. -/
theorem tokenise_value_of_marked {settings settings' : Settings} {f : TokenList → TokenList}
    (hnumbering : settings'.cursor.numbering = settings.cursor.numbering)
    (hmarked : ⟨settings'.span.property, marked settings' source⟩ =
      f ⟨settings.span.property, marked settings source⟩) :
    (tokenise settings' source).value = (tokenise settings source).value.map f := by
  by_cases h : ∀ c ∈ source, isAccepted c = true
  · rw [tokenise_of_accepted h, tokenise_of_accepted h, hmarked]
    rfl
  · obtain ⟨before, c, rest, hsource, hbefore, hc⟩ := exists_first_not_accepted h
    rw [tokenise_of_not_accepted hsource hbefore hc, tokenise_of_not_accepted hsource hbefore hc,
      hnumbering]
    rfl

/-- Counted from one, every line and column of the tokens is one more. -/
theorem marked_fromOne :
    marked (settings.withNumbering .one) source =
      (marked (settings.withNumbering .zero) source).map (Token.mapSpans Span.fromOne) :=
  Token.layOut_map (fun l text => l.advance_fromOne text) (fun _ _ => rfl) (.origin 0)
    (segments source)

/-- With another label the tokens are the same but for the label of their spans. -/
theorem marked_withSource (label : Option String) :
    marked (settings.withSource label) source =
      (marked settings source).map (Token.mapSpans (Span.withSource label)) :=
  Token.layOut_map (f := id) (fun _ _ => rfl) (fun _ _ => rfl) _ (segments source)

/-- The reports on a token do not tell its label. -/
theorem tokenReports_withSource (property : String) (label : Option String) (t : Token) :
    tokenReports property (t.mapSpans (Span.withSource label)) = tokenReports property t := by
  have hspan : (t.mapSpans (Span.withSource label)).spans.get? property =
      (t.spans.get? property).map (Span.withSource label) := Spans.get?_mapValues ..
  rw [tokenReports, hspan]
  cases hget : t.spans.get? property with
  | none => rw [tokenReports, hget]; rfl
  | some span => rw [tokenReports, hget]; rfl

/-- What is said of a run does not tell the label. -/
theorem effects_withSource (label : Option String) :
    (tokenise (settings.withSource label) source).effects = (tokenise settings source).effects := by
  have hvalue : (tokenise (settings.withSource label) source).value =
      (tokenise settings source).value.map (TokenList.mapSpans (Span.withSource label)) :=
    tokenise_value_of_marked source rfl
      (congrArg (TokenList.mk _) (marked_withSource settings source label))
  have hending : ∀ outcome : Except Fault TokenList,
      ending settings.span.property (outcome.map (TokenList.mapSpans (Span.withSource label))) =
        ending settings.span.property outcome := by
    intro outcome
    cases outcome with
    | error fault => rfl
    | ok found =>
      simp [Except.map, ending, TokenList.mapSpans]
  have hproperty : (settings.withSource label).span.property = settings.span.property := rfl
  rw [tokenise_effects, tokenise_effects, hvalue, hproperty, marked_withSource, narration, narration,
    hending, List.flatMap_map]
  simp only [tokenReports_withSource]

/-- The reports on a token are the same under another name, but for the name. -/
theorem tokenReports_rename {property property' : String} {span : Span} {t : Token}
    (h : t.spans.entries = [(property, span)]) :
    tokenReports property' (t.rename property property') =
      (tokenReports property t).map (Report.about property') := by
  have hspans : t.spans.rename property property' = Spans.ofList [(property', span)] := by
    rw [Spans.rename, h, List.map_singleton, if_pos rfl]
  have hspan : (t.rename property property').spans.get? property' = some span := by
    rw [Token.rename, hspans]
    exact List.lookup_cons_self
  have hspan' : t.spans.get? property = some span := by
    rw [Spans.get?, h, List.lookup_cons_self]
  rw [tokenReports, tokenReports, hspan, hspan']
  rfl

/-- What is said of a run under another property is the same, but for the property. -/
theorem effects_withProperty (property : String) :
    (tokenise (settings.withProperty property) source).effects =
      (tokenise settings source).effects.map (Effect.about property) := by
  have hmarked : marked (settings.withProperty property) source =
      (marked settings source).map (Token.rename settings.span.property property) :=
    Token.layOut_rename ..
  have hvalue : (tokenise (settings.withProperty property) source).value =
      (tokenise settings source).value.map (TokenList.rename property) :=
    tokenise_value_of_marked source rfl (congrArg (TokenList.mk property) hmarked)
  -- opening, tokens and ending are renamed one by one
  have hopening : opening property source =
      (opening settings.span.property source).map (Report.about property) := rfl
  have htokens : (marked (settings.withProperty property) source).flatMap (tokenReports property) =
      ((marked settings source).flatMap (tokenReports settings.span.property)).map
        (Report.about property) := by
    rw [hmarked, List.flatMap_map, List.map_flatMap]
    refine List.flatMap_congr fun t ht => ?_
    obtain ⟨span, hfits⟩ := Token.exists_fits_of_mem_layOut ht
    exact tokenReports_rename hfits.entries
  have hending : ∀ outcome : Except Fault TokenList,
      ending property (outcome.map (TokenList.rename property)) =
        (ending settings.span.property outcome).map (Report.about property) := by
    intro outcome
    cases outcome with
    | ok found => simp [Except.map, ending, TokenList.rename, Report.about]
    | error fault => cases fault <;> rfl
  have hproperty : (settings.withProperty property).span.property = property := rfl
  rw [tokenise_effects, tokenise_effects, hvalue, hproperty, narration, narration, hopening,
    htokens, hending, ← List.map_append, ← List.map_append, List.map_map, List.map_map]
  rfl

/-! ## Excerpts

An excerpt is asked for with numbers from one. A place that is counted from one has these
numbers already, and one that is counted from zero is raised by one, so both lead to the
same rows and the same caret. -/

/-- Counted from one, a place is the same whatever the first line and column are called. -/
theorem placeFromOne?_fromOne (place : Location) (shown : List Char) :
    CommandLine.placeFromOne? .one (.unexpected place.fromOne shown) =
      CommandLine.placeFromOne? .zero (.unexpected place shown) := by
  simp [CommandLine.placeFromOne?, Fault.place?, Location.fromOne, Numbering.first]

/-- **Settings change how spans are written down and nothing else.** Counted from one in place of
zero, every line and column is one more, of the tokens and of a fault, and the excerpt printed with
the fault is the same. Under another property the spans are kept under that name, which is the one
reported; with another label they have that label, and what is said of the run is the same; and
announcements make no difference at all. -/
theorem tokenise_settings (settings : Settings) (source : List Char) :
    (∀ found, (tokenise (settings.withNumbering .zero) source).value = .ok found →
        (tokenise (settings.withNumbering .one) source).value =
          .ok (found.mapSpans Span.fromOne)) ∧
      (∀ fault, (tokenise (settings.withNumbering .zero) source).value = .error fault →
        ∃ place shown excerpt,
          fault = .unexpected place shown ∧
            (tokenise (settings.withNumbering .one) source).value =
              .error (.unexpected place.fromOne shown) ∧
            CommandLine.faultExcerpt? .zero source fault = some excerpt ∧
            CommandLine.explain .zero source fault =
              "error: " ++ fault.message ++ "\n" ++ String.ofList excerpt ∧
            CommandLine.explain .one source (.unexpected place.fromOne shown) =
              "error: " ++ (Fault.unexpected place.fromOne shown).message ++ "\n" ++
                String.ofList excerpt) ∧
      (∀ property, (tokenise (settings.withProperty property) source).value =
          (tokenise settings source).value.map (TokenList.rename property) ∧
        (tokenise (settings.withProperty property) source).effects =
          (tokenise settings source).effects.map (Effect.about property)) ∧
      (∀ label, (tokenise (settings.withSource label) source).value =
          (tokenise settings source).value.map (TokenList.mapSpans (Span.withSource label)) ∧
        (tokenise (settings.withSource label) source).effects =
          (tokenise settings source).effects) ∧
      ∀ announces, tokenise (settings.withAnnounces announces) source =
        tokenise settings source := by
  refine ⟨?_, ?_, ?_, ?_, ?_⟩
  · intro found hfound
    obtain ⟨haccepted, rfl⟩ := of_tokenise_eq_ok hfound
    rw [tokenise_of_accepted haccepted, marked_fromOne]
    rfl
  · intro fault hfault
    obtain ⟨before, c, rest, rfl, hbefore, hc, hplace⟩ := of_tokenise_eq_error hfault
    replace hplace : fault = .unexpected (.after 0 before) (snippet (c :: rest)) := hplace
    subst hplace
    have hnewline : c ≠ '\n' := by
      rintro rfl
      cases hc
    obtain ⟨excerpt, -, -, -, hexcerpt, -⟩ := Excerpt.exists_pointsAt before rest hnewline
    -- a place counted from zero is below the lines and columns of an excerpt by one
    have hzero : CommandLine.faultExcerpt? .zero (before ++ c :: rest)
        (.unexpected (.after 0 before) (snippet (c :: rest))) = some excerpt := by
      rw [← hexcerpt]
      simp [CommandLine.faultExcerpt?, CommandLine.placeFromOne?, Fault.place?, Location.after,
        Numbering.first]
    have hone : CommandLine.faultExcerpt? .one (before ++ c :: rest)
        (.unexpected (Location.after 0 before).fromOne (snippet (c :: rest))) = some excerpt := by
      rw [CommandLine.faultExcerpt?, placeFromOne?_fromOne]
      exact hzero
    refine ⟨.after 0 before, _, excerpt, rfl, ?_, hzero, ?_, ?_⟩
    · rw [tokenise_of_not_accepted rfl hbefore hc, ← Location.after_fromOne]
      rfl
    · rw [CommandLine.explain, hzero, Option.getD_some]
    · rw [CommandLine.explain, hone, Option.getD_some]
  · intro property
    refine ⟨?_, effects_withProperty settings source property⟩
    refine tokenise_value_of_marked source rfl ?_
    exact congrArg (TokenList.mk property) (Token.layOut_rename ..)
  · intro label
    refine ⟨?_, effects_withSource settings source label⟩
    refine tokenise_value_of_marked source rfl ?_
    exact congrArg (TokenList.mk _) (marked_withSource settings source label)
  · intro announces
    have hvalue : (tokenise (settings.withAnnounces announces) source).value =
        (tokenise settings source).value.map id := tokenise_value_of_marked source rfl rfl
    rw [Except.map_id] at hvalue
    refine Action.ext hvalue ?_
    rw [tokenise_effects, tokenise_effects, hvalue]
    rfl

end Standard

end TokenSpans
