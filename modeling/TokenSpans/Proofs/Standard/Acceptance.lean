import TokenSpans.Proofs.Standard.Slices
import TokenSpans.Standard.Tokenise

/-!
# Sources that are accepted

The standard rules accept a source if and only if they accept each of its characters. What a run
comes to in the one case and in the other is `Standard.tokenise_value`: the segments of the source
laid out from its beginning, or a fault at the first character that is not accepted. No other fault
can arise (`tokenise_accepts`).

Nothing about tokenising is left to find out here. The rules scan a text into its segments
and stop at the first character that is not accepted, a tracked run lays the pieces out, and
what is concluded from it depends on whether text is left. The two outcomes are therefore
equations (`tokenise_of_accepted`, `tokenise_of_not_accepted`), and a source is always in
one of the two cases. Their inversions are what the other modules use.
-/

namespace TokenSpans

namespace Standard

variable (settings : Settings) (source : List Char)

/-! ## What a run comes to

`stopped` and `marked` are the two results of the run: the host that is left and the tokens.
Both are given outright in terms of the source, so that no statement further on mentions a
run. -/

/-- Where the host of a run stands when it stops: behind the text up to the first character that is
not accepted. -/
def stopped : Host :=
  .tracked (.lexer (((Cursor.ofText settings.cursor source).lexer rules).moved
    (source.takeWhile isAccepted) (source.dropWhile isAccepted))) settings.span.property

/-- The tokens of a source with their spans. -/
def marked : List Token :=
  Token.layOut [settings.span.property] settings.cursor.numbering.first settings.cursor.source
    (.origin settings.cursor.numbering.first) ((segments source).map Piece.token)

/-- The host is left at the place behind all that was accepted. -/
theorem stopped_location : (stopped settings source).view.location =
    .after settings.cursor.numbering.first (source.takeWhile isAccepted) :=
  Location.advance_origin ..

/-- The tracked run of the standard lexer stops where it has taken all that is accepted. -/
theorem tracked_run_value :
    (Host.tracked (.lexer ((Cursor.ofText settings.cursor source).lexer rules))
      settings.span.property).tokenise.value =
      .ok (stopped settings source, marked settings source) := by
  rw [Cursor.tracked_lexer_tokenise, Cursor.ahead_ofText, scan_rules, texts_segments]
  rfl

/-- Tokenising concludes from where that run stops. -/
theorem tokenise_value :
    (tokenise settings source).value =
      (conclude settings.span.property (stopped settings source).view
        (marked settings source)).value := by
  have hreport : ∀ r, ((Traced.report r : Traced Unit) : Action Unit).value = .ok () :=
    fun _ => rfl
  have hlexer : ((lexer settings.cursor source : Traced Lexer) : Action Lexer).value =
      .ok ((Cursor.ofText settings.cursor source).lexer rules) :=
    congrArg Except.ok (lexer_value ..)
  have htrack : ((Host.lexer ((Cursor.ofText settings.cursor source).lexer rules)).track
      settings.span.property).value = .ok (.tracked (.lexer _) settings.span.property) := rfl
  rw [tokenise, Action.bind_of_ok (hreport _), Action.bind_of_ok (hreport _),
    Action.bind_of_ok hlexer, Action.bind_of_ok htrack,
    Action.bind_of_ok (tracked_run_value settings source)]

variable {settings source}

/-- A source of accepted characters comes to its tokens. -/
theorem tokenise_of_accepted (h : ∀ c ∈ source, isAccepted c = true) :
    (tokenise settings source).value =
      .ok ⟨settings.span.property, marked settings source⟩ := by
  -- with nothing ahead there is nothing to complain about
  have hahead : (stopped settings source).view.ahead = [] :=
    List.dropWhile_eq_nil_iff.mpr h
  rw [tokenise_value, conclude, hahead]
  rfl

/-- Any other source comes to a fault at the first character that is not accepted. -/
theorem tokenise_of_not_accepted {before rest : List Char} {c : Char}
    (hsource : source = before ++ c :: rest) (hbefore : ∀ b ∈ before, isAccepted b = true)
    (hc : isAccepted c = false) :
    (tokenise settings source).value =
      .error (.unexpected (.after settings.cursor.numbering.first before)
        (snippet (c :: rest))) := by
  obtain ⟨htake, hdrop⟩ :=
    Text.takeWhile_append_of_head? hbefore (Text.forall_head?_cons hc rest)
  have hahead : (stopped settings source).view.ahead = c :: rest := by
    rw [hsource]
    exact hdrop
  have hplace : (stopped settings source).view.location =
      .after settings.cursor.numbering.first before := by
    rw [stopped_location, hsource, htake]
  rw [tokenise_value, conclude, hahead, hplace]
  rfl

/-- A source with a character that is not accepted has a first one. -/
theorem exists_first_not_accepted (h : ¬ ∀ c ∈ source, isAccepted c = true) :
    ∃ before c rest, source = before ++ c :: rest ∧ (∀ b ∈ before, isAccepted b = true) ∧
      isAccepted c = false := by
  rcases hdrop : source.dropWhile isAccepted with _ | ⟨c, rest⟩
  · exact absurd (List.dropWhile_eq_nil_iff.mp hdrop) h
  · refine ⟨source.takeWhile isAccepted, c, rest, ?_, ?_, ?_⟩
    · rw [← hdrop, List.takeWhile_append_dropWhile]
    · exact fun b hb => List.mem_takeWhile_imp hb
    · have hhead := List.head?_dropWhile_not isAccepted source
      rw [hdrop] at hhead
      exact hhead

/-- Inversion for a run that comes to tokens. -/
theorem of_tokenise_eq_ok {found : TokenList} (h : (tokenise settings source).value = .ok found) :
    (∀ c ∈ source, isAccepted c = true) ∧
      found = ⟨settings.span.property, marked settings source⟩ := by
  by_cases haccepted : ∀ c ∈ source, isAccepted c = true
  · rw [tokenise_of_accepted haccepted] at h
    exact ⟨haccepted, (Except.ok.inj h).symm⟩
  · obtain ⟨before, c, rest, hsource, hbefore, hc⟩ := exists_first_not_accepted haccepted
    rw [tokenise_of_not_accepted hsource hbefore hc] at h
    cases h

/-- Inversion for a run that comes to a fault. -/
theorem of_tokenise_eq_error {fault : Fault}
    (h : (tokenise settings source).value = .error fault) :
    ∃ before c rest, source = before ++ c :: rest ∧ (∀ b ∈ before, isAccepted b = true) ∧
      isAccepted c = false ∧
      fault = .unexpected (.after settings.cursor.numbering.first before)
        (snippet (c :: rest)) := by
  by_cases haccepted : ∀ c ∈ source, isAccepted c = true
  · rw [tokenise_of_accepted haccepted] at h
    cases h
  · obtain ⟨before, c, rest, hsource, hbefore, hc⟩ := exists_first_not_accepted haccepted
    rw [tokenise_of_not_accepted hsource hbefore hc] at h
    exact ⟨before, c, rest, hsource, hbefore, hc, (Except.error.inj h).symm⟩

/-! ## The two outcomes

What a user can rely on is said by two structures, one for each outcome, in words that do
not depend on the lexer: the tokens make up the source, and the fault names the first
character that is in the way. Both follow from the equations. -/

/-- What holds of the tokens of a source: their values in a row are the source, and each carries one
span, under the name of the settings and with their label. -/
structure Covers (settings : Settings) (source : List Char) (found : TokenList) : Prop where
  /-- nothing of the source is lost -/
  values : found.tokens.flatMap (fun t => t.value.toList) = source
  /-- the name is that of the settings -/
  property_eq : found.property = settings.span.property
  /-- every token has one span -/
  entries : ∀ t ∈ found.tokens, ∃ span,
    t.spans.entries = [(settings.span.property, span)] ∧ span.source = settings.cursor.source

/-- What holds of the fault of a source: it points at the first character that is not accepted, and
shows the source from there on. -/
structure PointsAtFirst (settings : Settings) (source : List Char) (place : Location)
    (shown : List Char) : Prop where
  /-- there is such a character, and its place follows from the text before it -/
  first : ∃ before c rest, source = before ++ c :: rest ∧ (∀ b ∈ before, isAccepted b = true) ∧
    isAccepted c = false ∧
    Location.MovedBy settings.cursor.numbering.first before
      (.origin settings.cursor.numbering.first) place
  /-- sixteen characters are shown, or as many as there are -/
  shown_eq : shown = (source.drop place.offset).take 16
  /-- at least one character is shown -/
  shown_ne : shown ≠ []

/-- The tokens of an accepted source cover it. -/
theorem covers_marked (h : ∀ c ∈ source, isAccepted c = true) :
    Covers settings source ⟨settings.span.property, marked settings source⟩ where
  values := by
    rw [marked, Token.flatMap_value, Token.map_piece_layOut_token, texts_segments,
      List.takeWhile_eq_self_iff.mpr h]
  property_eq := rfl
  entries t ht := by
    obtain ⟨span, hfits⟩ := Token.exists_fits_of_mem_layOut ht
    exact ⟨span, hfits.entries, hfits.source_eq⟩

/-- The fault at the first character that is not accepted points at it. -/
theorem pointsAtFirst {before rest : List Char} {c : Char}
    (hsource : source = before ++ c :: rest) (hbefore : ∀ b ∈ before, isAccepted b = true)
    (hc : isAccepted c = false) :
    PointsAtFirst settings source (.after settings.cursor.numbering.first before)
      (snippet (c :: rest)) where
  first := by
    refine ⟨before, c, rest, hsource, hbefore, hc, ?_⟩
    rw [← Location.advance_origin]
    exact Location.movedBy_advance ..
  shown_eq := by
    have hoffset : (Location.after settings.cursor.numbering.first before).offset =
        before.length := rfl
    rw [hoffset, hsource, List.drop_left, snippet, snippetLength]
  shown_ne hnil := by
    rw [snippet, snippetLength, List.take_succ_cons] at hnil
    cases hnil

/-- **A source is accepted if and only if each of its characters is.** Then its tokens cover it;
otherwise the fault points at the first character that is not accepted, and no other fault
arises. -/
theorem tokenise_accepts (settings : Settings) (source : List Char) :
    ((∃ found, (tokenise settings source).value = .ok found) ↔
        ∀ c ∈ source, isAccepted c = true) ∧
      (∀ found, (tokenise settings source).value = .ok found → Covers settings source found) ∧
      ∀ fault, (tokenise settings source).value = .error fault →
        ∃ place shown, fault = .unexpected place shown ∧
          PointsAtFirst settings source place shown := by
  by_cases h : ∀ c ∈ source, isAccepted c = true
  · have hvalue : (tokenise settings source).value = _ := tokenise_of_accepted h
    refine ⟨⟨fun _ => h, fun _ => ⟨_, hvalue⟩⟩, ?_, ?_⟩
    · intro found hfound
      obtain rfl := Except.ok.inj (hvalue.symm.trans hfound)
      exact covers_marked h
    · intro fault hfault
      rw [hvalue] at hfault
      cases hfault
  · obtain ⟨before, c, rest, hsource, hbefore, hc⟩ := exists_first_not_accepted h
    have hvalue : (tokenise settings source).value = _ :=
      tokenise_of_not_accepted hsource hbefore hc
    refine ⟨⟨?_, fun hall => absurd hall h⟩, ?_, ?_⟩
    · rintro ⟨found, hfound⟩
      rw [hvalue] at hfound
      cases hfound
    · intro found hfound
      rw [hvalue] at hfound
      cases hfound
    · intro fault hfault
      obtain rfl := Except.error.inj (hvalue.symm.trans hfault)
      exact ⟨_, _, rfl, pointsAtFirst hsource hbefore hc⟩

end Standard

end TokenSpans
