import TokenSpans.Proofs.Partition
import TokenSpans.Proofs.Spans

/-!
# Texts behind other texts

What is read behind a complete line does not depend on that line but for two counts: the offset goes
on from its characters and the line number from its newlines (`Location.after_append_newline`). The
column has started again. So the tokens of a text that stands behind other lines are those that the
text has by itself, with every span shifted (`Token.layOut_shift`).

The same argument serves for other changes of place, such as another first line or another
label, and so it is made for any change with which reading commutes (`Token.layOut_map`);
the shift is one case of it. The induction is over the pieces, and the hypothesis that
reading commutes is what lets the place of the next piece be a changed place again.
-/

namespace TokenSpans

namespace Location

variable {first : Nat}

/-- Reading leads on from a shifted place as it does from the place itself. -/
theorem advance_shift (l : Location) (offset lines : Nat) (text : List Char) :
    (l.shift offset lines).advance first text = (l.advance first text).shift offset lines := by
  simp only [advance, shift, mk.injEq, and_true]
  omega

/-- Behind a complete line only the offset and the line number go on. -/
theorem after_append_newline (s t : List Char) :
    after first (s ++ '\n' :: t) = (after first t).shift (s.length + 1) (s.count '\n' + 1) := by
  have hlast : Text.lastLine (s ++ '\n' :: t) = Text.lastLine t := by
    by_cases h : '\n' ∈ t
    · rw [List.append_cons, Text.lastLine_append, if_pos h]
    · rw [Text.lastLine_append_newline h, Text.lastLine_of_not_mem h]
  have hoffset : (s ++ '\n' :: t).length = t.length + (s.length + 1) := by
    rw [List.length_append, List.length_cons]
    omega
  have hline : (s ++ '\n' :: t).count '\n' = t.count '\n' + (s.count '\n' + 1) := by
    rw [List.count_append, List.count_cons_self]
    omega
  simp only [after, shift, hlast, hoffset, hline, Nat.add_assoc]

end Location

/-! ## Changing the spans of tokens

A token carries its span under several names at once. Changing all spans of a token and
attaching commute, whatever the names are, so that a change may be made once at the end
instead of at every attaching. -/

namespace Token

/-- The token with every span changed in the same way. -/
def mapSpans (f : Span → Span) (t : Token) : Token :=
  { t with spans := t.spans.mapValues f }

/-- A token without spans has none to change. -/
theorem mapSpans_token (f : Span → Span) (p : Piece) : p.token.mapSpans f = p.token := rfl

/-- A token marked under several names and then changed is the changed token, marked with a
changed span. -/
theorem mapSpans_mark (f : Span → Span) (names : List String) (span : Span) (t : Token) :
    (t.mark names span).mapSpans f = (t.mapSpans f).mark names (f span) := by
  induction names generalizing t with
  | nil => rfl
  | cons name rest ih =>
    have hattach : (HoldsSpans.attach t name span).mapSpans f =
        HoldsSpans.attach (t.mapSpans f) name (f span) := by
      simp only [mapSpans, HoldsSpans.attach, Spans.mapValues_insert]
    -- attaching is the step of the fold, and the change passes through it
    rw [mark, List.foldl_cons, mark, List.foldl_cons, ← hattach]
    exact ih _

variable {names : List String} {first : Nat} {source : Option String}

/-- Tokens laid out one list behind the other. -/
theorem layOut_append (here : Location) (tokens more : List Token) :
    layOut names first source here (tokens ++ more) =
      layOut names first source here tokens ++
        layOut names first source
          (here.advance first (tokens.flatMap fun t => t.value.toList)) more := by
  induction tokens generalizing here with
  | nil => rfl
  | cons t rest ih =>
    rw [List.cons_append, layOut, layOut, ih, List.flatMap_cons, Location.advance_append,
      List.cons_append]

/-- **Tokens laid out from a place that was changed** are those laid out from the place itself, with
their spans changed, as long as reading leads on from a changed place as it does from the place
itself. `first'` and `source'` may differ from `first` and `source` in what the change accounts
for. -/
theorem layOut_map {first' : Nat} {source' : Option String} {f : Location → Location}
    {g : Span → Span}
    (hadvance : ∀ l text, (f l).advance first' text = f (l.advance first text))
    (hspan : ∀ start stop, g ⟨start, stop, source⟩ = ⟨f start, f stop, source'⟩)
    (here : Location) (pieces : List Piece) :
    layOut names first' source' (f here) (pieces.map Piece.token) =
      (layOut names first source here (pieces.map Piece.token)).map (mapSpans g) := by
  induction pieces generalizing here with
  | nil => rfl
  | cons p rest ih =>
    rw [List.map_cons, layOut, layOut, List.map_cons, hadvance, ih, mapSpans_mark, mapSpans_token,
      hspan]

/-- Tokens laid out from a shifted place are those laid out from the place itself, shifted. -/
theorem layOut_shift {offset lines : Nat} (here : Location) (pieces : List Piece) :
    layOut names first source (here.shift offset lines) (pieces.map Piece.token) =
      (layOut names first source here (pieces.map Piece.token)).map (shift offset lines) :=
  layOut_map (fun l text => l.advance_shift offset lines text) (fun _ _ => rfl) here pieces

end Token

end TokenSpans
