import TokenSpans.CommandLine.Listing
import TokenSpans.Proofs.Delimiting
import TokenSpans.Proofs.Standard.Acceptance

/-!
# Rows that can be read back

A label stands in a span as it is, whatever characters it has, with no more than a colon behind it.
So a span is read from its end: its four numbers are the digits behind the last four marks, and what
is left in front is the label (`Span.agree_of_display`). A row is read from its beginning: no kind
has a space, the value is quoted and so tells where it ends, and two numbers with marks behind them
lead up to the span (`CommandLine.row_inj`). Nothing about a token is lost
(`CommandLine.rows_lossless`).

A row is no fixed-width record. A kind or a value that is too long for its column pushes
everything behind it to the right, and two rows of different tokens may have their brackets
in different places. What makes a row readable is that each field ends in a way that can be
seen: a kind at the first space, a quoted value at its closing quote, a number at the first
character that is no digit. Each step below takes one field off two equal rows, and what is
left are two equal rests.
-/

namespace TokenSpans

/-! ## Spans

A span is taken apart from the end, where nothing but digits and marks can stand. The label
is last, and with it comes the one question that is left: whether there is none or an empty
one. The colon answers it. -/

namespace Span

/-- The spans have the same label, lines and columns. Nothing is said of their offsets. -/
structure Agree (s s' : Span) : Prop where
  /-- both have the label, or neither has one -/
  source : s.source = s'.source
  startLine : s.start.line = s'.start.line
  startColumn : s.start.column = s'.start.column
  stopLine : s.stop.line = s'.stop.line
  stopColumn : s.stop.column = s'.stop.column

/-- Spans that agree and have the same offsets are the same. -/
theorem Agree.eq {s s' : Span} (h : Agree s s') (hstart : s.start.offset = s'.start.offset)
    (hstop : s.stop.offset = s'.stop.offset) : s = s' := by
  obtain ⟨⟨start, startLine, startColumn⟩, ⟨stop, stopLine, stopColumn⟩, source⟩ := s
  obtain ⟨⟨start', startLine', startColumn'⟩, ⟨stop', stopLine', stopColumn'⟩, source'⟩ := s'
  obtain ⟨hsource, hstartLine, hstartColumn, hstopLine, hstopColumn⟩ := h
  simp only at hsource hstartLine hstartColumn hstopLine hstopColumn hstart hstop
  subst hsource hstartLine hstartColumn hstopLine hstopColumn hstart hstop
  rfl

/-- What stands in front of the numbers of a span. -/
def heading : Option String → List Char
  | none => []
  | some label => label.toList ++ [':']

/-- An empty label is told from none by its colon. -/
theorem heading_injective : Function.Injective heading := by
  have hne : ∀ label : String, heading (some label) ≠ [] :=
    fun label => List.append_ne_nil_of_right_ne_nil _ (List.cons_ne_nil _ _)
  intro source source' h
  cases source with
  | none =>
    cases source' with
    | none => rfl
    | some label' => exact absurd h.symm (hne label')
  | some label =>
    cases source' with
    | none => exact absurd h (hne label)
    | some label' => exact congrArg some (String.toList_inj.mp ((List.append_left_inj [':']).mp h))

/-- The heading ends in a colon, if it is there at all. -/
theorem isDigit_getLast?_heading (source : Option String) :
    ∀ d ∈ (heading source).getLast?, Text.isDigit d = false := by
  cases source with
  | none => exact nofun
  | some label => exact Text.forall_getLast?_concat (P := fun d => Text.isDigit d = false) rfl _

/-- The characters of a span that is shown, with the marks one by one. -/
theorem toList_display (s : Span) : s.display.toList =
    heading s.source ++ Text.decimal s.start.line ++ ':' :: Text.decimal s.start.column ++
      '-' :: Text.decimal s.stop.line ++ ':' :: Text.decimal s.stop.column := by
  obtain ⟨start, stop, source⟩ := s
  cases source <;> simp [display, heading, Location.display]

/-- **A span that is shown tells its label, lines and columns**, whatever the label looks like. -/
theorem agree_of_display {s s' : Span} (h : s.display = s'.display) : Agree s s' := by
  have hchars := congrArg String.toList h
  rw [toList_display, toList_display] at hchars
  -- from the right: each number begins behind its mark, and the first one behind the heading
  obtain ⟨hchars, hstopColumn⟩ := Text.append_cons_decimal_inj rfl hchars
  obtain ⟨hchars, hstopLine⟩ := Text.append_cons_decimal_inj rfl hchars
  obtain ⟨hchars, hstartColumn⟩ := Text.append_cons_decimal_inj rfl hchars
  obtain ⟨hheading, hstartLine⟩ := Text.append_decimal_inj (isDigit_getLast?_heading _)
    (isDigit_getLast?_heading _) hchars
  exact ⟨heading_injective hheading, hstartLine, hstartColumn, hstopLine, hstopColumn⟩

-- a label may look like a span; the numbers are those at the end
example : display ⟨⟨0, 1, 1⟩, ⟨1, 1, 2⟩, some "3:4-5:6"⟩ = "3:4-5:6:1:1-1:2" := by decide

end Span

/-! ## Kinds

A kind is padded with spaces and not quoted, so a kind with a space in it would not be told
from a shorter one. The five kinds of the standard rules have none; rules of one's own may. -/

namespace Standard

/-- The kinds of the standard rules are words. -/
theorem space_notMem_of_kindOf? {c : Char} {kind : String} (h : kindOf? c = some kind) :
    ' ' ∉ kind.toList := by
  cases begins_of_kindOf? h <;> decide

/-- Hence no kind of a token of a source has a space. -/
theorem space_notMem_kind {settings : Settings} {source : List Char} {t : Token}
    (ht : t ∈ marked settings source) : ' ' ∉ t.kind.toList := by
  have hpiece : t.piece ∈ (marked settings source).map Token.piece := List.mem_map_of_mem ht
  rw [marked, Token.map_piece_layOut_token] at hpiece
  obtain ⟨c, run, -, hkind, -⟩ := isWhole_of_mem_segments _ hpiece
  exact space_notMem_of_kindOf? hkind

end Standard

/-! ## Rows

The offsets are in the row but not in the span as it is shown, the other numbers are in the
span. Together they are the whole of it. -/

namespace CommandLine

variable {property property' : String} {t t' : Token} {span span' : Span}

/-- The row of a token with a span, field by field. -/
theorem row_of_get? (h : t.spans.get? property = some span) : row property t =
    Text.padEnd 8 t.kind.toList ++ ' ' :: (Text.quoteChars t.value.toList ++
      (List.replicate (16 - (Text.quoteChars t.value.toList).length) ' ' ++ ' ' :: '[' ::
        (Text.decimal span.start.offset ++ ',' :: ' ' ::
          (Text.decimal span.stop.offset ++ ']' :: ' ' :: span.display.toList)))) := by
  simp [row, h, Text.padEnd]

/-- **A row tells the kind, the value and the span of its token** if the kind is a word. -/
theorem row_inj (hspan : t.spans.get? property = some span)
    (hspan' : t'.spans.get? property' = some span') (hkind : ' ' ∉ t.kind.toList)
    (hkind' : ' ' ∉ t'.kind.toList) (h : row property t = row property' t') :
    t.kind = t'.kind ∧ t.value = t'.value ∧ span = span' := by
  rw [row_of_get? hspan, row_of_get? hspan'] at h
  -- the kind, up to the first space
  obtain ⟨hkinds, h⟩ := Text.padEnd_append_inj hkind hkind' h
  -- the value, up to its closing quote
  obtain ⟨hvalues, h⟩ := Text.selfDelimiting_quoteChars h
  -- the values are padded alike, as they are the same
  rw [hvalues] at h
  have hrange := (List.cons.inj (List.cons.inj (List.append_cancel_left h)).2).2
  -- the two offsets, up to their marks
  obtain ⟨hstart, h⟩ := Text.decimal_append_inj rfl hrange
  obtain ⟨hstop, h⟩ := Text.decimal_append_inj rfl (List.cons.inj h).2
  have hdisplay : span.display = span'.display := String.toList_inj.mp (List.cons.inj h).2
  exact ⟨String.toList_inj.mp hkinds, String.toList_inj.mp hvalues,
    (Span.agree_of_display hdisplay).eq hstart hstop⟩

/-- **Rows lose nothing.** Tokens of any two runs that have the same row have the same kind, value
and span. A span that is shown tells all but its offsets, and a quoted text tells the text. -/
theorem rows_lossless :
    (∀ (settings settings' : Settings) (source source' : List Char) (found found' : TokenList),
      (Standard.tokenise settings source).value = .ok found →
      (Standard.tokenise settings' source').value = .ok found' →
      ∀ t ∈ found.tokens, ∀ t' ∈ found'.tokens,
        row found.property t = row found'.property t' →
          t.kind = t'.kind ∧ t.value = t'.value ∧
            ∃ span, t.spans.entries = [(found.property, span)] ∧
              t'.spans.entries = [(found'.property, span)]) ∧
      (∀ s s' : Span, s.display = s'.display → s.Agree s') ∧
      Function.Injective Text.quoted := by
  refine ⟨?_, fun s s' => Span.agree_of_display, Text.quoted_injective⟩
  intro settings settings' source source' found found' hfound hfound' t ht t' ht' hrow
  obtain ⟨-, rfl⟩ := Standard.of_tokenise_eq_ok hfound
  obtain ⟨-, rfl⟩ := Standard.of_tokenise_eq_ok hfound'
  obtain ⟨span, hfits⟩ := Token.exists_fits_of_mem_layOut ht
  obtain ⟨span', hfits'⟩ := Token.exists_fits_of_mem_layOut ht'
  obtain ⟨hkind, hvalue, rfl⟩ := row_inj hfits.get? hfits'.get? (Standard.space_notMem_kind ht)
    (Standard.space_notMem_kind ht') hrow
  exact ⟨hkind, hvalue, span, hfits.entries, hfits'.entries⟩

end CommandLine

end TokenSpans
