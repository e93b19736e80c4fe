import TokenSpans.Proofs.Marking
import TokenSpans.Proofs.Order

/-!
# Hosts only move on

No operation of a host takes its cursor back: it reads some of the text ahead, or it leaves the
cursor where it is. `Cursor.Reaches` says so of two cursors, and `Advances` of work on anything that
has a cursor inside.

Tracking sets a marker and completes it later on the same host. Since the host has only moved on,
the span does not run backwards (`Advances.around`), and so no production of a host comes to a
fault, at any depth of tracking (`Host.advances_next`, `Host.advances_tokenise`).

`Advances` says two things at once of a production: that it comes to a value, and that the
cursor inside has moved on. They have to be proved together, because the second is what
makes the first true one tracking further out: completing a marker is a fault unless the
place is no earlier than where the marker was set.
-/

namespace TokenSpans

namespace Cursor

/-- Reading some more of a text, or nothing, leads from one cursor to the other. Which text
it is does not matter here, so the relation is a preorder. -/
def Reaches (c c' : Cursor) : Prop :=
  ∃ piece, Moves c piece c'

namespace Reaches

variable {c c' c'' : Cursor}

/-- A cursor reaches itself. -/
theorem refl (c : Cursor) : c.Reaches c :=
  ⟨[], Moves.of_same rfl rfl rfl rfl⟩

/-- What is reached from a cursor that is reached is reached. -/
theorem trans (h₁ : c.Reaches c') (h₂ : c'.Reaches c'') : c.Reaches c'' := by
  obtain ⟨piece, hmoves⟩ := h₁
  obtain ⟨piece', hmoves'⟩ := h₂
  exact ⟨piece ++ piece', hmoves.trans hmoves'⟩

/-- A cursor that is reached stands no earlier. -/
theorem noLater (h : c.Reaches c') : c.location.NoLater c'.location := by
  obtain ⟨piece, hmoves⟩ := h
  exact hmoves.noLater

end Reaches

/-- Every step leads on, a change of settings too. -/
theorem reaches_perform (c : Cursor) (step : Step) : c.Reaches (c.perform step).value.1 :=
  ⟨_, perform_moves c step⟩

/-- A reading leads on, or stays where it is at the end. -/
theorem reaches_read (c : Cursor) (bytes : Nat) : c.Reaches (c.read bytes).value.1 :=
  ⟨_, read_moves c bytes⟩

/-- So does cutting a chunk. -/
theorem reaches_chunk (c : Cursor) (bytes : Nat) : c.Reaches (c.chunk bytes).value.1 := by
  rw [chunk]
  split
  · exact .refl c
  · exact reaches_read c bytes

end Cursor

/-! ## Productions of a lexer

Each production either reads or leaves the lexer as it is, so it is enough to go through the
branches of its definition. For all tokens at once this is not done branch by branch but
from the text that was cut off (`Lexer.tokenise_value`). -/

namespace Lexer

/-- Taking what a rule asks for is a reading. -/
theorem reaches_take (l : Lexer) (r : Rule) (bytes : Nat) :
    l.cursor.Reaches (l.take r bytes).value.1.cursor :=
  l.cursor.reaches_read bytes

/-- The next token is taken, or nothing is done. -/
theorem reaches_next (l : Lexer) : l.cursor.Reaches l.next.value.1.cursor := by
  rw [next]
  split
  · exact .refl _
  · split
    · exact .refl _
    · rename_i r bytes _
      exact l.reaches_take r bytes

/-- The same goes for the token of a kind. -/
theorem reaches_tryKind (l : Lexer) (kind : String) :
    l.cursor.Reaches (l.tryKind kind).value.1.cursor := by
  rw [tryKind]
  split
  · exact .refl _
  · rename_i r _
    split
    · exact .refl _
    · rename_i bytes _
      exact l.reaches_take r bytes

/-- All tokens together are a beginning of the text ahead. -/
theorem reaches_tokenise (l : Lexer) : l.cursor.Reaches l.tokenise.value.1.cursor := by
  rw [tokenise_value]
  exact ⟨_, Cursor.moves_moved (Rule.scan_append l.rules l.cursor.ahead).symm⟩

end Lexer

/-! ## Work on a host

By induction on the host: a lexer and a chunker advance on their own, and a tracking
surrounds what advances already by a marker (`Advances.around`). The induction needs no
bound on how deep the trackings are, and the names do not matter. -/

/-- Work on something with a cursor inside comes to a value, and leads the cursor on. -/
def Advances {σ α : Type} (cursor : σ → Cursor) (host : σ) (work : Action (σ × α)) : Prop :=
  ∃ next a, work.value = .ok (next, a) ∧ (cursor host).Reaches (cursor next)

namespace Advances

variable {σ α : Type} {cursor : σ → Cursor} {host : σ} {work : Action (σ × α)}

/-- Work that advances does not end in a fault. -/
theorem ne_error (h : Advances cursor host work) (fault : Fault) : work.value ≠ .error fault := by
  obtain ⟨next, a, hvalue, -⟩ := h
  intro hfault
  cases hvalue.symm.trans hfault

/-- Wherever work that advances has come to, the cursor there is reached. -/
theorem reaches (h : Advances cursor host work) {next : σ} {a : α}
    (hvalue : work.value = .ok (next, a)) : (cursor host).Reaches (cursor next) := by
  obtain ⟨next', a', hvalue', hreaches⟩ := h
  cases hvalue'.symm.trans hvalue
  exact hreaches

/-- A production that leads its host on may be marked, since the marker is completed no earlier than
it was set. -/
theorem around {ι : Type} [HoldsSpans ι] {production : Action (σ × Option ι)}
    (h : Advances cursor host production) {view : σ → View}
    (hview : ∀ x, (view x).location = (cursor x).location) (name : String) :
    Advances cursor host (Marker.around name view host production) := by
  obtain ⟨next, yielded, hvalue, hreaches⟩ := h
  have hoffset : (view host).location.offset ≤ (view next).location.offset := by
    rw [hview, hview]
    exact hreaches.noLater.offset
  -- the marker is completed no earlier than it was set, which is all that `around` can fail
  -- at
  exact ⟨next, _, Marker.around_value hvalue hoffset, hreaches⟩

end Advances

namespace Host

/-- A host is seen where its cursor stands. -/
theorem view_location (h : Host) : h.view.location = h.cursor.location := by
  induction h with
  | lexer l => rfl
  | chunker c => rfl
  | tracked inner name ih => exact ih

/-- **A host yields its next token without a fault** and has only moved on, whatever it is and under
however many names it is tracked. -/
theorem advances_next (h : Host) : Advances cursor h h.next := by
  induction h with
  | lexer l => exact ⟨.lexer l.next.value.1, l.next.value.2, rfl, l.reaches_next⟩
  | chunker c =>
    exact ⟨.chunker { c with cursor := (c.cursor.chunk c.size).value.1 },
      (c.cursor.chunk c.size).value.2, rfl, c.cursor.reaches_chunk c.size⟩
  | tracked inner name ih =>
    obtain ⟨next, yielded, hvalue, hreaches⟩ := ih.around view_location name
    refine ⟨tracked next name, yielded, ?_, hreaches⟩
    rw [Host.next, Action.bind_of_ok hvalue]
    rfl

/-- The token of a kind is yielded without a fault as well, if there is one. -/
theorem advances_tryKind (h : Host) (kind : String) : Advances cursor h (h.tryKind kind) := by
  induction h with
  | lexer l =>
    exact ⟨.lexer (l.tryKind kind).value.1, (l.tryKind kind).value.2, rfl, l.reaches_tryKind kind⟩
  | chunker c => exact ⟨.chunker c, none, rfl, .refl _⟩
  | tracked inner name ih =>
    obtain ⟨next, yielded, hvalue, hreaches⟩ := ih.around view_location name
    refine ⟨tracked next name, yielded, ?_, hreaches⟩
    rw [tryKind, Action.bind_of_ok hvalue]
    rfl

/-- A host yields all its tokens without a fault and has only moved on. -/
theorem advances_tokenise (h : Host) : Advances cursor h h.tokenise := by
  fun_induction tokenise h with
  | case1 h _ => exact ⟨h, [], rfl, .refl _⟩
  | case2 h _ step fault hstep => exact absurd hstep (h.advances_next.ne_error fault)
  | case3 h _ step next hstep => exact ⟨next, [], rfl, h.advances_next.reaches hstep⟩
  | case4 h _ step next token hstep _ rest ih =>
    -- the first token leads on, and the rest of the run from there
    obtain ⟨last, tokens, hrest, hreaches⟩ := ih
    refine ⟨last, token :: tokens, ?_, (h.advances_next.reaches hstep).trans hreaches⟩
    rw [hrest]
    rfl
  | case5 h _ step next token hstep _ => exact ⟨next, [token], rfl, h.advances_next.reaches hstep⟩

end Host

end TokenSpans
