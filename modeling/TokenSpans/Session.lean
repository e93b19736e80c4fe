import TokenSpans.Host
import TokenSpans.Standard.Rules

/-!
# Sessions

A session works on one host step by step and keeps what the steps make: markers that are set, and
items that spans are attached to. Every call is answered by a reply, also one that cannot be done,
and that one leaves the session as it was. There are two exceptions: a host that is refused is gone,
and so is an item that was handed over to be closed by a marker when that fails.

The calls are everything that can be done with a host from outside, and they may come in any
order, also in one that makes no sense. That is what makes a session more than the sum of
its parts: a marker may be completed on another host than it was set on, an item may be
marked twice, and the lexer inside may be used past the trackings around it. Statements
about sessions are therefore about every list of calls.

`step` is total. What cannot be done is answered by `refused` with a reason, and the
definitions of the groups of calls (`onLexer`, `onHost`, `production`, `adjust`) say once
for each group what happens to the state. Markers and items are kept in lists and named by
their place, and are never removed: the place of an item that is gone stays empty, so that
no later item moves into it.
-/

namespace TokenSpans.Session

/-- What a session works on: a cursor alone, or a host. -/
inductive Subject
  | cursor (c : Cursor)
  | host (h : Host)

namespace Subject

/-- What can be seen of the subject. -/
def view : Subject → View
  | cursor c => c.view
  | host h => h.view

/-- The cursor inside, however deep. -/
def inner : Subject → Cursor
  | cursor c => c
  | host h => h.cursor

/-- The subject with another cursor inside. -/
def withInner (c : Cursor) : Subject → Subject
  | cursor _ => cursor c
  | host h => host (h.withCursor c)

/-- The lexer inside, if there is one. -/
def lexer? : Subject → Option Lexer
  | cursor _ => none
  | host h => h.lexer?

/-- The subject with another lexer inside; one without a lexer is left as it is. -/
def withLexer (l : Lexer) : Subject → Subject
  | cursor c => cursor c
  | host h => host (h.withLexer l)

/-- The host inside the outermost tracking, with the name of that tracking. -/
def tracked? : Subject → Option (Host × String)
  | host (.tracked inner name) => some (inner, name)
  | _ => none

end Subject

/-- Something that carries spans: a token, or spans alone. -/
inductive Item
  | token (t : Token)
  | spans (s : Spans)
  deriving DecidableEq, Repr

instance : HoldsSpans Item where
  spans
    | .token t => t.spans
    | .spans s => s
  attach
    | .token t, name, span => .token (HoldsSpans.attach t name span)
    | .spans s, name, span => .spans (s.insert name span)
  spans_attach item name span := by cases item <;> rfl

/-- How a session starts, or starts anew. -/
inductive Setup
  /-- A cursor alone. -/
  | cursor
  /-- A lexer with these rules and no others. -/
  | lexer (rules : List Rule)
  /-- The standard lexer with further rules. -/
  | standard (rules : List Rule)
  /-- A host that cuts pieces of one size, and may declare no role. -/
  | chunker (role : Option Role) (size : Nat)

/-- The subject over a text, before its first character. Making a lexer is heard of. -/
def Setup.subject (setup : Setup) (settings : CursorSettings) (text : List Char) :
    Traced Subject :=
  match setup with
  | cursor => return .cursor (.ofText settings text)
  | lexer rules => do
    let l ← Lexer.ofCursor (.ofText settings text)
    return .host (.lexer (← l.addRules rules))
  | standard rules => do
    let l ← Standard.lexer settings text
    return .host (.lexer (← l.addRules rules))
  | chunker role size => return .host (.chunker ⟨.ofText settings text, role, size⟩)

/-- The name for a marker: the default, a given one, or that of the outermost tracking. -/
inductive MarkName
  /-- The name that is used if none is given. -/
  | default
  /-- A given name, asked of the subject itself. -/
  | given (name : String)
  /-- The name of the tracking; only a tracked host has one. -/
  | ofTracking
  /-- A given name, asked of the tracking. -/
  | throughTracking (name : String)

/-- Whether a production goes through all trackings or straight to the lexer inside. -/
inductive Route
  /-- Through all trackings, each of which marks the tokens. -/
  | marked
  /-- Straight to the lexer, so that no token is marked. -/
  | direct
  deriving DecidableEq

/-- One call. -/
inductive Call
  /-- Starts anew over a text; markers and items stay. -/
  | restart (setup : Setup) (settings : CursorSettings) (text : List Char)
  /-- Makes a lexer of a cursor alone. -/
  | intoLexer
  /-- Puts one more tracking around the host. -/
  | track (name : String)
  | next (route : Route)
  | tryKind (route : Route) (kind : String)
  | tokenise (route : Route)
  | addRule (rule : Rule)
  | kinds
  | dumpLexer
  | read (bytes : Nat)
  | readText
  | ahead
  | isDone
  | settings
  | dumpCursor
  | setSource (source : Option String)
  | setAnnounces (on : Bool)
  | setObserver (observer : Option Observer)
  | setRole (role : Option Role)
  /-- Looks at what can be seen of the subject. -/
  | look
  | mark (name : MarkName)
  /-- The span from a marker to here, attached to nothing. -/
  | spanTo (marker : Nat)
  /-- Completes a marker on an item, which stays among the items if that fails. -/
  | attach (marker item : Nat)
  /-- Completes a marker on an item that is handed over, and is gone if that fails. -/
  | close (marker item : Nat)
  /-- Puts a further item among the items. -/
  | keep (item : Item)
  | item (index : Nat)
  /-- The span of an item under a name. -/
  | get (index : Nat) (name : String)
  /-- Cuts pieces of the given sizes, decorated under each of the names. -/
  | wrapped (names : List String) (sizes : List Nat)

/-- Why a call cannot be done. -/
inductive Refusal
  /-- The host was refused and is no longer there. -/
  | gone
  /-- The subject has no such call. -/
  | unsupported
  | noMarker
  /-- There is no such item, or it is gone. -/
  | noItem
  /-- The work itself ended in a fault. -/
  | fault (f : Fault)
  deriving DecidableEq, Repr

/-- What a call yields. -/
inductive Reply
  | done
  | refused (r : Refusal)
  | tracked (name : String)
  | token (t : Option Token)
  | tokens (ts : List Token)
  | produced (ts : List (Option Token))
  | texts (ts : List String)
  | lexerDump (text : String) (isDone : Bool)
  | text (t : String)
  | flag (b : Bool)
  | settings (s : CursorSettings)
  /-- What is seen, and the name and place of the outermost tracking. -/
  | seen (view : View) (tracking : Option (String × Location))
  | marked (index : Nat) (marker : Marker)
  | span (s : Option Span)
  | attached (span : Span) (item : Item)
  | item (i : Item)
  | index (n : Nat)

/-- The host, the markers and the items of a session; `none` where one is gone. -/
structure State where
  subject : Option Subject
  /-- The markers in the order in which they were set. -/
  markers : List Marker
  items : List (Option Item)

namespace State

/-- A session with nothing made yet. -/
def ofSubject (subject : Subject) : State :=
  ⟨some subject, [], []⟩

/-- The session with further items at the end. -/
def keep (s : State) (items : List Item) : State :=
  { s with items := s.items ++ items.map some }

/-- The session with tokens among its items. -/
def keepTokens (s : State) (tokens : List Token) : State :=
  s.keep (tokens.map Item.token)

/-- The session with another subject. -/
def on (s : State) (subject : Subject) : State :=
  { s with subject := some subject }

end State

/-- A refusal that leaves the session as it is. -/
def refuse (s : State) (r : Refusal) : Traced (State × Reply) :=
  pure (s, .refused r)

/-- Runs a production and keeps what it yields; on a fault the session stays as it was, but
what was heard up to the fault is heard. -/
def production {α : Type} (s : State) (work : Action α)
    (after : α → State × Reply) : Traced (State × Reply) := do
  match ← work.outcome with
  | .ok a => return after a
  | .error f => return (s, .refused (.fault f))

/-- Changes the cursor inside, however deep. Nothing is heard, and the reply does not depend
on the subject. -/
def adjust (s : State) (subject : Subject) (f : Cursor → Cursor) : Traced (State × Reply) :=
  pure (s.on (subject.withInner (f subject.inner)), .done)

/-- The nested decorations of chunk production under names, the first one innermost. Each is
a `Marker.wrap` around the one before it. -/
def chunkUnder (names : List String) : Cursor → Nat → Action (Cursor × Option Token) :=
  names.foldl (fun produce name => Marker.wrap name Cursor.view produce)
    (fun c size => c.chunk size)

/-- Calls a production function with each size in turn. -/
def chunksUnder (names : List String) :
    Cursor → List Nat → Action (Cursor × List (Option Token))
  | c, [] => return (c, [])
  | c, size :: rest => do
    let (c, token) ← chunkUnder names c size
    let (c, tokens) ← chunksUnder names c rest
    return (c, token :: tokens)

/-- A production on the lexer inside, past all trackings. The trackings stay around the
lexer that it leaves, and the tokens are kept without their spans. -/
def onLexer {α : Type} (s : State) (subject : Subject)
    (work : Lexer → Traced (Lexer × α)) (yielded : α → List Token) (reply : α → Reply) :
    Traced (State × Reply) :=
  match subject.lexer? with
  | none => refuse s .unsupported
  | some l => do
    let (l, a) ← work l
    return ((s.on (subject.withLexer l)).keepTokens (yielded a), reply a)

/-- A production through the outermost host, with every tracking taking part. A cursor alone
has none of these calls. -/
def onHost {α : Type} (s : State) (subject : Subject)
    (work : Host → Action (Host × α)) (yielded : α → List Token) (reply : α → Reply) :
    Traced (State × Reply) :=
  match subject with
  | .cursor _ => refuse s .unsupported
  | .host h =>
    production s (work h) fun (h, a) => ((s.on (.host h)).keepTokens (yielded a), reply a)

/-- Whether another tracking may surround the host: two at most, and one on a chunker. This
is a limit of sessions; hosts may be tracked to any depth. -/
def mayTrack : Host → Bool
  | .lexer _ | .chunker _ => true
  | .tracked (.lexer _) _ => true
  | .tracked _ _ => false

/-- Whether the host has a call of its own for all tokens. -/
def mayTokenise : Host → Bool
  | .chunker _ => false
  | _ => true

/-- Sets a marker on the subject and keeps it. The view is given, since a marker may also be
set on the host inside a tracking. -/
def setMarker (s : State) (view : View) (name : String) : Traced (State × Reply) := do
  let m ← Marker.set view name
  return ({ s with markers := s.markers ++ [m] }, .marked s.markers.length m)

/-- One call on a subject that is there. The calls stand in groups: those that change the
subject, the productions, those on the cursor inside, those with markers, and those with
items. Each case either refuses, or says with one of the functions above what becomes of the
state. -/
def stepOn (s : State) (subject : Subject) : Call → Traced (State × Reply)
  | .restart setup settings text => do
    return (s.on (← setup.subject settings text), .done)
  | .intoLexer =>
    match subject with
    | .cursor c => do return (s.on (.host (.lexer (← Lexer.ofCursor c))), .done)
    | .host _ => refuse s .unsupported
  | .track name =>
    match subject with
    | .cursor _ => refuse s .unsupported
    | .host h =>
      if mayTrack h then do
        match ← (h.track name).outcome with
        | .ok h => return (s.on (.host h), .tracked name)
        | .error f => return ({ s with subject := none }, .refused (.fault f))
      else refuse s .unsupported
  | .next .direct => onLexer s subject Lexer.next Option.toList .token
  | .next .marked => onHost s subject Host.next Option.toList .token
  | .tryKind .direct kind => onLexer s subject (fun l => l.tryKind kind) Option.toList .token
  | .tryKind .marked kind => onHost s subject (Host.tryKind kind) Option.toList .token
  | .tokenise .direct => onLexer s subject Lexer.tokenise id .tokens
  | .tokenise .marked =>
    match subject with
    | .cursor _ => refuse s .unsupported
    | .host (.lexer _) => onLexer s subject Lexer.tokenise id .tokens
    | .host h => if mayTokenise h then onHost s subject Host.tokenise id .tokens
      else refuse s .unsupported
  | .addRule rule =>
    match subject.lexer? with
    | none => refuse s .unsupported
    | some l => do return (s.on (subject.withLexer (← l.addRule rule)), .done)
  | .kinds =>
    match subject.lexer? with
    | none => refuse s .unsupported
    | some l => pure (s, .texts l.kinds)
  | .dumpLexer =>
    match subject.lexer? with
    | none => refuse s .unsupported
    | some l => pure (s, .lexerDump l.dump l.cursor.isDone)
  | .read bytes => do
    let (c, piece) ← subject.inner.read bytes
    return (s.on (subject.withInner c), .text (String.ofList piece))
  | .readText => pure (s, .text (String.ofList subject.inner.readText))
  | .ahead => pure (s, .text (String.ofList subject.inner.ahead))
  | .isDone => pure (s, .flag subject.inner.isDone)
  | .settings => pure (s, .settings subject.inner.settings)
  | .dumpCursor => pure (s, .text subject.inner.dump)
  | .setSource source => adjust s subject (fun c => c.setSource source)
  | .setAnnounces on => adjust s subject (fun c => c.setAnnounces on)
  | .setObserver observer => adjust s subject (fun c => c.setObserver observer)
  | .setRole role => adjust s subject (fun c => c.setRole role)
  | .look =>
    pure (s, .seen subject.view
      (subject.tracked?.map fun (inner, name) => (name, inner.view.location)))
  | .mark name =>
    match name, subject.tracked? with
    | .default, _ => setMarker s subject.view Spans.primaryName
    | .given name, _ => setMarker s subject.view name
    | .ofTracking, some (inner, name) => setMarker s inner.view name
    | .throughTracking name, some (inner, _) => setMarker s inner.view name
    | .ofTracking, none | .throughTracking _, none => refuse s .unsupported
  | .spanTo marker =>
    match s.markers[marker]? with
    | none => refuse s .noMarker
    | some m =>
      match m.spanTo subject.view with
      | .ok span => pure (s, .span (some span))
      | .error f => refuse s (.fault f)
  | .attach marker index =>
    match s.markers[marker]?, (s.items[index]?).join with
    | none, _ => refuse s .noMarker
    | some _, none => refuse s .noItem
    | some m, some item =>
      production s (m.attach subject.view item) fun (span, item) =>
        ({ s with items := s.items.set index (some item) }, .attached span item)
  -- the item leaves the session before the marker is completed, and comes back only if that
  -- succeeds
  | .close marker index =>
    match s.markers[marker]?, (s.items[index]?).join with
    | none, _ => refuse s .noMarker
    | some _, none => refuse s .noItem
    | some m, some item =>
      production { s with items := s.items.set index none } (m.close subject.view item)
        fun item => ({ s with items := s.items.set index (some item) }, .item item)
  | .wrapped names sizes =>
    production s (chunksUnder names subject.inner sizes) fun (c, tokens) =>
      ((s.on (subject.withInner c)).keepTokens (tokens.filterMap id), .produced tokens)
  | .keep item => pure (s.keep [item], .index s.items.length)
  | .item index =>
    match (s.items[index]?).join with
    | none => refuse s .noItem
    | some item => pure (s, .item item)
  | .get index name =>
    match (s.items[index]?).join with
    | none => refuse s .noItem
    | some item => pure (s, .span ((HoldsSpans.spans item).get? name))

/-- Whether a call is answered by what kind of host there is, even if it is gone. -/
def needsHostKind : Call → Bool
  | .intoLexer | .track _ | .next _ | .tryKind _ _ | .tokenise _ | .addRule _ | .kinds
  | .dumpLexer => true
  | _ => false

/-- One call on a session whose host is gone: only what needs no host can still be done.
Items can still be looked at, and a restart brings a host back. -/
def stepGone (s : State) : Call → Traced (State × Reply)
  | .restart setup settings text => do
    return (s.on (← setup.subject settings text), .done)
  | .keep item => pure (s.keep [item], .index s.items.length)
  | .item index =>
    match (s.items[index]?).join with
    | none => refuse s .noItem
    | some item => pure (s, .item item)
  | .get index name =>
    match (s.items[index]?).join with
    | none => refuse s .noItem
    | some item => pure (s, .span ((HoldsSpans.spans item).get? name))
  | call => refuse s (if needsHostKind call then .unsupported else .gone)

/-- One call, on the subject if it is there. -/
def step (s : State) (call : Call) : Traced (State × Reply) :=
  match s.subject with
  | some subject => stepOn s subject call
  | none => stepGone s call

/-- The calls one after the other, with their replies. A refusal does not end the run. -/
def run : State → List Call → Traced (State × List Reply)
  | s, [] => pure (s, [])
  | s, call :: rest => do
    let (s, reply) ← step s call
    let (s, replies) ← run s rest
    return (s, reply :: replies)

end TokenSpans.Session
