import LuaFold.Cursor.Log
import LuaFold.Node.EdgeTrivia
import LuaFold.Token.Stream

/-! A cursor over a token stream. It moves forward over the tokens that are not trivia, hands out
markers as checkpoints, and collects the nodes finished so far. A marker is closed once, the
innermost open one first: the cursor goes back to it, releases it, or finishes it as a node. -/

namespace LuaFold

/-- A checkpoint: the place and the number of nodes when it was taken, and what becomes of the
trivia at the two edges of a node finished from it. -/
structure Marker where
  id : UInt32
  place : Place
  nodeCount : Nat
  left : EdgeTrivia
  right : EdgeTrivia
deriving DecidableEq, Inhabited

def Marker.withEdges (m : Marker) (left right : EdgeTrivia) : Marker :=
  { m with left, right }

/-- A place in a token stream. `nodes` are finished, `openMarkers` are the numbers of the markers
that are not closed, the innermost one first, `nextMarker` is the number of the next marker, and
`log` holds the events so far, which nothing takes back. -/
structure Cursor where
  stream : TokenStream
  place : Place
  nodes : Array Node
  openMarkers : List UInt32
  nextMarker : UInt32
  log : Array LogEvent
deriving Inhabited

namespace Cursor

/-- The cursor before the first token of `stream`. -/
def ofStream (stream : TokenStream) : Cursor :=
  ⟨stream, stream.first, #[], [], 0, #[]⟩

def atEnd (c : Cursor) : Bool :=
  c.stream.atEnd c.place

/-- The kind of the next token that is not trivia, `eof` at the end. -/
def current (c : Cursor) : TokenKind :=
  c.stream.current c.place

/-- Consumes the next token that is not trivia, if there is one. -/
def advance (c : Cursor) : Cursor :=
  { c with place := c.stream.advance c.place }

/-- The span of the next token, empty at the end of the text when none is left. -/
def currentSpan (c : Cursor) : Span :=
  match c.stream.tokens[c.place.index]? with
  | some t => t.span
  | none => ⟨c.stream.text.utf8ByteSize, 0⟩

/-- The text of the next token, or `<eof>` when none is left; `none` for a token that cuts a
character or leaves the text. -/
def currentText? (c : Cursor) : Option String :=
  match c.stream.tokens[c.place.index]? with
  | some t => Text.slice? c.stream.text t.span
  | none => some "<eof>"

/-- The kind of the token `offset` places from the next one, trivia included. -/
def rawKind? (c : Cursor) (offset : Int) : Option TokenKind :=
  match (c.place.index : Int) + offset with
  | .ofNat index => c.stream.kindAt? index
  | .negSucc _ => none

def latestKind? (c : Cursor) : Option NodeKind :=
  c.nodes.back?.map Node.kind

def latestIs (c : Cursor) (kind : NodeKind) : Bool :=
  c.latestKind? == some kind

def nodeText? (c : Cursor) (n : Node) : Option String :=
  Text.slice? c.stream.text n.span

/-! ### Markers -/

/-- A marker at the current place, and the cursor with that marker open. -/
def mark (c : Cursor) : Marker × Cursor :=
  (⟨c.nextMarker, c.place, c.nodes.size, default, default⟩,
    { c with openMarkers := c.nextMarker :: c.openMarkers, nextMarker := c.nextMarker + 1 })

def isInnermost (c : Cursor) (m : Marker) : Bool :=
  c.openMarkers.head? == some m.id

/-- Takes the marker out of the open ones, and does nothing else. -/
def release (c : Cursor) (m : Marker) : Cursor :=
  { c with openMarkers := c.openMarkers.filter (· != m.id) }

/-- Closes the marker and goes back to it. Nodes finished since are forgotten. -/
def rollback (c : Cursor) (m : Marker) : Cursor :=
  { c.release m with place := m.place, nodes := c.nodes.shrink m.nodeCount }

/-- The node that the marker would become: from the first token consumed since the marker was taken
up to the last one, with the trivia on both sides that its edges take in. A node without tokens of
its own has no trivia on its right. -/
def nodeFrom (c : Cursor) (m : Marker) (kind : NodeKind) (collapsed : Bool) : Node :=
  let s := c.stream
  let coreStart := min m.place.index s.tokens.size
  let coreEnd := max c.place.consumed coreStart
  let leftStart := s.triviaStart coreStart
  let rightEnd := if coreStart < coreEnd then s.skipTrivia coreEnd else coreEnd
  let tokenStart := leftStart + m.left.cutBefore (s.kinds leftStart coreStart)
  let tokenEnd := coreEnd + m.right.cutAfter (s.kinds coreEnd rightEnd)
  let start := s.offsetAt tokenStart
  let stop :=
    if tokenStart < tokenEnd then
      match s.tokens[tokenEnd - 1]? with
      | some t => t.span.stop
      | none => start
    else start
  ⟨kind, collapsed, tokenStart, tokenEnd, .ofOffsets start stop⟩

/-- Closes the marker and makes a node of it. A collapsed node replaces those finished since the
marker was taken. -/
def finish (c : Cursor) (m : Marker) (kind : NodeKind) (collapsed : Bool) : Cursor :=
  let node := c.nodeFrom m kind collapsed
  let c := c.release m
  { c with
    nodes := (if collapsed then c.nodes.shrink m.nodeCount else c.nodes).push node
    log := c.log.push (.finished node) }

end Cursor

end LuaFold
