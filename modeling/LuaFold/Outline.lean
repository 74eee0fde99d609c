import LuaFold.Block.Fold
import LuaFold.Lexer.Basic

/-! The outline of a text: the bodies of its outermost blocks, each folded into one node. A body
starts after `do`, `then`, `else` and `repeat`, and after the list of parameters of a function. -/

namespace LuaFold

/-- How much of the header of a function has been read. -/
inductive Header
  | outside
  /-- The header has not come to its parameters. -/
  | named
  /-- The header is inside its parameters. -/
  | params
deriving DecidableEq, Inhabited

namespace Header

def isBodyWord (kind : TokenKind) : Bool :=
  kind == .kwDo || kind == .kwThen || kind == .kwElse || kind == .kwRepeat

/-- The header after one more token, and whether a body starts there. A header that has not come to
its parameters is given up at a word that starts a body and at an `end`. -/
def step (header : Header) (kind : TokenKind) : Header × Bool :=
  if kind = .kwFunction then (named, false)
  else
    match header with
    | outside => (outside, isBodyWord kind)
    | named =>
      if kind = .leftParen then (params, false)
      else if isBodyWord kind then (outside, true)
      else if kind = .kwEnd then (outside, false)
      else (named, false)
    | params => if kind = .rightParen then (outside, true) else (params, false)

end Header

namespace Cursor

/-- One token of an outline: it is consumed, and the body that starts after it, if one does, is
folded. -/
def outlineStep (header : Header) (c : Cursor) : Header × Cursor :=
  let (header, opens) := header.step c.current
  (header, if opens then c.advance.foldBody.2 else c.advance)

theorem stream_outlineStep (header : Header) (c : Cursor) :
    (c.outlineStep header).2.stream = c.stream := by
  simp only [outlineStep]
  split
  · rw [stream_foldBody]
    rfl
  · rfl

theorem index_lt_outlineStep (header : Header) {c : Cursor} (h : c.atEnd = false) :
    c.place.index < (c.outlineStep header).2.place.index := by
  have hadv : c.place.index < c.advance.place.index := TokenStream.index_lt_advance h
  simp only [outlineStep]
  split
  · exact Nat.lt_of_lt_of_le hadv c.advance.index_le_foldBody
  · exact hadv

/-- Folds the bodies from the cursor to the end of the tokens, with a header that may be open. -/
def outlineFrom (header : Header) (c : Cursor) : Cursor :=
  if h : c.atEnd then c
  else
    have hlt := index_lt_outlineStep header (c := c) (by simpa using h)
    have hsize : c.place.index < c.stream.tokens.size :=
      TokenStream.index_lt_size (by simpa [atEnd] using h)
    have hstream := c.stream_outlineStep header
    outlineFrom (c.outlineStep header).1 (c.outlineStep header).2
termination_by c.stream.tokens.size - c.place.index
decreasing_by rw [hstream]; omega

/-- Folds the bodies of the outermost blocks from the cursor to the end of the tokens. -/
def outline (c : Cursor) : Cursor :=
  c.outlineFrom .outside

def ofText (dialect : Dialect) (text : String) : Cursor :=
  ofStream ⟨text, lex dialect text⟩

end Cursor

/-- The bodies of the outermost blocks of a text, in the order of the text. -/
def outermostBodies (dialect : Dialect) (text : String) : Array Node :=
  (Cursor.ofText dialect text).outline.nodes

end LuaFold
