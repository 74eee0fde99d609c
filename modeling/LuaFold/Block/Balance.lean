import LuaFold.Cursor.Basic

/-! Balanced delimiters: a look ahead for the token that closes the one under the cursor. Only the
two kinds in question count. -/

namespace LuaFold

/-- Reads on from `p` until `depth` open delimiters are closed, and says whether that happened
before the end of the tokens. -/
def TokenStream.seekBalance (s : TokenStream) (opener closer : TokenKind) (depth : Nat)
    (p : Place) : Bool × Place :=
  if depth = 0 then (true, p)
  else if h : s.atEnd (s.advance p) then (false, s.advance p)
  else
    have hlt : p.index < (s.advance p).index := by
      cases hp : s.atEnd p with
      | true => simp [advance, hp] at h
      | false => exact index_lt_advance hp
    have hsize : (s.advance p).index < s.tokens.size := index_lt_size (by simpa using h)
    let kind := s.current (s.advance p)
    let depth := if kind = opener then depth + 1 else if kind = closer then depth - 1 else depth
    s.seekBalance opener closer depth (s.advance p)
termination_by s.tokens.size - p.index
decreasing_by omega

namespace Cursor

/-- Whether the delimiter under the cursor is closed. The cursor comes back to where it was. -/
def balanced (c : Cursor) (opener closer : TokenKind) : SearchResult × Cursor :=
  if c.current = opener then
    let (m, c) := c.mark
    let (closed, place) := c.stream.seekBalance opener closer 1 c.place
    (if closed then .ok () else .error (.unbalanced opener closer),
      { c with place }.rollback m)
  else (.error (.unknownOpener c.current), c)

/-- The cursor is on a parenthesis that is closed, so the arguments of a call may start here. -/
def startsArgs (c : Cursor) : Bool × Cursor :=
  let (result, c) := c.balanced .leftParen .rightParen
  (result.isOk, c)

/-- The cursor is on a brace that is closed, so a table may start here. -/
def startsTable (c : Cursor) : Bool × Cursor :=
  let (result, c) := c.balanced .leftBrace .rightBrace
  (result.isOk, c)

end Cursor

end LuaFold
