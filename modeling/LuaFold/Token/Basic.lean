import LuaFold.Text.Span
import LuaFold.Token.Kind

/-! Tokens: what a stretch of the text is, and where. -/

namespace LuaFold

structure Token where
  kind : TokenKind
  span : Span
deriving DecidableEq, Inhabited

/-- The token is white space, a line break, a comment or the shebang line. -/
def Token.isTrivia (t : Token) : Bool :=
  t.kind.isTrivia

end LuaFold
