import LuaFold.Text.Span

/-! Finished nodes of a parse: a kind, and the tokens that the node covers. -/

namespace LuaFold

inductive NodeKind
  | block
  | callArgs
  | nameExpr
  | statement
deriving DecidableEq, Inhabited

namespace NodeKind

/-- The kind as messages call it. -/
def label : NodeKind → String
  | block => "block"
  | callArgs => "call args"
  | nameExpr => "name"
  | statement => "statement"

/-- The kind as records of nodes call it. -/
def tag : NodeKind → String
  | block => "Block"
  | callArgs => "CallArgs"
  | nameExpr => "NameExpr"
  | statement => "Stat"

end NodeKind

/-- A finished node. It covers the tokens from `tokenStart` up to `tokenEnd`, trivia at its edges
included. The interior of a collapsed node is not parsed. -/
structure Node where
  kind : NodeKind
  collapsed : Bool
  tokenStart : Nat
  tokenEnd : Nat
  span : Span
deriving DecidableEq, Inhabited

end LuaFold
