import LuaFold.Token.Kind

/-! Balanced bodies: the kinds of tokens of a body in which every construct is closed. Trivia is
left out. -/

namespace LuaFold

/-- The kind neither opens, divides nor ends a block. -/
def TokenKind.isPlain : TokenKind → Bool
  | .kwDo | .kwRepeat | .kwIf | .kwThen | .kwElseIf | .kwElse | .kwFunction | .kwEnd
  | .kwUntil => false
  | _ => true

/-- A kind of a token that blocks do not depend on. -/
abbrev PlainKind := { kind : TokenKind // kind.isPlain = true }

mutual

/-- A body in which every construct is closed. -/
inductive Body
  | empty
  | plain (kind : PlainKind) (rest : Body)
  | doBlock (body rest : Body)
  | repeatLoop (body rest : Body)
  | function (body rest : Body)
  | conditional (condition body : Body) (more : Branches) (rest : Body)

/-- The branches of a conditional after the first one. -/
inductive Branches
  | none
  | otherwise (body : Body)
  | elseIf (condition body : Body) (more : Branches)

end

mutual

/-- The kinds of the tokens of a body. -/
def Body.kinds : Body → List TokenKind
  | .empty => []
  | .plain kind rest => kind.val :: rest.kinds
  | .doBlock body rest => .kwDo :: body.kinds ++ .kwEnd :: rest.kinds
  | .repeatLoop body rest => .kwRepeat :: body.kinds ++ .kwUntil :: rest.kinds
  | .function body rest => .kwFunction :: body.kinds ++ .kwEnd :: rest.kinds
  | .conditional condition body more rest =>
    .kwIf :: condition.kinds ++ .kwThen :: body.kinds ++ more.kinds ++ .kwEnd :: rest.kinds

/-- The kinds of the tokens of the branches, up to the `end` of the conditional. -/
def Branches.kinds : Branches → List TokenKind
  | .none => []
  | .otherwise body => .kwElse :: body.kinds
  | .elseIf condition body more =>
    .kwElseIf :: condition.kinds ++ .kwThen :: body.kinds ++ more.kinds

end

mutual

/-- How many levels a search in the body goes down. A plain token is tried as an opener, one level
down. -/
def Body.depth : Body → Nat
  | .empty => 0
  | .plain _ rest => max 1 rest.depth
  | .doBlock body rest | .repeatLoop body rest | .function body rest =>
    max (body.depth + 1) rest.depth
  | .conditional condition body more rest =>
    max (max (max condition.depth body.depth) more.depth + 1) rest.depth

def Branches.depth : Branches → Nat
  | .none => 0
  | .otherwise body => body.depth
  | .elseIf condition body more => max (max condition.depth body.depth) more.depth

end

end LuaFold
