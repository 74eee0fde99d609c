import LuaFold.Proofs.Balanced

/-! Well-formed programs: the kinds of tokens of a text whose outermost blocks are balanced bodies,
and where in the list of these kinds each of the bodies is. Trivia is left out. -/

namespace LuaFold

/-- A plain kind that is not `excluded`. -/
abbrev PlainKindBut (excluded : TokenKind) :=
  { kind : TokenKind // kind.isPlain = true ∧ kind ≠ excluded }

mutual

/-- A program whose outermost blocks have balanced bodies. A condition is a program too: its own
blocks are outermost ones. -/
inductive Program
  | empty
  | plain (kind : PlainKind) (rest : Program)
  | doBlock (body : Body) (rest : Program)
  | repeatLoop (body : Body) (rest : Program)
  | conditional (condition : Program) (body : Body) (more : ProgramBranches) (rest : Program)
  | function (name : List (PlainKindBut .leftParen)) (params : List (PlainKindBut .rightParen))
    (body : Body) (rest : Program)

/-- The branches of an outermost conditional after the first one. -/
inductive ProgramBranches
  | none
  | otherwise (body : Body)
  | elseIf (condition : Program) (body : Body) (more : ProgramBranches)

end

mutual

/-- The kinds of the tokens of a program. -/
def Program.kinds : Program → List TokenKind
  | .empty => []
  | .plain kind rest => kind.val :: rest.kinds
  | .doBlock body rest => .kwDo :: body.kinds ++ .kwEnd :: rest.kinds
  | .repeatLoop body rest => .kwRepeat :: body.kinds ++ .kwUntil :: rest.kinds
  | .conditional condition body more rest =>
    .kwIf :: condition.kinds ++ .kwThen :: body.kinds ++ more.kinds ++ .kwEnd :: rest.kinds
  | .function name params body rest =>
    .kwFunction :: name.map (·.val) ++ .leftParen :: params.map (·.val) ++
      .rightParen :: body.kinds ++ .kwEnd :: rest.kinds

/-- The kinds of the tokens of the branches, up to the `end` of the conditional. -/
def ProgramBranches.kinds : ProgramBranches → List TokenKind
  | .none => []
  | .otherwise body => .kwElse :: body.kinds
  | .elseIf condition body more =>
    .kwElseIf :: condition.kinds ++ .kwThen :: body.kinds ++ more.kinds

end

/-- The two tokens that a body is between, by their places in the list of kinds. -/
structure Extent where
  opener : Nat
  closer : Nat
deriving DecidableEq

mutual

/-- The bodies of the outermost blocks of a program whose first token is at `n`, in order. -/
def Program.extents (n : Nat) : Program → List Extent
  | .empty => []
  | .plain _ rest => rest.extents (n + 1)
  | .doBlock body rest | .repeatLoop body rest =>
    let closer := n + 1 + body.kinds.length
    ⟨n, closer⟩ :: rest.extents (closer + 1)
  | .conditional condition body more rest =>
    let opener := n + 1 + condition.kinds.length
    let closer := opener + 1 + body.kinds.length
    condition.extents (n + 1) ++ ⟨opener, closer⟩ ::
      more.extents closer ++ rest.extents (closer + more.kinds.length + 1)
  | .function name params body rest =>
    let opener := n + 1 + name.length + 1 + params.length
    let closer := opener + 1 + body.kinds.length
    ⟨opener, closer⟩ :: rest.extents (closer + 1)

/-- The bodies of the branches whose first token is at `n`, with those in their conditions. -/
def ProgramBranches.extents (n : Nat) : ProgramBranches → List Extent
  | .none => []
  | .otherwise body => [⟨n, n + 1 + body.kinds.length⟩]
  | .elseIf condition body more =>
    let opener := n + 1 + condition.kinds.length
    let closer := opener + 1 + body.kinds.length
    condition.extents (n + 1) ++ ⟨opener, closer⟩ :: more.extents closer

end

end LuaFold
