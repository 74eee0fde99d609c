import LuaFold.Token.KindSet

/-! The constructs that hold a block: the token that opens each, and the tokens that end it. -/

namespace LuaFold

inductive Construct
  | doBlock
  | repeatLoop
  | conditional
  /-- The block of a `then`, up to the next branch or the end of the conditional. -/
  | branch
  /-- The block of a `then` with all branches after it. -/
  | branches
  | elseBranch
  | function
deriving DecidableEq

namespace Construct

/-- The construct that a token opens at a nesting level. -/
def ofOpener? (opener : TokenKind) (level : Nat) : Option Construct :=
  match opener with
  | .kwDo => some doBlock
  | .kwRepeat => some repeatLoop
  | .kwIf => some conditional
  | .kwThen => some (if level = 0 then branch else branches)
  | .kwElse => some elseBranch
  | .kwFunction => some function
  | _ => none

def opener : Construct → TokenKind
  | doBlock => .kwDo
  | repeatLoop => .kwRepeat
  | conditional => .kwIf
  | branch | branches => .kwThen
  | elseBranch => .kwElse
  | function => .kwFunction

/-- The tokens that are part of the construct, and neither end it nor open a block in it. -/
def joints : Construct → KindSet
  | conditional => .ofList [.kwThen, .kwElse, .kwElseIf]
  | branches => .ofList [.kwElse, .kwElseIf]
  | _ => ∅

def closers : Construct → KindSet
  | repeatLoop => .ofList [.kwUntil]
  | branch => .ofList [.kwElse, .kwElseIf, .kwEnd]
  | _ => .ofList [.kwEnd]

end Construct

end LuaFold
