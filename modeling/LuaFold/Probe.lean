import LuaFold.Block.Balance
import LuaFold.Block.Fold
import LuaFold.Checks

/-! Probes: a rule of a grammar is tried some number of times in a row, and the cursor comes back to
where it was. -/

namespace LuaFold

namespace Cursor

variable {F : Type → Type} [Monad F] {σ : Type}

/-- Applies `rule` up to `times` times and stops at the first failure. `memory` is what the rule
keeps from one application to the next. -/
def applyTimes (rule : Cursor → σ → F (Bool × Cursor × σ)) :
    Nat → Cursor → σ → F (Bool × Cursor × σ)
  | 0, c, memory => return (true, c, memory)
  | times + 1, c, memory => do
    let (matched, c, memory) ← rule c memory
    if matched then applyTimes rule times c memory else return (false, c, memory)

/-- Whether `times` applications of `rule` at `level` succeed in a row. The cursor comes back to
where it was, and only the memory of the rule stays. -/
def probe (checks : Checks F) (rule : Nat → Cursor → σ → F (Bool × Cursor × σ))
    (level times : Nat) (c : Cursor) (memory : σ) : F (Bool × Cursor × σ) := do
  let (m, c) := c.mark
  let (matched, c, memory) ← applyTimes (rule level) times c memory
  checks.innermost c m
  return (matched, c.rollback m, memory)

end Cursor

/-- A rule of a grammar, to probe with. -/
inductive Rule
  /-- Answers without a look at the cursor. -/
  | constant (answer : Bool)
  | advance
  | args
  | table
  | foldBody
  /-- Passes over a block from its opener, which is under the cursor. -/
  | block
  /-- Consumes a name and makes a node of it. -/
  | name
  | token (kind : TokenKind)
  | all (rules : List Rule)
  /-- A probe with a rule one level deeper. -/
  | probe (rule : Rule) (times : Nat)

namespace Rule

/-- Consumes a name and makes a node of it, or fails where it is. -/
def applyName (c : Cursor) : Bool × Cursor :=
  let (m, c) := c.mark
  if c.current = .name then (true, c.advance.finish m .nameExpr false) else (false, c.rollback m)

variable {F : Type → Type} [Monad F]

mutual

/-- Applies the rule at a level. `levels` takes the level of each application, those of rules inside
rules included, in the order in which they start. -/
def apply (checks : Checks F) :
    Rule → Nat → Cursor → Array Nat → F (Bool × Cursor × Array Nat)
  | constant answer, level, c, levels => return (answer, c, levels.push level)
  | advance, level, c, levels => return (!c.atEnd, c.advance, levels.push level)
  | args, level, c, levels =>
    let (answer, c) := c.startsArgs
    return (answer, c, levels.push level)
  | table, level, c, levels =>
    let (answer, c) := c.startsTable
    return (answer, c, levels.push level)
  | foldBody, level, c, levels =>
    let (answer, c) := c.foldBody
    return (answer, c, levels.push level)
  | block, level, c, levels => do
    let (result, c) ← c.seekBlockEndWith checks level c.current false
    return (result.isOk, c, levels.push level)
  | name, level, c, levels =>
    let (answer, c) := applyName c
    return (answer, c, levels.push level)
  | token kind, level, c, levels =>
    if c.current = kind then return (true, c.advance, levels.push level)
    else return (false, c, levels.push level)
  | all rules, level, c, levels => applyAll checks rules level c (levels.push level)
  | probe rule times, level, c, levels => do
    checks.level (level + 1)
    c.probe checks (apply checks rule) (level + 1) times (levels.push level)

/-- Applies the rules one after another and stops at the first failure. -/
def applyAll (checks : Checks F) :
    List Rule → Nat → Cursor → Array Nat → F (Bool × Cursor × Array Nat)
  | [], _, c, levels => return (true, c, levels)
  | rule :: rules, level, c, levels => do
    let (matched, c, levels) ← apply checks rule level c levels
    if matched then applyAll checks rules level c levels else return (false, c, levels)

end

end Rule

end LuaFold
