import LuaFold.Cursor.Basic

/-! Checks on a run. An operation that may break an assertion takes the checks as a parameter. With
them, it is refused when a marker would be closed out of order, or when a search asks for a level after
the last one. Without them, it goes on in the same way, and there is no last level. -/

namespace LuaFold

inductive Fault
  /-- A marker was closed before one that was taken after it. -/
  | outOfOrder
  /-- A search asked for a level after the last one. -/
  | levelOverflow
deriving DecidableEq

def Fault.message : Fault → String
  | outOfOrder => "markers must be closed in LIFO order"
  | levelOverflow => "attempt to add with overflow"

/-- The last level of nesting, which fills a word of 64 bits. -/
def lastLevel : Nat := UInt64.size - 1

/-- What is checked, in a monad that may refuse to go on. -/
structure Checks (F : Type → Type) where
  /-- The marker is the innermost open one. -/
  innermost : Cursor → Marker → F Unit
  /-- The level is not after the last one. -/
  level : Nat → F Unit

namespace Cursor

/-- Refuses to go on unless the marker is the innermost open one. -/
def requireInnermost (c : Cursor) (m : Marker) : Except Fault Unit :=
  if c.isInnermost m then .ok () else .error .outOfOrder

end Cursor

def requireLevel (level : Nat) : Except Fault Unit :=
  if level ≤ lastLevel then .ok () else .error .levelOverflow

namespace Checks

def off : Checks Id where
  innermost _ _ := pure ()
  level _ := pure ()

def on : Checks (Except Fault) where
  innermost := Cursor.requireInnermost
  level := requireLevel

end Checks

end LuaFold
