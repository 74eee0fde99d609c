import LuaFold.Block.Error
import LuaFold.Node.Basic

/-! What a cursor reports while it works. -/

namespace LuaFold

/-- An event that is worth a line in a log. -/
inductive LogEvent
  | finished (node : Node)
  /-- A body is about to be collapsed although the search for its end failed. -/
  | partialBody (error : SearchError)
deriving DecidableEq

namespace LogEvent

def level : LogEvent → String
  | finished _ => "TRACE"
  | partialBody _ => "DEBUG"

def message : LogEvent → String
  | finished n =>
    n.kind.label ++ " node [" ++ toString n.span.start ++ ", " ++ toString n.span.stop
      ++ ") over tokens [" ++ toString n.tokenStart ++ ", " ++ toString n.tokenEnd ++ ")"
  | partialBody e => "lazy block collapsed over a partial span: " ++ e.message

end LogEvent

end LuaFold
