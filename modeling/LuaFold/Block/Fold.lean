import LuaFold.Block.Search

/-! Folding: the body of the block around the cursor as one collapsed node. -/

namespace LuaFold

/-- The opener of the body that starts after a token: the parenthesis that closes a list of
parameters stands for its function. -/
def bodyOpener (kind : TokenKind) : TokenKind :=
  if kind = .rightParen then .kwFunction else kind

namespace Cursor

def reportFailure (c : Cursor) : SearchResult → Cursor
  | .ok () => c
  | .error e => { c with log := c.log.push (.partialBody e) }

/-- Collapses the body that starts at the cursor, right after its opener, into a block with all the
trivia around it. A body without an end takes in all that the search went over, and without an
opener there is no body. As a rule of a grammar this always succeeds. -/
def foldBody (c : Cursor) : Bool × Cursor :=
  match c.stream.kindBefore? c.place.index with
  | none => (true, c)
  | some kind =>
    let (m, c) := c.mark
    let m := m.withEdges .inside .inside
    let (result, c) := c.seekBlockEnd 0 (bodyOpener kind) true
    (true, (c.reportFailure result).finish m .block true)

theorem stream_reportFailure (c : Cursor) (result : SearchResult) :
    (c.reportFailure result).stream = c.stream := by
  cases result <;> rfl

theorem place_reportFailure (c : Cursor) (result : SearchResult) :
    (c.reportFailure result).place = c.place := by
  cases result <;> rfl

theorem stream_foldBody (c : Cursor) : c.foldBody.2.stream = c.stream := by
  unfold foldBody
  split
  · rfl
  · exact stream_reportFailure _ _

theorem index_le_foldBody (c : Cursor) : c.place.index ≤ c.foldBody.2.place.index := by
  unfold foldBody
  split
  · exact Nat.le_refl _
  · rename_i kind _
    calc c.place.index
      _ ≤ (c.mark.2.seekBlockEnd 0 (bodyOpener kind) true).2.place.index :=
        c.stream.index_le_seekBlockEnd 0 (bodyOpener kind) true c.place
      _ = _ := (congrArg Place.index (place_reportFailure _ _)).symm

end Cursor

end LuaFold
