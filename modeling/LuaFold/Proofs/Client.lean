import Mathlib.Logic.Relation
import LuaFold.Probe

/-! Runs of a cursor in the hands of a client. The client performs any operations in any order. It
closes each marker at most once, but nothing makes it close the innermost one first. All operations
are made of few moves, so what every move keeps holds along every run. -/

namespace LuaFold

/-- A cursor in the hands of a client. `held` are the markers that the client has taken and not
closed, the innermost one first, and `taken` is the number of markers that the cursor has handed
out. -/
structure Client where
  cursor : Cursor
  held : List Marker
  taken : Nat

namespace Client

/-- The client of a new cursor. -/
def ofStream (s : TokenStream) : Client :=
  ⟨.ofStream s, [], 0⟩

/-- An operation with its arguments and its result. `depth` is the place of a marker among those
held, `inside` is what the applications of a probed rule do. -/
inductive Act
  | advance
  | mark
  | setEdges (depth : Nat) (left right : EdgeTrivia)
  | rollback (depth : Nat)
  | release (depth : Nat)
  | finish (depth : Nat) (kind : NodeKind) (collapsed : Bool)
  | balanced (opener closer : TokenKind) (result : SearchResult)
  | seekBlockEnd (level : Nat) (opener : TokenKind) (advanced : Bool) (result : SearchResult)
  | seekEnd (level : Nat) (construct : Construct) (advanced : Bool) (result : SearchResult)
  | foldBody (result : Bool)
  | probe (level times : Nat) (inside : List Act) (matched : Bool)

mutual

/-- `Step a act b` says that the operation `act` takes the client from `a` to `b`. The rule of a
probe is any function whose applications, one after another, do what some run does and close all
markers that they take. -/
inductive Step : Client → Act → Client → Prop
  | advance (c : Cursor) (held : List Marker) (n : Nat) :
    Step ⟨c, held, n⟩ .advance ⟨c.advance, held, n⟩
  | mark (c : Cursor) (held : List Marker) (n : Nat) :
    Step ⟨c, held, n⟩ .mark ⟨c.mark.2, c.mark.1 :: held, n + 1⟩
  | setEdges (c : Cursor) (inner : List Marker) (m : Marker) (outer : List Marker) (n : Nat)
    (left right : EdgeTrivia) :
    Step ⟨c, inner ++ m :: outer, n⟩ (.setEdges inner.length left right)
      ⟨c, inner ++ m.withEdges left right :: outer, n⟩
  | rollback (c : Cursor) (inner : List Marker) (m : Marker) (outer : List Marker) (n : Nat) :
    Step ⟨c, inner ++ m :: outer, n⟩ (.rollback inner.length) ⟨c.rollback m, inner ++ outer, n⟩
  | release (c : Cursor) (inner : List Marker) (m : Marker) (outer : List Marker) (n : Nat) :
    Step ⟨c, inner ++ m :: outer, n⟩ (.release inner.length) ⟨c.release m, inner ++ outer, n⟩
  | finish (c : Cursor) (inner : List Marker) (m : Marker) (outer : List Marker) (n : Nat)
    (kind : NodeKind) (collapsed : Bool) :
    Step ⟨c, inner ++ m :: outer, n⟩ (.finish inner.length kind collapsed)
      ⟨c.finish m kind collapsed, inner ++ outer, n⟩
  | balanced (c : Cursor) (held : List Marker) (n : Nat) (opener closer : TokenKind) :
    Step ⟨c, held, n⟩ (.balanced opener closer (c.balanced opener closer).1)
      ⟨(c.balanced opener closer).2, held, if c.current = opener then n + 1 else n⟩
  | seekBlockEnd (c : Cursor) (held : List Marker) (n level : Nat) (opener : TokenKind)
    (advanced : Bool) :
    Step ⟨c, held, n⟩ (.seekBlockEnd level opener advanced (c.seekBlockEnd level opener advanced).1)
      ⟨(c.seekBlockEnd level opener advanced).2, held, n⟩
  | seekEnd (c : Cursor) (held : List Marker) (n level : Nat) (construct : Construct)
    (advanced : Bool) :
    Step ⟨c, held, n⟩ (.seekEnd level construct advanced (c.seekEnd level construct advanced).1)
      ⟨(c.seekEnd level construct advanced).2, held, n⟩
  | foldBody (c : Cursor) (held : List Marker) (n : Nat) :
    Step ⟨c, held, n⟩ (.foldBody c.foldBody.1)
      ⟨c.foldBody.2, held, if (c.stream.kindBefore? c.place.index).isSome then n + 1 else n⟩
  | probe {σ : Type} {rule : Nat → Cursor → σ → Id (Bool × Cursor × σ)}
    {c last c' : Cursor} {memory memory' : σ} {level times n n' : Nat} {matched : Bool}
    {inside : List Act} (held : List Marker)
    (applied : Cursor.applyTimes (rule level) times c.mark.2 memory = (matched, last, memory'))
    (run : Run ⟨c.mark.2, [], n + 1⟩ inside ⟨last, [], n'⟩)
    (idle : times = 0 → inside = [])
    (probed : c.probe .off rule level times memory = (matched, c', memory')) :
    Step ⟨c, held, n⟩ (.probe level times inside matched) ⟨c', held, n'⟩

/-- `Run a acts b` says that the operations `acts`, one after another, take the client from `a` to
`b`. -/
inductive Run : Client → List Act → Client → Prop
  | nil (a : Client) : Run a [] a
  | cons {a b c : Client} {act : Act} {acts : List Act} (head : Step a act b)
    (tail : Run b acts c) : Run a (act :: acts) c

end

/-- The client with markers `older` below those that it holds. -/
def above (a : Client) (older : List Marker) : Client :=
  { a with held := a.held ++ older }

/-! ### Moves -/

/-- The least that a client can do. All operations are made of moves. -/
inductive Move : Client → Client → Prop
  | advance (c : Cursor) (held : List Marker) (n : Nat) :
    Move ⟨c, held, n⟩ ⟨c.advance, held, n⟩
  | mark (c : Cursor) (held : List Marker) (n : Nat) :
    Move ⟨c, held, n⟩ ⟨c.mark.2, c.mark.1 :: held, n + 1⟩
  | setEdges (c : Cursor) (inner : List Marker) (m : Marker) (outer : List Marker) (n : Nat)
    (left right : EdgeTrivia) :
    Move ⟨c, inner ++ m :: outer, n⟩ ⟨c, inner ++ m.withEdges left right :: outer, n⟩
  | rollback (c : Cursor) (inner : List Marker) (m : Marker) (outer : List Marker) (n : Nat) :
    Move ⟨c, inner ++ m :: outer, n⟩ ⟨c.rollback m, inner ++ outer, n⟩
  | release (c : Cursor) (inner : List Marker) (m : Marker) (outer : List Marker) (n : Nat) :
    Move ⟨c, inner ++ m :: outer, n⟩ ⟨c.release m, inner ++ outer, n⟩
  | finish (c : Cursor) (inner : List Marker) (m : Marker) (outer : List Marker) (n : Nat)
    (kind : NodeKind) (collapsed : Bool) :
    Move ⟨c, inner ++ m :: outer, n⟩ ⟨c.finish m kind collapsed, inner ++ outer, n⟩
  | report (c : Cursor) (result : SearchResult) (held : List Marker) (n : Nat) :
    Move ⟨c, held, n⟩ ⟨c.reportFailure result, held, n⟩

abbrev Moves : Client → Client → Prop :=
  Relation.ReflTransGen Move

theorem Move.above {a b : Client} (h : Move a b) (older : List Marker) :
    Move (a.above older) (b.above older) := by
  cases h with
  | advance c held n => exact .advance c (held ++ older) n
  | mark c held n => exact .mark c (held ++ older) n
  | setEdges c inner m outer n left right =>
    simpa [Client.above] using Move.setEdges c inner m (outer ++ older) n left right
  | rollback c inner m outer n =>
    simpa [Client.above] using Move.rollback c inner m (outer ++ older) n
  | release c inner m outer n =>
    simpa [Client.above] using Move.release c inner m (outer ++ older) n
  | finish c inner m outer n kind collapsed =>
    simpa [Client.above] using Move.finish c inner m (outer ++ older) n kind collapsed
  | report c result held n => exact .report c result (held ++ older) n

theorem Moves.above {a b : Client} (h : Moves a b) (older : List Marker) :
    Moves (a.above older) (b.above older) := by
  induction h with
  | refl => exact .refl
  | tail _ hmove ih => exact ih.tail (hmove.above older)

end Client

end LuaFold
