import LuaFold.Outline
import LuaFold.Probe

/-! Sessions: a cursor under the control of a client that names its markers by the order in which it
took them. All that the client asks for is checked. -/

namespace LuaFold

/-- A cursor and the markers that the client took, `none` for each that is closed. -/
structure Session where
  cursor : Cursor
  markers : Array (Option Marker)
deriving Inhabited

namespace Session

/-- What a client may ask for. A marker is named by its place in the order of taking. -/
inductive Command
  | advance (times : Nat)
  | mark
  | setEdges (marker : Nat) (left right : EdgeTrivia)
  | rollback (marker : Nat)
  | release (marker : Nat)
  | finish (marker : Nat) (kind : NodeKind) (collapsed : Bool)
  | balanced (opener closer : TokenKind)
  | startsArgs
  | startsTable
  | seekBlockEnd (level : Nat) (opener : TokenKind) (advanced : Bool)
  | seekEnd (level : Nat) (construct : Construct) (advanced : Bool)
  | foldBody
  | probe (level times : Nat) (rule : Rule)
  | outline

inductive Reply
  | done
  | marker (m : Marker)
  | noSuchMarker
  | found (result : SearchResult)
  | answer (value : Bool)
  | probed (matched : Bool) (levels : Array Nat)

def ofStream (stream : TokenStream) : Session :=
  ⟨.ofStream stream, #[]⟩

def marker? (s : Session) (name : Nat) : Option Marker :=
  s.markers[name]?.join

/-- Closes the marker of that name by `act`, which is given the cursor and the marker. -/
def closeBy (act : Cursor → Marker → Cursor) (s : Session) (name : Nat) :
    Except Fault (Reply × Session) :=
  match s.marker? name with
  | none => .ok (.noSuchMarker, s)
  | some m => do
    Checks.on.innermost s.cursor m
    return (.done, ⟨act s.cursor m, s.markers.setIfInBounds name none⟩)

/-- Runs one command, with checks. A fault breaks the session. Operations that close a marker of their
own, with none taken after it, have nothing to check, and a search from level 0 asks for no more levels
than there are tokens. -/
def run (s : Session) : Command → Except Fault (Reply × Session)
  | .advance times => .ok (.done, { s with cursor := Nat.repeat Cursor.advance times s.cursor })
  | .mark =>
    let (m, cursor) := s.cursor.mark
    .ok (.marker m, ⟨cursor, s.markers.push (some m)⟩)
  | .setEdges name left right =>
    match s.marker? name with
    | none => .ok (.noSuchMarker, s)
    | some m =>
      let m := m.withEdges left right
      .ok (.marker m, { s with markers := s.markers.setIfInBounds name (some m) })
  | .rollback name => closeBy Cursor.rollback s name
  | .release name => closeBy Cursor.release s name
  | .finish name kind collapsed => closeBy (fun c m => c.finish m kind collapsed) s name
  | .balanced opener closer =>
    let (result, cursor) := s.cursor.balanced opener closer
    .ok (.found result, { s with cursor })
  | .startsArgs =>
    let (value, cursor) := s.cursor.startsArgs
    .ok (.answer value, { s with cursor })
  | .startsTable =>
    let (value, cursor) := s.cursor.startsTable
    .ok (.answer value, { s with cursor })
  | .seekBlockEnd level opener advanced => do
    let (result, cursor) ← s.cursor.seekBlockEndWith .on level opener advanced
    return (.found result, { s with cursor })
  | .seekEnd level construct advanced => do
    let (result, cursor) ← s.cursor.seekEndWith .on level construct advanced
    return (.found result, { s with cursor })
  | .foldBody =>
    let (value, cursor) := s.cursor.foldBody
    .ok (.answer value, { s with cursor })
  | .probe level times rule => do
    let (matched, cursor, levels) ← s.cursor.probe .on (rule.apply .on) level times #[]
    return (.probed matched levels, { s with cursor })
  | .outline => .ok (.done, { s with cursor := s.cursor.outline })

end Session

end LuaFold
