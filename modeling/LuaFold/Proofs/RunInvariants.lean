import Mathlib.Data.List.Nodup
import LuaFold.Proofs.Operations

/-! What every run of a client keeps: places stay places of the token stream, the open markers of the
cursor are those that the client holds as long as no number is handed out twice, and nodes that were
finished before the run stay. Each is shown for the moves and follows for runs. -/

namespace LuaFold

namespace Client

variable {s : TokenStream} {a b : Client}

theorem Move.taken_le (h : Move a b) : a.taken ≤ b.taken := by
  cases h with
  | mark c held n => exact Nat.le_succ n
  | _ => exact Nat.le_refl _

theorem Moves.taken_le (h : Moves a b) : a.taken ≤ b.taken := by
  induction h with
  | refl => exact Nat.le_refl _
  | tail _ hmove ih => exact Nat.le_trans ih hmove.taken_le

theorem Move.stream_eq (h : Move a b) : b.cursor.stream = a.cursor.stream := by
  cases h with
  | report c result held n => exact c.stream_reportFailure result
  | _ => rfl

theorem Moves.stream_eq (h : Moves a b) : b.cursor.stream = a.cursor.stream := by
  induction h with
  | refl => rfl
  | tail _ hmove ih => exact hmove.stream_eq.trans ih

/-- What holds of the markers held holds of them after a move, if it does not depend on edges and
holds of a marker just taken. -/
theorem Move.forall_held {P : Marker → Prop}
    (edges : ∀ m left right, P m → P (m.withEdges left right)) (h : Move a b)
    (mark : b.taken = a.taken + 1 → P a.cursor.mark.1) (ha : ∀ m ∈ a.held, P m) :
    ∀ m ∈ b.held, P m := by
  have close {inner outer : List Marker} {m : Marker} (hall : ∀ m' ∈ inner ++ m :: outer, P m') :
      ∀ m' ∈ inner ++ outer, P m' :=
    fun m' hm' => hall m' ((List.sublist_cons_self m outer).append_left inner |>.subset hm')
  cases h with
  | advance c held n => exact ha
  | mark c held n =>
    intro m hm
    rcases List.mem_cons.mp hm with rfl | hm
    · exact mark rfl
    · exact ha m hm
  | setEdges c inner m outer n left right =>
    intro m' hm'
    rcases List.mem_append.mp hm' with hm' | hm'
    · exact ha m' (List.mem_append_left _ hm')
    · rcases List.mem_cons.mp hm' with rfl | hm'
      · exact edges m left right (ha m (List.mem_append_right _ List.mem_cons_self))
      · exact ha m' (List.mem_append_right _ (List.mem_cons_of_mem _ hm'))
  | rollback c inner m outer n => exact close ha
  | release c inner m outer n => exact close ha
  | finish c inner m outer n kind collapsed => exact close ha
  | report c result held n => exact ha

/-! ### Places -/

/-- The cursor is in the stream `s`, and both it and the markers held are at places of it. -/
structure Placed (s : TokenStream) (a : Client) : Prop where
  stream : a.cursor.stream = s
  place : s.IsPlace a.cursor.place
  held : ∀ m ∈ a.held, s.IsPlace m.place

namespace Placed

theorem ofStream (s : TokenStream) : Placed s (.ofStream s) :=
  ⟨rfl, s.isPlace_first, List.forall_mem_nil _⟩

theorem move (ha : Placed s a) (h : Move a b) : Placed s b := by
  obtain ⟨hstream, hplace, hheld⟩ := ha
  have hheld' : ∀ m ∈ b.held, s.IsPlace m.place :=
    h.forall_held (P := fun m => s.IsPlace m.place) (fun _ _ _ hm => hm) (fun _ => hplace) hheld
  cases h with
  | advance c held n =>
    refine ⟨hstream, ?_, hheld'⟩
    show s.IsPlace (c.stream.advance c.place)
    rw [hstream]
    exact hplace.advance
  | rollback c inner m outer n =>
    exact ⟨hstream, hheld m (List.mem_append_right _ List.mem_cons_self), hheld'⟩
  | report c result held n =>
    refine ⟨(c.stream_reportFailure result).trans hstream, ?_, hheld'⟩
    show s.IsPlace (c.reportFailure result).place
    rw [c.place_reportFailure]
    exact hplace
  | _ => exact ⟨hstream, hplace, hheld'⟩

theorem moves (ha : Placed s a) (h : Moves a b) : Placed s b := by
  induction h with
  | refl => exact ha
  | tail _ hmove ih => exact ih.move hmove

end Placed

/-! ### Marker numbers -/

/-- The open markers are the ones held, and their numbers and the next one are as if they had been
counted without end. -/
structure Numbered (a : Client) : Prop where
  next : a.cursor.nextMarker.toNat = a.taken % UInt32.size
  stack : a.cursor.openMarkers = a.held.map Marker.id
  below : ∀ m ∈ a.held, m.id.toNat < a.taken
  distinct : (a.held.map Marker.id).Nodup

namespace Numbered

theorem ofStream (s : TokenStream) : Numbered (.ofStream s) :=
  ⟨rfl, rfl, List.forall_mem_nil _, List.nodup_nil⟩

/-- The number of the next marker is not that of an open one. -/
theorem next_not_mem (ha : Numbered a) (htaken : a.taken < UInt32.size) :
    a.cursor.nextMarker ∉ a.held.map Marker.id := by
  intro hmem
  obtain ⟨m, hm, hid⟩ := List.mem_map.mp hmem
  have hnext := ha.next
  have hbelow := ha.below m hm
  rw [Nat.mod_eq_of_lt htaken, ← hid] at hnext
  omega

/-- Only the marker that is closed leaves the open ones. -/
theorem openMarkers_release {c : Cursor} {inner : List Marker} {m : Marker} {outer : List Marker}
    {n : Nat} (ha : Numbered ⟨c, inner ++ m :: outer, n⟩) :
    (c.release m).openMarkers = (inner ++ outer).map Marker.id := by
  have hstack : c.openMarkers = (inner ++ m :: outer).map Marker.id := ha.stack
  have hdistinct : (m.id :: (inner ++ outer).map Marker.id).Nodup := by
    simpa [List.nodup_middle] using ha.distinct
  obtain ⟨hfresh, -⟩ := List.nodup_cons.mp hdistinct
  have hkept : ((inner ++ outer).map Marker.id).filter (· != m.id) =
      (inner ++ outer).map Marker.id := by
    rw [List.filter_eq_self]
    intro id hid
    have hne : id ≠ m.id := fun h => hfresh (h ▸ hid)
    simpa using hne
  show c.openMarkers.filter (· != m.id) = _
  rw [hstack, ← hkept]
  simp

theorem move (ha : Numbered a) (h : Move a b) (hb : b.taken ≤ UInt32.size) : Numbered b := by
  have hbelow : ∀ m ∈ b.held, m.id.toNat < b.taken := by
    refine h.forall_held (P := fun m => m.id.toNat < b.taken) (fun _ _ _ hm => hm) ?_ ?_
    · intro htaken
      calc a.cursor.mark.1.id.toNat
        _ = a.taken % UInt32.size := ha.next
        _ ≤ a.taken := Nat.mod_le _ _
        _ < b.taken := by omega
    · intro m hm
      exact Nat.lt_of_lt_of_le (ha.below m hm) h.taken_le
  have close {inner outer : List Marker} {m : Marker}
      (h : ((inner ++ m :: outer).map Marker.id).Nodup) :
      ((inner ++ outer).map Marker.id).Nodup :=
    h.sublist (((List.sublist_cons_self m outer).append_left inner).map Marker.id)
  cases h with
  | advance c held n => exact ⟨ha.next, ha.stack, hbelow, ha.distinct⟩
  | mark c held n =>
    have hnext : c.nextMarker.toNat = n % UInt32.size := ha.next
    refine ⟨?_, ?_, hbelow, List.nodup_cons.mpr ⟨ha.next_not_mem hb, ha.distinct⟩⟩
    · show (c.nextMarker + 1).toNat = (n + 1) % UInt32.size
      rw [UInt32.toNat_add, hnext]
      simp
    · show c.nextMarker :: c.openMarkers = _
      rw [ha.stack]
      rfl
  | setEdges c inner m outer n left right =>
    have hids : (inner ++ m.withEdges left right :: outer).map Marker.id =
        (inner ++ m :: outer).map Marker.id := by
      simp [Marker.withEdges]
    exact ⟨ha.next, ha.stack.trans hids.symm, hbelow, hids ▸ ha.distinct⟩
  | rollback c inner m outer n =>
    exact ⟨ha.next, ha.openMarkers_release, hbelow, close ha.distinct⟩
  | release c inner m outer n =>
    exact ⟨ha.next, ha.openMarkers_release, hbelow, close ha.distinct⟩
  | finish c inner m outer n kind collapsed =>
    exact ⟨ha.next, ha.openMarkers_release, hbelow, close ha.distinct⟩
  | report c result held n =>
    cases result with
    | ok _ => exact ha
    | error e => exact ⟨ha.next, ha.stack, hbelow, ha.distinct⟩

theorem moves (ha : Numbered a) (h : Moves a b) (hb : b.taken ≤ UInt32.size) : Numbered b := by
  induction h with
  | refl => exact ha
  | tail _ hmove ih => exact (ih (Nat.le_trans hmove.taken_le hb)).move hmove hb

theorem isInnermost_eq_true {c : Cursor} {m : Marker} {held : List Marker} {n : Nat}
    (ha : Numbered ⟨c, m :: held, n⟩) : c.isInnermost m = true := by
  have hstack : c.openMarkers = m.id :: held.map Marker.id := ha.stack
  simp [Cursor.isInnermost, hstack]

/-- The first of the markers held is the innermost open one, and no other is. -/
theorem map_isInnermost (ha : Numbered a) :
    a.held.map a.cursor.isInnermost = (List.range a.held.length).map (· == 0) := by
  obtain ⟨c, held, n⟩ := a
  cases held with
  | nil => rfl
  | cons m held =>
    obtain ⟨hfresh, -⟩ := List.nodup_cons.mp ha.distinct
    have houter : ∀ m' ∈ held, c.isInnermost m' = false := by
      intro m' hm'
      have hne : m.id ≠ m'.id := fun h => hfresh (h ▸ List.mem_map_of_mem hm')
      have hstack : c.openMarkers = m.id :: held.map Marker.id := ha.stack
      simpa [Cursor.isInnermost, hstack] using hne
    simp only [List.map_cons, List.length_cons, List.range_succ_eq_map, List.map_map]
    rw [ha.isInnermost_eq_true, List.map_congr_left houter]
    simp [List.eq_replicate_iff, eq_comm (a := List.replicate _ _)]

end Numbered

/-! ### Nodes -/

/-- The nodes start with `nodes`, and no marker held goes back behind them. -/
structure Keeps (nodes : Array Node) (a : Client) : Prop where
  finished : nodes.toList <+: a.cursor.nodes.toList
  held : ∀ m ∈ a.held, nodes.size ≤ m.nodeCount

namespace Keeps

variable {nodes : Array Node}

theorem shrink {nodes' : Array Node} {count : Nat} (h : nodes.toList <+: nodes'.toList)
    (hcount : nodes.size ≤ count) : nodes.toList <+: (nodes'.shrink count).toList := by
  rw [Array.toList_shrink, List.prefix_take_iff]
  exact ⟨h, hcount⟩

theorem move (ha : Keeps nodes a) (h : Move a b) : Keeps nodes b := by
  obtain ⟨hfinished, hheld⟩ := ha
  have hheld' : ∀ m ∈ b.held, nodes.size ≤ m.nodeCount :=
    h.forall_held (P := fun m => nodes.size ≤ m.nodeCount) (fun _ _ _ hm => hm)
      (fun _ => hfinished.length_le) hheld
  cases h with
  | rollback c inner m outer n =>
    exact ⟨shrink hfinished (hheld m (List.mem_append_right _ List.mem_cons_self)), hheld'⟩
  | finish c inner m outer n kind collapsed =>
    refine ⟨?_, hheld'⟩
    have hkept : nodes.toList <+:
        (if collapsed then c.nodes.shrink m.nodeCount else c.nodes).toList := by
      split
      · exact shrink hfinished (hheld m (List.mem_append_right _ List.mem_cons_self))
      · exact hfinished
    simp only [Cursor.finish, Array.toList_push]
    exact hkept.trans (List.prefix_append _ _)
  | report c result held n =>
    cases result with
    | ok _ => exact ⟨hfinished, hheld⟩
    | error e => exact ⟨hfinished, hheld⟩
  | _ => exact ⟨hfinished, hheld'⟩

theorem moves (ha : Keeps nodes a) (h : Moves a b) : Keeps nodes b := by
  induction h with
  | refl => exact ha
  | tail _ hmove ih => exact ih.move hmove

theorem shrink_eq (ha : Keeps nodes a) : a.cursor.nodes.shrink nodes.size = nodes := by
  rw [← Array.toList_inj, Array.toList_shrink]
  exact (List.prefix_iff_eq_take.mp ha.finished).symm

end Keeps

end Client

end LuaFold
