import LuaFold.Proofs.RunInvariants

/-! Clients that differ in nothing but the numbers of their markers and their logs. What one of them
does the other can do, with the same results. -/

namespace LuaFold

/-- The marker without its number. -/
def Marker.unnumbered (m : Marker) : Marker :=
  { m with id := 0 }

theorem Marker.unnumbered_eq_iff {m k : Marker} : m.unnumbered = k.unnumbered ↔
    m.place = k.place ∧ m.nodeCount = k.nodeCount ∧ m.left = k.left ∧ m.right = k.right := by
  simp [unnumbered]

namespace Cursor

/-- Equal up to the open markers, their numbers and the log. -/
structure Alike (c d : Cursor) : Prop where
  stream : c.stream = d.stream
  place : c.place = d.place
  nodes : c.nodes = d.nodes

namespace Alike

variable {c d : Cursor} {m k : Marker}

theorem symm (h : c.Alike d) : d.Alike c :=
  ⟨h.stream.symm, h.place.symm, h.nodes.symm⟩

theorem current (h : c.Alike d) : c.current = d.current := by
  rw [Cursor.current, Cursor.current, h.stream, h.place]

theorem advance (h : c.Alike d) : c.advance.Alike d.advance := by
  refine ⟨h.stream, ?_, h.nodes⟩
  show c.stream.advance c.place = d.stream.advance d.place
  rw [h.stream, h.place]

theorem mark (h : c.Alike d) : c.mark.2.Alike d.mark.2 :=
  ⟨h.stream, h.place, h.nodes⟩

theorem unnumbered_mark (h : c.Alike d) : c.mark.1.unnumbered = d.mark.1.unnumbered := by
  simp only [Cursor.mark, Marker.unnumbered, h.place, h.nodes]

theorem release (h : c.Alike d) : (c.release m).Alike (d.release k) :=
  ⟨h.stream, h.place, h.nodes⟩

theorem rollback (h : c.Alike d) (hm : m.unnumbered = k.unnumbered) :
    (c.rollback m).Alike (d.rollback k) := by
  obtain ⟨hplace, hcount, -, -⟩ := Marker.unnumbered_eq_iff.mp hm
  refine ⟨h.stream, hplace, ?_⟩
  show c.nodes.shrink m.nodeCount = d.nodes.shrink k.nodeCount
  rw [h.nodes, hcount]

theorem nodeFrom (h : c.Alike d) (hm : m.unnumbered = k.unnumbered) (kind : NodeKind)
    (collapsed : Bool) : c.nodeFrom m kind collapsed = d.nodeFrom k kind collapsed := by
  obtain ⟨hplace, -, hleft, hright⟩ := Marker.unnumbered_eq_iff.mp hm
  simp only [Cursor.nodeFrom, h.stream, h.place, hplace, hleft, hright]

theorem finish (h : c.Alike d) (hm : m.unnumbered = k.unnumbered) (kind : NodeKind)
    (collapsed : Bool) : (c.finish m kind collapsed).Alike (d.finish k kind collapsed) := by
  obtain ⟨-, hcount, -, -⟩ := Marker.unnumbered_eq_iff.mp hm
  refine ⟨h.stream, h.place, ?_⟩
  simp only [Cursor.finish, Cursor.release, h.nodeFrom hm, h.nodes, hcount]

theorem reportFailure (h : c.Alike d) (result : SearchResult) :
    (c.reportFailure result).Alike (d.reportFailure result) := by
  cases result with
  | ok _ => exact h
  | error e => exact ⟨h.stream, h.place, h.nodes⟩

theorem balanced (h : c.Alike d) (opener closer : TokenKind) :
    (c.balanced opener closer).1 = (d.balanced opener closer).1 ∧
      (c.balanced opener closer).2.Alike (d.balanced opener closer).2 := by
  unfold Cursor.balanced
  rw [h.current]
  split
  · refine ⟨?_, h.stream, h.place, ?_⟩
    · show (if (c.stream.seekBalance opener closer 1 c.place).1 then Except.ok () else
          .error (SearchError.unbalanced opener closer)) =
        if (d.stream.seekBalance opener closer 1 d.place).1 then .ok () else
          .error (.unbalanced opener closer)
      rw [h.stream, h.place]
    · show c.nodes.shrink c.nodes.size = d.nodes.shrink d.nodes.size
      rw [h.nodes]
  · exact ⟨rfl, h⟩

theorem seekEnd (h : c.Alike d) (level : Nat) (construct : Construct) (advanced : Bool) :
    (c.seekEnd level construct advanced).1 = (d.seekEnd level construct advanced).1 ∧
      (c.seekEnd level construct advanced).2.Alike (d.seekEnd level construct advanced).2 := by
  refine ⟨?_, h.stream, ?_, h.nodes⟩
  · simp only [Cursor.seekEnd_eq, h.stream, h.place]
  · simp only [Cursor.seekEnd_eq, h.stream, h.place]

theorem seekBlockEnd (h : c.Alike d) (level : Nat) (opener : TokenKind) (advanced : Bool) :
    (c.seekBlockEnd level opener advanced).1 = (d.seekBlockEnd level opener advanced).1 ∧
      (c.seekBlockEnd level opener advanced).2.Alike
        (d.seekBlockEnd level opener advanced).2 := by
  refine ⟨?_, h.stream, ?_, h.nodes⟩
  · simp only [Cursor.seekBlockEnd_eq, h.stream, h.place]
  · simp only [Cursor.seekBlockEnd_eq, h.stream, h.place]

theorem foldBody (h : c.Alike d) :
    c.foldBody.1 = d.foldBody.1 ∧ c.foldBody.2.Alike d.foldBody.2 := by
  unfold Cursor.foldBody
  rw [h.stream, h.place]
  cases d.stream.kindBefore? d.place.index with
  | none => exact ⟨rfl, h⟩
  | some kind =>
    obtain ⟨hresult, hseek⟩ := h.mark.seekBlockEnd 0 (bodyOpener kind) true
    have hmarker : (c.mark.1.withEdges .inside .inside).unnumbered =
        (d.mark.1.withEdges .inside .inside).unnumbered :=
      congrArg (Marker.withEdges · .inside .inside) h.unnumbered_mark
    refine ⟨rfl, ?_⟩
    dsimp only
    rw [hresult]
    exact (hseek.reportFailure _).finish hmarker .block true

end Alike

theorem alike_mark (c : Cursor) : c.Alike c.mark.2 :=
  ⟨rfl, rfl, rfl⟩

/-- A rule that goes to `last` the first time and stays where it is from then on. -/
def goOnce (matched : Bool) (last : Cursor) (_level : Nat) (c : Cursor) (first : Bool) :
    Id (Bool × Cursor × Bool) :=
  return (matched, if first then last else c, false)

theorem applyTimes_goOnce_false (last c : Cursor) (level times : Nat) :
    applyTimes (goOnce true last level) times c false = (true, c, false) := by
  induction times with
  | zero => rfl
  | succ times ih => exact ih

theorem exists_applyTimes_goOnce {matched : Bool} {last c : Cursor} (level : Nat) {times : Nat}
    (h : times = 0 → matched = true ∧ last = c) :
    ∃ memory, applyTimes (goOnce matched last level) times c true = (matched, last, memory) := by
  cases times with
  | zero =>
    obtain ⟨rfl, rfl⟩ := h rfl
    exact ⟨true, rfl⟩
  | succ times =>
    refine ⟨false, ?_⟩
    cases matched with
    | false => rfl
    | true => exact applyTimes_goOnce_false last last level times

end Cursor

namespace Client

/-- Equal up to the numbers of markers and the log. -/
structure Alike (a b : Client) : Prop where
  cursor : a.cursor.Alike b.cursor
  held : a.held.map Marker.unnumbered = b.held.map Marker.unnumbered

/-- A marker that one client holds is at the same place among those that the other one holds. -/
theorem Alike.exists_split {c : Cursor} {inner outer : List Marker} {m : Marker} {n : Nat}
    {b : Client} (h : Alike ⟨c, inner ++ m :: outer, n⟩ b) :
    ∃ inner' m' outer', b = ⟨b.cursor, inner' ++ m' :: outer', b.taken⟩ ∧
      inner.length = inner'.length ∧ m.unnumbered = m'.unnumbered ∧
      inner.map Marker.unnumbered = inner'.map Marker.unnumbered ∧
      outer.map Marker.unnumbered = outer'.map Marker.unnumbered := by
  obtain ⟨d, held, k⟩ := b
  have hheld : (inner ++ m :: outer).map Marker.unnumbered = held.map Marker.unnumbered := h.held
  rw [List.map_append, List.map_cons] at hheld
  obtain ⟨inner', rest, rfl, hinner, hrest⟩ := List.map_eq_append_iff.mp hheld.symm
  obtain ⟨m', outer', rfl, hm, houter⟩ := List.map_eq_cons_iff.mp hrest
  have hlength := congrArg List.length hinner
  rw [List.length_map, List.length_map] at hlength
  exact ⟨inner', m', outer', rfl, hlength.symm, hm.symm, hinner.symm, houter.symm⟩

/-! ### One operation of both clients -/

/-- `FollowedBy a act a' b` says that the operation `act`, which takes one client from `a` to `a'`,
takes the client `b` to one that is like `a'` again, with as many markers taken on the way. -/
def FollowedBy (a : Client) (act : Act) (a' b : Client) : Prop :=
  ∃ b', Step b act b' ∧ Alike a' b' ∧ b'.taken + a.taken = b.taken + a'.taken

section Follow

variable {c d : Cursor} {inner outer held : List Marker} {m : Marker} {n k k' : Nat} {b : Client}

theorem followedBy_mark (h : Alike ⟨c, held, n⟩ b) :
    FollowedBy ⟨c, held, n⟩ .mark ⟨c.mark.2, c.mark.1 :: held, n + 1⟩ b := by
  refine ⟨_, .mark b.cursor b.held b.taken, ⟨h.cursor.mark, ?_⟩, Nat.add_right_comm _ 1 n⟩
  simp only [List.map_cons, h.cursor.unnumbered_mark, h.held]

theorem followedBy_setEdges (h : Alike ⟨c, inner ++ m :: outer, n⟩ b) (left right : EdgeTrivia) :
    FollowedBy ⟨c, inner ++ m :: outer, n⟩ (.setEdges inner.length left right)
      ⟨c, inner ++ m.withEdges left right :: outer, n⟩ b := by
  obtain ⟨inner', m', outer', hb, hlength, hm, hinner, houter⟩ := h.exists_split
  have hedges : (m.withEdges left right).unnumbered = (m'.withEdges left right).unnumbered :=
    congrArg (Marker.withEdges · left right) hm
  rw [hb, hlength]
  refine ⟨_, .setEdges b.cursor inner' m' outer' b.taken left right, ⟨h.cursor, ?_⟩, rfl⟩
  simp only [List.map_append, List.map_cons, hinner, houter, hedges]

/-- The operations that close a marker differ in what they do with the cursor. -/
theorem followedBy_close (close : Cursor → Marker → Cursor) (act : Nat → Act)
    (hstep : ∀ c inner m outer n,
      Step ⟨c, inner ++ m :: outer, n⟩ (act inner.length) ⟨close c m, inner ++ outer, n⟩)
    (hclose : ∀ {d m'}, c.Alike d → m.unnumbered = m'.unnumbered → (close c m).Alike (close d m'))
    (h : Alike ⟨c, inner ++ m :: outer, n⟩ b) :
    FollowedBy ⟨c, inner ++ m :: outer, n⟩ (act inner.length) ⟨close c m, inner ++ outer, n⟩ b := by
  obtain ⟨inner', m', outer', hb, hlength, hm, hinner, houter⟩ := h.exists_split
  rw [hb, hlength]
  refine ⟨_, hstep b.cursor inner' m' outer' b.taken, ⟨hclose h.cursor hm, ?_⟩, rfl⟩
  simp only [List.map_append, hinner, houter]

theorem followedBy_balanced (h : Alike ⟨c, held, n⟩ b) (opener closer : TokenKind) :
    FollowedBy ⟨c, held, n⟩ (.balanced opener closer (c.balanced opener closer).1)
      ⟨(c.balanced opener closer).2, held, if c.current = opener then n + 1 else n⟩ b := by
  obtain ⟨hresult, hcursor⟩ := h.cursor.balanced opener closer
  have hcurrent : c.current = b.cursor.current := h.cursor.current
  rw [hresult]
  refine ⟨_, .balanced b.cursor b.held b.taken opener closer, ⟨hcursor, h.held⟩, ?_⟩
  simp only [hcurrent]
  split <;> omega

theorem followedBy_foldBody (h : Alike ⟨c, held, n⟩ b) :
    FollowedBy ⟨c, held, n⟩ (.foldBody c.foldBody.1)
      ⟨c.foldBody.2, held, if (c.stream.kindBefore? c.place.index).isSome then n + 1 else n⟩ b := by
  obtain ⟨hresult, hcursor⟩ := h.cursor.foldBody
  have hstream : c.stream = b.cursor.stream := h.cursor.stream
  have hplace : c.place = b.cursor.place := h.cursor.place
  rw [hresult]
  refine ⟨_, .foldBody b.cursor b.held b.taken, ⟨hcursor, h.held⟩, ?_⟩
  simp only [hstream, hplace]
  split <;> omega

/-- Whatever run there is, some rule does just that when it is probed with. -/
theorem Step.probe_of_run {last : Cursor} {level times : Nat} {inside : List Act} {matched : Bool}
    (held : List Marker) (hrun : Run ⟨d.mark.2, [], k + 1⟩ inside ⟨last, [], k'⟩)
    (hidle : times = 0 → inside = []) (hmatched : times = 0 → matched = true) :
    Step ⟨d, held, k⟩ (.probe level times inside matched) ⟨last.rollback d.mark.1, held, k'⟩ := by
  have hlast : times = 0 → matched = true ∧ last = d.mark.2 := by
    intro htimes
    obtain rfl := hidle htimes
    cases hrun
    exact ⟨hmatched htimes, rfl⟩
  obtain ⟨memory, happlied⟩ := Cursor.exists_applyTimes_goOnce level hlast
  exact .probe held happlied hrun hidle (Cursor.probe_off_eq happlied)

end Follow

mutual

/-- An operation of a client is one of every client that is like it. -/
theorem Step.follow {a a' b : Client} {act : Act} :
    Step a act a' → Alike a b → FollowedBy a act a' b
  | .advance _ _ _, h =>
    ⟨_, .advance b.cursor b.held b.taken, ⟨h.cursor.advance, h.held⟩, rfl⟩
  | .mark _ _ _, h => followedBy_mark h
  | .setEdges _ _ _ _ _ left right, h => followedBy_setEdges h left right
  | .rollback _ _ _ _ _, h => followedBy_close Cursor.rollback .rollback Step.rollback .rollback h
  | .release _ _ _ _ _, h => followedBy_close Cursor.release .release Step.release (fun hc _ => hc.release) h
  | .finish _ _ _ _ _ kind collapsed, h =>
    followedBy_close (fun c m => c.finish m kind collapsed) (.finish · kind collapsed)
      (fun c inner m outer n => .finish c inner m outer n kind collapsed)
      (fun hc hm => hc.finish hm kind collapsed) h
  | .balanced _ _ _ opener closer, h => followedBy_balanced h opener closer
  | .seekBlockEnd _ _ _ level opener advanced, h => by
    obtain ⟨hresult, hcursor⟩ := h.cursor.seekBlockEnd level opener advanced
    rw [hresult]
    exact ⟨_, .seekBlockEnd b.cursor b.held b.taken level opener advanced, ⟨hcursor, h.held⟩, rfl⟩
  | .seekEnd _ _ _ level construct advanced, h => by
    obtain ⟨hresult, hcursor⟩ := h.cursor.seekEnd level construct advanced
    rw [hresult]
    exact ⟨_, .seekEnd b.cursor b.held b.taken level construct advanced, ⟨hcursor, h.held⟩, rfl⟩
  | .foldBody _ _ _, h => followedBy_foldBody h
  | @Step.probe _ _ c last _ _ _ level times n n' matched _ held applied run idle probed, h => by
    obtain rfl := Cursor.eq_rollback_of_probe applied probed
    have halike : Alike ⟨c.mark.2, [], n + 1⟩ ⟨b.cursor.mark.2, [], b.taken + 1⟩ :=
      ⟨h.cursor.mark, rfl⟩
    obtain ⟨⟨last', held', k'⟩, hrun, hlast, hcount⟩ := run.follow halike
    obtain rfl : held' = [] := List.map_eq_nil_iff.mp hlast.held.symm
    have hmatched : times = 0 → matched = true := by
      rintro rfl
      cases applied
      rfl
    refine ⟨_, .probe_of_run b.held hrun idle hmatched,
      ⟨hlast.cursor.rollback h.cursor.unnumbered_mark, h.held⟩, ?_⟩
    simp only at hcount ⊢
    omega

theorem Run.follow {a a' b : Client} {acts : List Act} : Run a acts a' → Alike a b →
    ∃ b', Run b acts b' ∧ Alike a' b' ∧ b'.taken + a.taken = b.taken + a'.taken
  | .nil _, h => ⟨b, .nil b, h, rfl⟩
  | .cons head tail, h => by
    obtain ⟨b₁, hstep, h₁, hcount₁⟩ := head.follow h
    obtain ⟨b₂, hrun, h₂, hcount₂⟩ := tail.follow h₁
    exact ⟨b₂, .cons hstep hrun, h₂, by omega⟩

end

end Client

end LuaFold
