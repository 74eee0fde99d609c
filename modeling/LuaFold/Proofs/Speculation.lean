import LuaFold.Proofs.Alike

/-! Speculation: a client takes a marker, does what it likes, and goes back to the marker. As long as
it closes no marker that it had before, this leaves no trace. -/

namespace LuaFold

/-- The marker with the edges that a marker is taken with. -/
def Marker.bare (m : Marker) : Marker :=
  m.withEdges default default

theorem Marker.bare_eq_iff {m k : Marker} :
    m.bare = k.bare ↔ m.id = k.id ∧ m.place = k.place ∧ m.nodeCount = k.nodeCount := by
  simp [bare, withEdges]

theorem Marker.map_id_of_map_bare {held held' : List Marker}
    (h : held.map Marker.bare = held'.map Marker.bare) :
    held.map Marker.id = held'.map Marker.id := by
  have hids := congrArg (List.map Marker.id) h
  rw [List.map_map, List.map_map] at hids
  exact hids

namespace Client

/-! ### Markers of one's own -/

/-- How many of the markers that were taken since some moment are held after an operation, if `own`
are held before it. There is no answer if the operation closes an older marker. -/
def Act.ownAfter (own : Nat) : Act → Option Nat
  | .mark => some (own + 1)
  | .rollback depth | .release depth | .finish depth _ _ =>
    if depth < own then some (own - 1) else none
  | _ => some own

/-- The operations close all markers that they take and no others. -/
def ClosesOwn (acts : List Act) : Prop :=
  acts.foldlM Act.ownAfter 0 = some 0

instance (acts : List Act) : Decidable (ClosesOwn acts) :=
  inferInstanceAs (Decidable (_ = _))

/-- A marker among `inner ++ outer` is one of `inner` or one of `outer`. -/
theorem eq_append_cons_of_append_eq {inner outer inner' outer' : List Marker} {m : Marker}
    (h : inner ++ outer = inner' ++ m :: outer') :
    (∃ mid, inner = inner' ++ m :: mid ∧ outer' = mid ++ outer) ∨
      ∃ mid, inner' = inner ++ mid ∧ outer = mid ++ m :: outer' := by
  rcases List.append_eq_append_iff.mp h with ⟨mid, rfl, rfl⟩ | ⟨mid, rfl, hmid⟩
  · exact .inr ⟨mid, rfl, rfl⟩
  · cases mid with
    | nil => exact .inr ⟨[], by simp, by simpa using hmid.symm⟩
    | cons m' mid =>
      obtain ⟨rfl, rfl⟩ := List.cons.inj hmid
      exact .inl ⟨mid, rfl, rfl⟩

/-- An operation that closes a marker and has an answer closes one of one's own. -/
theorem exists_own_of_close {inner outer inner' outer' : List Marker} {m : Marker} {own : Nat}
    (h : inner ++ outer = inner' ++ m :: outer')
    (hown : (if inner'.length < inner.length then some (inner.length - 1) else none) = some own) :
    ∃ mid, inner = inner' ++ m :: mid ∧ inner' ++ outer' = (inner' ++ mid) ++ outer ∧
      (inner' ++ mid).length = own := by
  obtain ⟨hlt, hown⟩ := Option.ite_none_right_eq_some.mp hown
  cases hown
  rcases eq_append_cons_of_append_eq h with ⟨mid, rfl, rfl⟩ | ⟨mid, rfl, -⟩
  · exact ⟨mid, rfl, (List.append_assoc inner' mid outer).symm, by simp⟩
  · rw [List.length_append] at hlt
    omega

/-- An operation that closes no older marker goes on among one's own. The older ones stay, up to their
edges. -/
theorem Step.apart {c : Cursor} {inner outer : List Marker} {n own : Nat} {act : Act} {b : Client}
    (h : Step ⟨c, inner ++ outer, n⟩ act b) (hown : act.ownAfter inner.length = some own) :
    ∃ inner' outer', b.held = inner' ++ outer' ∧ inner'.length = own ∧
      outer'.map Marker.bare = outer.map Marker.bare ∧
      Moves ⟨c, inner, n⟩ ⟨b.cursor, inner', b.taken⟩ := by
  generalize hheld : inner ++ outer = held at h
  cases h with
  | advance =>
    cases hown
    exact ⟨inner, outer, hheld.symm, rfl, rfl, .single (.advance c inner n)⟩
  | mark =>
    cases hown
    exact ⟨c.mark.1 :: inner, outer, by simp [hheld], rfl, rfl, .single (.mark c inner n)⟩
  | setEdges _ inner' m outer' _ left right =>
    cases hown
    rcases eq_append_cons_of_append_eq hheld with ⟨mid, rfl, rfl⟩ | ⟨mid, rfl, rfl⟩
    · refine ⟨inner' ++ m.withEdges left right :: mid, outer, by simp, by simp, rfl, ?_⟩
      exact .single (.setEdges c inner' m mid n left right)
    · refine ⟨inner, mid ++ m.withEdges left right :: outer', by simp, rfl, ?_, .refl⟩
      simp [Marker.bare, Marker.withEdges]
  | rollback _ inner' m outer' =>
    obtain ⟨mid, rfl, hsplit, hlength⟩ := exists_own_of_close hheld hown
    exact ⟨inner' ++ mid, outer, hsplit, hlength, rfl, .single (.rollback c inner' m mid n)⟩
  | release _ inner' m outer' =>
    obtain ⟨mid, rfl, hsplit, hlength⟩ := exists_own_of_close hheld hown
    exact ⟨inner' ++ mid, outer, hsplit, hlength, rfl, .single (.release c inner' m mid n)⟩
  | finish _ inner' m outer' _ kind collapsed =>
    obtain ⟨mid, rfl, hsplit, hlength⟩ := exists_own_of_close hheld hown
    exact ⟨inner' ++ mid, outer, hsplit, hlength, rfl,
      .single (.finish c inner' m mid n kind collapsed)⟩
  | balanced _ _ _ opener closer =>
    cases hown
    exact ⟨inner, outer, hheld.symm, rfl, rfl, moves_balanced c inner n opener closer⟩
  | seekBlockEnd _ _ _ level opener advanced =>
    cases hown
    exact ⟨inner, outer, hheld.symm, rfl, rfl, moves_seekBlockEnd c inner n level opener advanced⟩
  | seekEnd _ _ _ level construct advanced =>
    cases hown
    exact ⟨inner, outer, hheld.symm, rfl, rfl, moves_seekEnd c inner n level construct advanced⟩
  | foldBody =>
    cases hown
    exact ⟨inner, outer, hheld.symm, rfl, rfl, moves_foldBody c inner n⟩
  | probe _ applied run idle probed =>
    cases hown
    exact ⟨inner, outer, hheld.symm, rfl, rfl, (Step.probe inner applied run idle probed).moves⟩

theorem Run.apart {acts : List Act} {c : Cursor} {inner outer : List Marker} {n own : Nat}
    {b : Client} (h : Run ⟨c, inner ++ outer, n⟩ acts b)
    (hown : acts.foldlM Act.ownAfter inner.length = some own) :
    ∃ inner' outer', b.held = inner' ++ outer' ∧ inner'.length = own ∧
      outer'.map Marker.bare = outer.map Marker.bare ∧
      Moves ⟨c, inner, n⟩ ⟨b.cursor, inner', b.taken⟩ := by
  induction acts generalizing c inner outer n with
  | nil =>
    cases h
    cases hown
    exact ⟨inner, outer, rfl, rfl, rfl, .refl⟩
  | cons act acts ih =>
    cases h with
    | @cons _ a₁ _ _ _ head tail =>
      rw [List.foldlM_cons] at hown
      obtain ⟨own₁, hown₁, hrest⟩ := Option.bind_eq_some_iff.mp hown
      obtain ⟨inner₁, outer₁, hheld, rfl, hedges, hmoves⟩ := head.apart hown₁
      obtain ⟨c₁, held₁, n₁⟩ := a₁
      obtain rfl : held₁ = inner₁ ++ outer₁ := hheld
      obtain ⟨inner₂, outer₂, hheld₂, hlength, hedges₂, hmoves₂⟩ := ih tail hrest
      exact ⟨inner₂, outer₂, hheld₂, hlength, hedges₂.trans hedges, hmoves.trans hmoves₂⟩

/-! ### Going back -/

/-- Whatever `a` does, `b` does with the same results, as long as it has numbers left. The two agree on
which of the markers held is the innermost. -/
def Follows (b a : Client) : Prop :=
  ∀ acts a', Run a acts a' → a'.taken ≤ UInt32.size → b.taken + (a'.taken - a.taken) ≤ UInt32.size →
    ∃ b', Run b acts b' ∧ Alike a' b' ∧
      a'.cursor.openMarkers.length = b'.cursor.openMarkers.length ∧
      a'.held.map a'.cursor.isInnermost = b'.held.map b'.cursor.isInnermost

theorem follows_of_alike {a b : Client} (h : Alike a b) (ha : Numbered a) (hb : Numbered b) :
    Follows b a := by
  intro acts a' hrun htaken hleft
  have hle := hrun.moves.taken_le
  obtain ⟨b', hrun', halike, hcount⟩ := hrun.follow h
  have ha' : Numbered a' := ha.moves hrun.moves htaken
  have hb' : Numbered b' := hb.moves hrun'.moves (by omega)
  have hlength : a'.held.length = b'.held.length := by
    simpa using congrArg List.length halike.held
  refine ⟨b', hrun', halike, ?_, ?_⟩
  · rw [ha'.stack, hb'.stack, List.length_map, List.length_map, hlength]
  · rw [ha'.map_isInnermost, hb'.map_isInnermost, hlength]

/-- A client takes a marker, does anything that closes no older one, and goes back to the marker. The
marker is still there to go back to, and the cursor is where it was, with the nodes that it had. As
long as no number has been handed out twice, the marker is the innermost one, the open markers are the
ones that were open before, and all that the client can do from now on it could have done before, and
the other way round. -/
theorem rollback_restores {s : TokenStream} {history acts : List Act} {start last : Client}
    (hstart : Run (.ofStream s) history start)
    (hrun : Run ⟨start.cursor.mark.2, start.cursor.mark.1 :: start.held, start.taken + 1⟩ acts last)
    (hown : ClosesOwn acts) :
    ∃ m held, last.held = m :: held ∧ m.bare = start.cursor.mark.1.bare ∧
      held.map Marker.bare = start.held.map Marker.bare ∧
      (last.cursor.rollback m).Alike start.cursor ∧
      (last.taken ≤ UInt32.size →
        last.cursor.requireInnermost m = .ok () ∧
        (last.cursor.rollback m).openMarkers = start.cursor.openMarkers ∧
        Follows ⟨last.cursor.rollback m, held, last.taken⟩ ⟨start.cursor, held, start.taken⟩ ∧
        Follows ⟨start.cursor, held, start.taken⟩
          ⟨last.cursor.rollback m, held, last.taken⟩) := by
  obtain ⟨c, held₀, n⟩ := start
  have hrun' : Run ⟨c.mark.2, [] ++ c.mark.1 :: held₀, n + 1⟩ acts last := hrun
  obtain ⟨inner, outer, hheld, hinner, hedges, hmoves⟩ := hrun'.apart hown
  obtain rfl : inner = [] := List.length_eq_zero_iff.mp hinner
  obtain ⟨m, held, rfl, hm, hheld₀⟩ := List.map_eq_cons_iff.mp hedges
  obtain ⟨c', held', n'⟩ := last
  obtain rfl : held' = m :: held := hheld
  obtain ⟨hid, hplace, hcount⟩ := Marker.bare_eq_iff.mp hm
  have hall : Moves ⟨c, held₀, n⟩ ⟨c', m :: held, n'⟩ := .head (.mark c held₀ n) hrun.moves
  have hplaced : Placed s ⟨c, held₀, n⟩ := (Placed.ofStream s).moves hstart.moves
  -- among its own markers the client never goes back behind the nodes of the start
  have hkeeps : Keeps c.nodes ⟨c', [], n'⟩ :=
    Keeps.moves ⟨List.prefix_refl _, List.forall_mem_nil _⟩ hmoves
  have halike : (c'.rollback m).Alike c := by
    refine ⟨?_, hplace, ?_⟩
    · exact (hplaced.moves hall).stream.trans hplaced.stream.symm
    · show c'.nodes.shrink m.nodeCount = c.nodes
      rw [hcount]
      exact hkeeps.shrink_eq
  refine ⟨m, held, rfl, hm, hheld₀, halike, ?_⟩
  intro htaken
  have hle : n ≤ n' := hall.taken_le
  have hids : held.map Marker.id = held₀.map Marker.id := Marker.map_id_of_map_bare hheld₀
  -- numbers depend on all markers held, the older ones included
  have hnumbered : Numbered ⟨c, held₀, n⟩ :=
    (Numbered.ofStream s).moves hstart.moves (Nat.le_trans hle htaken)
  have hlast : Numbered ⟨c', m :: held, n'⟩ := hnumbered.moves hall htaken
  have hback : Numbered ⟨c'.rollback m, held, n'⟩ := hlast.move (.rollback c' [] m held n') htaken
  have hbefore : Numbered ⟨c, held, n⟩ := by
    refine ⟨hnumbered.next, hnumbered.stack.trans hids.symm, ?_, hids ▸ hnumbered.distinct⟩
    intro k hk
    have hmem : k.id ∈ held₀.map Marker.id := hids ▸ List.mem_map_of_mem hk
    obtain ⟨k₀, hk₀, hid⟩ := List.mem_map.mp hmem
    rw [← hid]
    exact hnumbered.below k₀ hk₀
  refine ⟨?_, ?_, ?_, ?_⟩
  · rw [Cursor.requireInnermost, if_pos hlast.isInnermost_eq_true]
  · exact hback.stack.trans (hids.trans hnumbered.stack.symm)
  · exact follows_of_alike ⟨halike.symm, rfl⟩ hbefore hback
  · exact follows_of_alike ⟨halike, rfl⟩ hback hbefore

/-- After a name has become a node, the body of a loop is folded on trial. -/
theorem rollback_restores_name :
    let s : TokenStream := ⟨"x do y end",
      #[⟨.name, 0, 1⟩, ⟨.whitespace, 1, 1⟩, ⟨.kwDo, 2, 2⟩, ⟨.whitespace, 4, 1⟩, ⟨.name, 5, 1⟩,
        ⟨.whitespace, 6, 1⟩, ⟨.kwEnd, 7, 3⟩]⟩
    let acts : List Act := [.mark, .advance, .setEdges 1 .inside .inside, .foldBody true, .release 0]
    ∃ start last : Client,
      Run (.ofStream s) [.mark, .advance, .finish 0 .nameExpr false] start ∧
      Run ⟨start.cursor.mark.2, start.cursor.mark.1 :: start.held, start.taken + 1⟩ acts last ∧
      ClosesOwn acts ∧
      start.cursor.nodes.toList = [⟨.nameExpr, false, 0, 1, 0, 1⟩] ∧
      last.cursor.nodes.toList = [⟨.nameExpr, false, 0, 1, 0, 1⟩, ⟨.block, true, 3, 6, 4, 3⟩] ∧
      ∃ m held, last.held = m :: held ∧
        (last.cursor.rollback m).nodes = start.cursor.nodes ∧
        (last.cursor.rollback m).place = start.cursor.place ∧
        (last.cursor.rollback m).openMarkers = start.cursor.openMarkers := by
  intro s acts
  let c := Cursor.ofStream s
  let c₁ := c.mark.2.advance.finish c.mark.1 .nameExpr false
  let start : Client := ⟨c₁, [], 1⟩
  have hstart : Run (.ofStream s) [.mark, .advance, .finish 0 .nameExpr false] start :=
    .cons (.mark c [] 0) <| .cons (.advance c.mark.2 [c.mark.1] 1) <|
      .cons (.finish c.mark.2.advance [] c.mark.1 [] 1 .nameExpr false) <| .nil start
  let c₂ := c₁.mark.2.mark.2.advance
  let m := c₁.mark.1.withEdges .inside .inside
  let last : Client := ⟨c₂.foldBody.2.release c₁.mark.2.mark.1, [m], 4⟩
  have hfold : Step ⟨c₂, [c₁.mark.2.mark.1, m], 3⟩ (.foldBody true)
      ⟨c₂.foldBody.2, [c₁.mark.2.mark.1, m], 4⟩ := by
    have hresult : c₂.foldBody.1 = true := by decide +kernel
    have hopener : (c₂.stream.kindBefore? c₂.place.index).isSome = true := by decide +kernel
    have hstep := Step.foldBody c₂ [c₁.mark.2.mark.1, m] 3
    rwa [hresult, if_pos hopener] at hstep
  have hrun : Run ⟨c₁.mark.2, [c₁.mark.1], 2⟩ acts last :=
    .cons (.mark c₁.mark.2 [c₁.mark.1] 2) <|
      .cons (.advance c₁.mark.2.mark.2 [c₁.mark.2.mark.1, c₁.mark.1] 3) <|
      .cons (.setEdges c₂ [c₁.mark.2.mark.1] c₁.mark.1 [] 3 .inside .inside) <|
      .cons hfold <| .cons (.release c₂.foldBody.2 [] c₁.mark.2.mark.1 [m] 4) <| .nil last
  have hown : ClosesOwn acts := by decide
  obtain ⟨m, held, hheld, -, -, hcursor, hnumbers⟩ := rollback_restores hstart hrun hown
  exact ⟨start, last, hstart, hrun, hown, by decide +kernel, by decide +kernel, m, held, hheld,
    hcursor.nodes, hcursor.place, (hnumbers (by decide)).2.1⟩

end Client

end LuaFold
