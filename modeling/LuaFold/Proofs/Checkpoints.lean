import LuaFold.Lexer.Basic
import LuaFold.Proofs.NodeForest

/-! The places of a cursor and its checkpoints. If the client closes the innermost marker first, the
cursor is always on a token that is not trivia or at the end, right after the trivia that follows
the last token consumed, and the markers that are open lie behind it in the order in which they were
taken. -/

namespace LuaFold

theorem TokenStream.IsPlace.consumed_mono {s : TokenStream} {p q : Place} (hp : s.IsPlace p)
    (hq : s.IsPlace q) (hle : p.index ≤ q.index) : p.consumed ≤ q.consumed := by
  by_contra hlt
  obtain ⟨i, hi⟩ : ∃ i, p.consumed = i + 1 := ⟨p.consumed - 1, by omega⟩
  obtain ⟨t, ht, hsignificant⟩ := hp.consumed i hi
  have hindex := hp.consumed_le_index
  -- the last token consumed at `p` would be among the trivia before `q`
  have htrivia := hq.isTrivia_of_lt (show q.consumed ≤ i by omega) (by omega) ht
  rw [hsignificant] at htrivia
  cases htrivia

/-- The marker `m` has recorded nothing beyond what the marker `later` has. -/
structure Marker.NoLater (m later : Marker) : Prop where
  index : m.place.index ≤ later.place.index
  consumed : m.place.consumed ≤ later.place.consumed
  nodeCount : m.nodeCount ≤ later.nodeCount

namespace Layered

variable {s : TokenStream} {stop : Nat} {nodes : List Node} {held : List Marker}

theorem behind (h : Layered s stop nodes held) :
    ∀ m ∈ held, m.place.index ≤ stop ∧ m.nodeCount ≤ nodes.length := by
  induction h with
  | bottom inside => exact List.forall_mem_nil _
  | @layer stop older newer m held below count le inside ih =>
    have hlength : older.length ≤ (older ++ newer).length := by simp
    intro m' hm'
    rcases List.mem_cons.mp hm' with rfl | hm'
    · exact ⟨le, Nat.le_trans (Nat.le_of_eq count) hlength⟩
    · obtain ⟨hindex, hcount⟩ := ih m' hm'
      exact ⟨Nat.le_trans hindex le, Nat.le_trans hcount hlength⟩

/-- The markers lie one behind the other, the newest one first. -/
theorem pairwise_noLater (h : Layered s stop nodes held) (hheld : ∀ m ∈ held, s.IsPlace m.place) :
    held.Pairwise fun later m => m.NoLater later := by
  induction h with
  | bottom inside => exact .nil
  | @layer stop older newer later held below count le inside ih =>
    obtain ⟨hlater, holder⟩ := List.forall_mem_cons.mp hheld
    refine List.pairwise_cons.mpr ⟨fun m hm => ?_, ih holder⟩
    obtain ⟨hindex, hcount⟩ := below.behind m hm
    exact ⟨hindex, (holder m hm).consumed_mono hlater hindex, by rwa [count]⟩

end Layered

namespace Client

variable {s : TokenStream} {a b : Client}

/-! ### The open markers -/

/-- The open markers of a cursor are markers that the client holds, whatever the order in which it
closes them. -/
theorem Move.openMarkers_sublist (h : Move a b)
    (ha : a.cursor.openMarkers.Sublist (a.held.map Marker.id)) :
    b.cursor.openMarkers.Sublist (b.held.map Marker.id) := by
  have close {c : Cursor} {inner outer : List Marker} {m : Marker}
      (h : c.openMarkers.Sublist ((inner ++ m :: outer).map Marker.id)) :
      (c.release m).openMarkers.Sublist ((inner ++ outer).map Marker.id) := by
    refine (h.filter (· != m.id)).trans ?_
    have hfilter : ((inner ++ m :: outer).map Marker.id).filter (· != m.id) =
        ((inner ++ outer).map Marker.id).filter (· != m.id) := by
      simp
    rw [hfilter]
    exact List.filter_sublist
  cases h with
  | advance c held n => exact ha
  | mark c held n => exact ha.cons_cons _
  | setEdges c inner m outer n left right => simpa [Marker.withEdges] using ha
  | rollback c inner m outer n => exact close ha
  | release c inner m outer n => exact close ha
  | finish c inner m outer n kind collapsed => exact close ha
  | report c result held n => cases result <;> exact ha

theorem Moves.openMarkers_sublist (h : Moves a b)
    (ha : a.cursor.openMarkers.Sublist (a.held.map Marker.id)) :
    b.cursor.openMarkers.Sublist (b.held.map Marker.id) := by
  induction h with
  | refl => exact ha
  | tail _ hmove ih => exact hmove.openMarkers_sublist ih

/-! ### Runs -/

/-- What always holds of a cursor in the stream `s` and of the markers that were taken from it and
not closed. -/
structure Consistent (s : TokenStream) (a : Client) : Prop where
  stream : a.cursor.stream = s
  index : a.cursor.place.index = s.tokens.size ∨
    ∃ t, s.tokens[a.cursor.place.index]? = some t ∧ t.isTrivia = false
  consumed_le : a.cursor.place.consumed ≤ a.cursor.place.index
  trivia : ∀ i, a.cursor.place.consumed ≤ i → i < a.cursor.place.index →
    ∃ t, s.tokens[i]? = some t ∧ t.isTrivia = true
  consumed : a.cursor.place.consumed = 0 ∨
    ∃ t, s.tokens[a.cursor.place.consumed - 1]? = some t ∧ t.isTrivia = false
  /-- The markers are in the order of taking, the newest one first. -/
  order : a.held.Pairwise fun later m => m.NoLater later
  behind : ∀ m ∈ a.held, m.place.index ≤ a.cursor.place.index ∧
    m.place.consumed ≤ a.cursor.place.consumed ∧ m.nodeCount ≤ a.cursor.nodes.size
  openMarkers : a.cursor.openMarkers.Sublist (a.held.map Marker.id)
  /-- Until numbers run out, no marker is lost. -/
  numbers : a.taken ≤ UInt32.size → a.cursor.openMarkers = a.held.map Marker.id

/-- Whatever operations a client performs, searches, folds and probes among them, if it closes the
innermost marker first, then the cursor and the markers stay consistent. -/
theorem Run.consistent {acts : List Act} (h : Run (.ofStream s) acts b)
    (hacts : Act.AllInOrder acts) : Consistent s b := by
  have hgrown : Grown s b := (Grown.ofStream s).run h hacts
  obtain ⟨hstream, hplace, hheld⟩ := hgrown.placed
  refine ⟨hstream, ?_, hplace.consumed_le_index, ?_, ?_, hgrown.layers.pairwise_noLater hheld, ?_,
    h.moves.openMarkers_sublist (List.nil_sublist _), fun htaken => ?_⟩
  · rcases Nat.eq_or_lt_of_le hplace.index_le_size with heq | hlt
    · exact Or.inl heq
    · have ht := Array.getElem?_eq_getElem hlt
      exact Or.inr ⟨_, ht, hplace.not_isTrivia ht⟩
  · intro i hi hlt
    have ht := Array.getElem?_eq_getElem (Nat.lt_of_lt_of_le hlt hplace.index_le_size)
    exact ⟨_, ht, hplace.isTrivia_of_lt hi hlt ht⟩
  · cases hconsumed : b.cursor.place.consumed with
    | zero => exact Or.inl rfl
    | succ i => exact Or.inr (hplace.consumed i hconsumed)
  · intro m hm
    obtain ⟨hindex, hcount⟩ := hgrown.layers.behind m hm
    exact ⟨hindex, (hheld m hm).consumed_mono hplace hindex, hcount⟩
  · exact ((Numbered.ofStream s).moves h.moves htaken).stack

/-- The body of a loop is folded, and a step beyond it is taken back. Two older markers are open. -/
theorem consistent_after_fold :
    let s : TokenStream := ⟨"x do y end", lex .lua55 "x do y end"⟩
    let acts : List Act :=
      [.mark, .advance, .mark, .advance, .foldBody true, .mark, .advance, .rollback 0]
    ∃ b, Run (.ofStream s) acts b ∧ Act.AllInOrder acts ∧ b.cursor.place = ⟨6, 5⟩ ∧
      b.cursor.nodes.toList = [⟨.block, true, 3, 6, 4, 3⟩] ∧
      b.held.map (fun m => (m.place, m.nodeCount)) = [(⟨2, 1⟩, 0), (⟨0, 0⟩, 0)] ∧
      Consistent s b := by
  intro s acts
  let c₀ := Cursor.ofStream s
  let c₁ := c₀.mark.2.advance
  let c₂ := c₁.mark.2.advance
  let held := [c₁.mark.1, c₀.mark.1]
  let c₃ := c₂.foldBody.2
  let c₄ := c₃.mark.2.advance
  have hfold : Step ⟨c₂, held, 2⟩ (.foldBody true) ⟨c₃, held, 3⟩ := by
    have hresult : c₂.foldBody.1 = true := by decide +kernel
    have hopener : (c₂.stream.kindBefore? c₂.place.index).isSome = true := by decide +kernel
    have hstep := Step.foldBody c₂ held 2
    rwa [hresult, if_pos hopener] at hstep
  have hrun : Run (.ofStream s) acts ⟨c₄.rollback c₃.mark.1, held, 4⟩ :=
    .cons (.mark c₀ [] 0) <| .cons (.advance c₀.mark.2 [c₀.mark.1] 1) <|
      .cons (.mark c₁ [c₀.mark.1] 1) <| .cons (.advance c₁.mark.2 held 2) <| .cons hfold <|
      .cons (.mark c₃ held 3) <| .cons (.advance c₃.mark.2 (c₃.mark.1 :: held) 4) <|
      .cons (.rollback c₄ [] c₃.mark.1 held 4) <| .nil _
  have hacts : Act.AllInOrder acts := by simp [acts, Act.AllInOrder, Act.InOrder]
  exact ⟨_, hrun, hacts, by decide +kernel, by decide +kernel, by decide +kernel,
    hrun.consistent hacts⟩

end Client

end LuaFold
