import LuaFold.Proofs.FoldOutcome
import LuaFold.Proofs.RunInvariants

/-! What folding a body does to a cursor in any state that a client can bring it to, whether the end
of the body is found or not. -/

namespace LuaFold

namespace Client

/-- Folding does nothing where no token has been passed that is not trivia. Elsewhere it adds one
collapsed block, from the end of the last such token to the place where the search for the end of the
body stops, and leaves the open markers as they are unless numbers have run out. -/
theorem foldBody_effect {s : TokenStream} {history : List Act} {c : Cursor} {held : List Marker}
    {n : Nat} (htiled : s.Tiled) (hrun : Run (.ofStream s) history ⟨c, held, n⟩) :
    ((∀ j t, j < c.place.index → s.tokens[j]? = some t → t.isTrivia = true) ∧
        c.foldBody = (true, c)) ∨
      ∃ i t, s.LastBefore c.place.index i t ∧
        ∃ d block, c.foldBody = (true, d) ∧ d.stream = s ∧ d.nodes = c.nodes.push block ∧
          block.kind = .block ∧ block.collapsed = true ∧
          block.tokenStart = i + 1 ∧ block.tokenEnd = d.place.index ∧
          block.span.start = t.span.stop ∧ block.span.stop = s.offsetAt d.place.index ∧
          (n < UInt32.size → d.openMarkers = c.openMarkers) ∧
          (s.seekBlockEnd 0 (bodyOpener t.kind) true c.place).2 = d.place ∧
          s.FoldOutcome (bodyOpener t.kind) c.place d.place
            (s.seekBlockEnd 0 (bodyOpener t.kind) true c.place).1 := by
  have hplaced : Placed s ⟨c, held, n⟩ := (Placed.ofStream s).moves hrun.moves
  obtain rfl : c.stream = s := hplaced.stream
  have hplace : c.stream.IsPlace c.place := hplaced.place
  cases hconsumed : c.place.consumed with
  | zero =>
    left
    refine ⟨?_, Cursor.foldBody_of_consumed_eq_zero hplace hconsumed⟩
    intro j t hj ht
    exact hplace.isTrivia_of_lt (by omega) hj ht
  | succ i =>
    right
    obtain ⟨t, hlast⟩ := hplace.lastBefore hconsumed
    have ht := hlast.token
    have hopener := hplace.kindBefore?_of_consumed_eq_succ hconsumed ht
    have hstop := Cursor.place_foldBody hplace hconsumed ht
    have hle : i + 1 ≤ c.foldBody.2.place.index :=
      Nat.le_trans hlast.lt c.index_le_foldBody
    obtain ⟨hfrom, hto⟩ := htiled.span_foldedBlock ht hle
    refine ⟨i, t, hlast, c.foldBody.2, _, ?_, c.stream_foldBody,
      Cursor.nodes_foldBody htiled hplace hconsumed ht, rfl, rfl, rfl, rfl, hfrom, hto, ?_,
      hstop.symm, ?_⟩
    · simp only [Cursor.foldBody, hopener]
    · intro htaken
      have hnumbered : Numbered ⟨c, held, n⟩ :=
        (Numbered.ofStream c.stream).moves hrun.moves (Nat.le_of_lt htaken)
      have hleft : (if (c.stream.kindBefore? c.place.index).isSome then n + 1 else n) ≤ UInt32.size := by
        split <;> omega
      have hafter := hnumbered.moves (moves_foldBody c held n) hleft
      exact hafter.stack.trans hnumbered.stack.symm
    · rw [hstop]
      exact hplace.foldOutcome (bodyOpener t.kind)

/-- The client has gone back to the start once, and then past the opener of a loop without an end. -/
theorem foldBody_effect_unterminated :
    let s : TokenStream := ⟨"do x ",
      #[⟨.kwDo, 0, 2⟩, ⟨.whitespace, 2, 1⟩, ⟨.name, 3, 1⟩, ⟨.whitespace, 4, 1⟩]⟩
    let c := ((Cursor.ofStream s).mark.2.advance.advance.rollback (Cursor.ofStream s).mark.1).advance
    s.Tiled ∧ Run (.ofStream s) [.mark, .advance, .advance, .rollback 0, .advance] ⟨c, [], 1⟩ ∧
      c.foldBody.2.nodes.toList = [⟨.block, true, 1, 4, 2, 3⟩] ∧
      ∃ i t d block, s.LastBefore c.place.index i t ∧ c.foldBody = (true, d) ∧
        d.nodes = c.nodes.push block ∧ block.tokenStart = i + 1 ∧
        block.tokenEnd = d.place.index ∧ block.span.start = t.span.stop ∧
        block.span.stop = s.offsetAt d.place.index ∧ d.openMarkers = c.openMarkers := by
  intro s c
  let c₀ := Cursor.ofStream s
  have htiled : s.Tiled := by decide
  have hrun : Run (.ofStream s) [.mark, .advance, .advance, .rollback 0, .advance] ⟨c, [], 1⟩ :=
    .cons (.mark c₀ [] 0) <| .cons (.advance c₀.mark.2 [c₀.mark.1] 1) <|
      .cons (.advance c₀.mark.2.advance [c₀.mark.1] 1) <|
      .cons (.rollback c₀.mark.2.advance.advance [] c₀.mark.1 [] 1) <|
      .cons (.advance _ [] 1) <| .nil _
  refine ⟨htiled, hrun, by decide +kernel, ?_⟩
  rcases foldBody_effect htiled hrun with ⟨htrivia, -⟩ | heffect
  · exact absurd (htrivia 0 ⟨.kwDo, 0, 2⟩ (by decide +kernel) rfl) (by decide)
  · obtain ⟨i, t, hlast, d, block, hd, -, hnodes, -, -, hstart, hend, hfrom, hto, hopen, -⟩ :=
      heffect
    exact ⟨i, t, d, block, hlast, hd, hnodes, hstart, hend, hfrom, hto, hopen (by decide)⟩

end Client

end LuaFold
