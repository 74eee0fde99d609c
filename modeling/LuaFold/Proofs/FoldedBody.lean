import LuaFold.Block.Fold
import LuaFold.Proofs.BlockStack
import LuaFold.Proofs.Tiling

/-! The block that a folded body becomes. It starts right after the token that was consumed last,
and takes in everything up to the place where the search for the end of the body stops. -/

namespace LuaFold

namespace TokenStream

variable {s : TokenStream} {p : Place}

/-- The block of the tokens from `start` up to `stop`, with the text between them. -/
def foldedBlock (s : TokenStream) (start stop : Nat) : Node :=
  ⟨.block, true, start, stop, .ofOffsets (s.offsetAt start) (s.offsetAt stop)⟩

/-- The block of the tokens from `start` up to `stop`, from where the first one begins to where the
last one ends. -/
def blockOver (s : TokenStream) (start stop : Nat) : Node :=
  let first := s.offsetAt start
  let last :=
    if start < stop then
      match s.tokens[stop - 1]? with
      | some t => t.span.stop
      | none => first
    else first
  ⟨.block, true, start, stop, .ofOffsets first last⟩

/-- Where tokens leave no gaps, the last one ends where the next one starts. -/
theorem Tiled.blockOver_eq_foldedBlock (h : s.Tiled) {start stop : Nat} (hle : start ≤ stop)
    (hstop : stop ≤ s.tokens.size) : s.blockOver start stop = s.foldedBlock start stop := by
  by_cases hlt : start < stop
  · obtain ⟨last, rfl⟩ : ∃ last, stop = last + 1 := ⟨stop - 1, by omega⟩
    have ht := Array.getElem?_eq_getElem (show last < s.tokens.size by omega)
    simp only [blockOver, foldedBlock, if_pos hlt, Nat.add_sub_cancel, ht, h.offsetAt_succ ht]
  · obtain rfl : start = stop := by omega
    simp only [blockOver, foldedBlock, if_neg hlt]

theorem seekEnd_eq_skip (s : TokenStream) (level : Nat) (construct : Construct) (advanced : Bool)
    (p : Place) : ∃ n, (s.seekEnd level construct advanced p).2 = s.skip n p := by
  rw [seekEnd_eq]
  rw [BlockStack.search_eq_run]
  cases advanced with
  | true => exact BlockStack.run_eq_skip s level ⟨construct, []⟩ p
  | false =>
    obtain ⟨n, hn⟩ := BlockStack.run_eq_skip s level ⟨construct, []⟩ (s.advance p)
    exact ⟨n + 1, hn⟩

theorem seekBlockEnd_eq_skip (s : TokenStream) (level : Nat) (opener : TokenKind)
    (advanced : Bool) (p : Place) :
    ∃ n, (s.seekBlockEnd level opener advanced p).2 = s.skip n p := by
  rw [seekBlockEnd_eq]
  split
  · exact s.seekEnd_eq_skip level _ advanced p
  · exact ⟨0, rfl⟩

theorem length_kinds {i j : Nat} (hj : j ≤ s.tokens.size) : (s.kinds i j).length = j - i := by
  rw [kinds, List.length_map, Array.length_toList, Array.size_extract, Nat.min_eq_left hj]

namespace IsPlace

theorem triviaStart_index (h : s.IsPlace p) : s.triviaStart p.index = p.consumed := by
  rw [h.index_eq, triviaStart_skipTrivia]
  cases hc : p.consumed with
  | zero => rfl
  | succ i =>
    obtain ⟨t, ht, htrivia⟩ := h.consumed i hc
    exact triviaStart_of_not_isTrivia ht htrivia

theorem kindBefore?_of_consumed_eq_zero (h : s.IsPlace p) (hc : p.consumed = 0) :
    s.kindBefore? p.index = none := by
  rw [h.index_eq, kindBefore?_skipTrivia, hc]
  rfl

theorem kindBefore?_of_consumed_eq_succ (h : s.IsPlace p) {i : Nat} (hc : p.consumed = i + 1)
    {t : Token} (ht : s.tokens[i]? = some t) : s.kindBefore? p.index = some t.kind := by
  obtain ⟨t', ht', htrivia⟩ := h.consumed i hc
  obtain rfl : t' = t := Option.some.inj (ht'.symm.trans ht)
  rw [h.index_eq, kindBefore?_skipTrivia, hc, kindBefore?_of_not_isTrivia ht htrivia]

/-- From one place to a later one, the trivia after the last token consumed ends at the later one.
If nothing was consumed, the two are the same. -/
theorem trivia_after_skip (h : s.IsPlace p) (n : Nat) :
    let q := s.skip n p
    let stop := max q.consumed p.index
    stop ≤ q.index ∧ (if p.index < stop then s.skipTrivia stop else stop) = q.index := by
  intro q stop
  have hq : s.IsPlace q := h.skip n
  have hle := hq.consumed_le_index
  rcases s.skip_eq_or_lt_consumed n p with heq | hlt
  · have hqp : q = p := heq
    have hstop : stop = q.index := by
      rw [hqp] at hle
      simp only [stop, hqp]
      omega
    rw [hstop, hqp, if_neg (Nat.lt_irrefl _)]
    exact ⟨Nat.le_refl _, rfl⟩
  · have hstop : stop = q.consumed := Nat.max_eq_left (Nat.le_of_lt hlt)
    have hlt' : p.index < q.consumed := hlt
    rw [hstop, if_pos hlt', ← hq.index_eq]
    exact ⟨hle, rfl⟩

end IsPlace

end TokenStream

namespace Cursor

/-- A node with all the trivia around it, over the tokens from a marker to the cursor. -/
theorem nodeFrom_inside {c : Cursor} {m : Marker} (kind : NodeKind) (collapsed : Bool)
    (hm : c.stream.IsPlace m.place) (hplace : ∃ n, c.place = c.stream.skip n m.place)
    (hleft : m.left = .inside) (hright : m.right = .inside) :
    c.nodeFrom m kind collapsed =
      { c.stream.blockOver m.place.consumed c.place.index with kind, collapsed } := by
  obtain ⟨n, hn⟩ := hplace
  have hc : c.stream.IsPlace c.place := hn ▸ hm.skip n
  have hstart : min m.place.index c.stream.tokens.size = m.place.index :=
    Nat.min_eq_left hm.index_le_size
  obtain ⟨hle, hstop⟩ := hm.trivia_after_skip n
  rw [← hn] at hle hstop
  have htrivia := TokenStream.length_kinds (i := max c.place.consumed m.place.index)
    hc.index_le_size
  have hend := Nat.add_sub_cancel' hle
  simp only [nodeFrom, hstart, hstop, hm.triviaStart_index, hleft, hright,
    EdgeTrivia.cutBefore, EdgeTrivia.cutAfter, htrivia, hend, Nat.add_zero]
  rfl

theorem nodes_reportFailure (c : Cursor) (result : SearchResult) :
    (c.reportFailure result).nodes = c.nodes := by
  cases result <;> rfl

theorem nodes_finish_collapsed (c : Cursor) (m : Marker) (kind : NodeKind) :
    (c.finish m kind true).nodes = (c.nodes.shrink m.nodeCount).push (c.nodeFrom m kind true) :=
  rfl

theorem foldBody_of_consumed_eq_zero {c : Cursor} (hc : c.stream.IsPlace c.place)
    (hzero : c.place.consumed = 0) : c.foldBody = (true, c) := by
  simp only [foldBody, hc.kindBefore?_of_consumed_eq_zero hzero]

theorem place_foldBody {c : Cursor} (hc : c.stream.IsPlace c.place) {i : Nat}
    (hi : c.place.consumed = i + 1) {t : Token} (ht : c.stream.tokens[i]? = some t) :
    c.foldBody.2.place = (c.stream.seekBlockEnd 0 (bodyOpener t.kind) true c.place).2 := by
  simp only [foldBody, hc.kindBefore?_of_consumed_eq_succ hi ht]
  exact place_reportFailure _ _

/-- Folding adds one block, from the token after the opener to the place where the search stops. -/
theorem nodes_foldBody_eq_blockOver {c : Cursor} (hc : c.stream.IsPlace c.place) {i : Nat}
    (hi : c.place.consumed = i + 1) {t : Token} (ht : c.stream.tokens[i]? = some t) :
    c.foldBody.2.nodes =
      c.nodes.push (c.stream.blockOver (i + 1) c.foldBody.2.place.index) := by
  rw [place_foldBody hc hi ht]
  simp only [foldBody, hc.kindBefore?_of_consumed_eq_succ hi ht]
  obtain ⟨n, hn⟩ := c.stream.seekBlockEnd_eq_skip 0 (bodyOpener t.kind) true c.place
  rcases hq : c.stream.seekBlockEnd 0 (bodyOpener t.kind) true c.place with ⟨result, q⟩
  obtain rfl : q = c.stream.skip n c.place := by rw [← hn, hq]
  simp only [seekBlockEnd_eq, mark, hq]
  rw [nodes_finish_collapsed, nodes_reportFailure, nodeFrom_inside]
  · have hnodes : c.nodes.shrink c.nodes.size = c.nodes := by simp
    show (c.nodes.shrink c.nodes.size).push _ = _
    rw [hnodes, stream_reportFailure, place_reportFailure]
    show c.nodes.push (c.stream.blockOver c.place.consumed (c.stream.skip n c.place).index) = _
    rw [hi]
  · rwa [stream_reportFailure]
  · exact ⟨n, by rw [place_reportFailure, stream_reportFailure]; rfl⟩
  · rfl
  · rfl

theorem nodes_foldBody {c : Cursor} (htiled : c.stream.Tiled) (hc : c.stream.IsPlace c.place)
    {i : Nat} (hi : c.place.consumed = i + 1) {t : Token} (ht : c.stream.tokens[i]? = some t) :
    c.foldBody.2.nodes =
      c.nodes.push (c.stream.foldedBlock (i + 1) c.foldBody.2.place.index) := by
  have hle : i + 1 ≤ c.foldBody.2.place.index := by
    have hconsumed := hc.consumed_le_index
    have hfold := c.index_le_foldBody
    omega
  have hsize : c.foldBody.2.place.index ≤ c.stream.tokens.size := by
    obtain ⟨n, hn⟩ := c.stream.seekBlockEnd_eq_skip 0 (bodyOpener t.kind) true c.place
    rw [place_foldBody hc hi ht, hn]
    exact (hc.skip n).index_le_size
  rw [nodes_foldBody_eq_blockOver hc hi ht, htiled.blockOver_eq_foldedBlock hle hsize]

end Cursor

end LuaFold
