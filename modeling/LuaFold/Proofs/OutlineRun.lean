import LuaFold.Outline
import LuaFold.Proofs.FoldedBody

/-! The run of an outline over any tokens, well-formed or not: what its steps preserve, and the form
of the nodes that it makes. -/

namespace LuaFold

namespace Cursor

theorem outlineFrom_of_atEnd {c : Cursor} (header : Header) (h : c.atEnd = true) :
    c.outlineFrom header = c := by
  rw [outlineFrom, dif_pos h]

theorem outlineFrom_of_not_atEnd {c : Cursor} (header : Header) (h : c.atEnd = false) :
    c.outlineFrom header = (c.outlineStep header).2.outlineFrom (c.outlineStep header).1 := by
  rw [outlineFrom, dif_neg (by simp [h])]

/-- What every step of an outline preserves holds when no token is left. -/
theorem outlineFrom_induction {motive : Header → Cursor → Prop}
    (step : ∀ header c, c.atEnd = false → motive header c →
      motive (c.outlineStep header).1 (c.outlineStep header).2)
    {header : Header} {c : Cursor} (h : motive header c) :
    ∃ header', motive header' (c.outlineFrom header) ∧ (c.outlineFrom header).atEnd = true := by
  fun_induction outlineFrom header c with
  | case1 header c hend => exact ⟨header, h, hend⟩
  | case2 header c hend _ _ _ ih => exact ih (step header c (by simpa using hend) h)

/-- After one token, the last token consumed is the one that was under the cursor. -/
theorem exists_consumed_advance {c : Cursor} (h : c.atEnd = false) :
    ∃ t, c.stream.tokens[c.place.index]? = some t ∧ c.current = t.kind ∧
      c.advance.place.consumed = c.place.index + 1 := by
  have ht := Array.getElem?_eq_getElem (TokenStream.index_lt_size h)
  exact ⟨_, ht, TokenStream.current_of_getElem? ht,
    congrArg Place.consumed (TokenStream.advance_of_not_atEnd h)⟩

theorem outlineStep_of_not_opens {header : Header} {c : Cursor}
    (h : (header.step c.current).2 = false) :
    c.outlineStep header = ((header.step c.current).1, c.advance) := by
  simp only [outlineStep, h, Bool.false_eq_true, if_false]

theorem outlineStep_of_opens {header : Header} {c : Cursor}
    (h : (header.step c.current).2 = true) :
    c.outlineStep header = ((header.step c.current).1, c.advance.foldBody.2) := by
  simp only [outlineStep, h, if_true]

theorem index_lt_foldBody_advance {c : Cursor} (h : c.atEnd = false) :
    c.place.index < c.advance.foldBody.2.place.index :=
  Nat.lt_of_lt_of_le (TokenStream.index_lt_advance h) c.advance.index_le_foldBody

/-- The search for the end of a body starts after the token that the body starts after. -/
theorem place_foldBody_advance {c : Cursor} (hc : c.stream.IsPlace c.place)
    (hend : c.atEnd = false) :
    c.advance.foldBody.2.place =
      (c.stream.seekBlockEnd 0 (bodyOpener c.current) true c.advance.place).2 := by
  obtain ⟨t, ht, hkind, hconsumed⟩ := exists_consumed_advance hend
  have hstart : c.advance.stream.IsPlace c.advance.place := hc.advance
  rw [hkind]
  exact place_foldBody hstart hconsumed ht

theorem nodes_foldBody_advance {c : Cursor} (hc : c.stream.IsPlace c.place)
    (hend : c.atEnd = false) :
    c.advance.foldBody.2.nodes =
      c.nodes.push (c.stream.blockOver (c.place.index + 1) c.advance.foldBody.2.place.index) := by
  obtain ⟨t, ht, -, hconsumed⟩ := exists_consumed_advance hend
  have hstart : c.advance.stream.IsPlace c.advance.place := hc.advance
  exact nodes_foldBody_eq_blockOver hstart hconsumed ht

theorem isPlace_foldBody_advance {c : Cursor} (hc : c.stream.IsPlace c.place)
    (hend : c.atEnd = false) : c.stream.IsPlace c.advance.foldBody.2.place := by
  obtain ⟨n, hn⟩ :=
    c.stream.seekBlockEnd_eq_skip 0 (bodyOpener c.current) true c.advance.place
  rw [place_foldBody_advance hc hend, hn]
  exact hc.advance.skip n

end Cursor

/-- The node is the block of tokens between a token and a later place. -/
def TokenStream.IsFolded (s : TokenStream) (n : Node) : Prop :=
  ∃ start stop, n = s.foldedBlock start stop ∧ 0 < start ∧ start ≤ stop ∧ stop ≤ s.tokens.size

/-- The state of a cursor in an outline of `s`. -/
structure Outlining (s : TokenStream) (c : Cursor) : Prop where
  stream : c.stream = s
  place : s.IsPlace c.place
  nodes : ∀ n ∈ c.nodes, s.IsFolded n

namespace Outlining

variable {s : TokenStream} {c : Cursor}

theorem ofStream (s : TokenStream) : Outlining s (.ofStream s) :=
  ⟨rfl, s.isPlace_first, fun _ hn => absurd hn (Array.not_mem_empty _)⟩

theorem advance (h : Outlining s c) : Outlining s c.advance := by
  obtain ⟨rfl, hplace, hnodes⟩ := h
  exact ⟨rfl, hplace.advance, hnodes⟩

theorem foldBody_advance (htiled : s.Tiled) (h : Outlining s c) (hend : c.atEnd = false) :
    Outlining s c.advance.foldBody.2 := by
  obtain ⟨rfl, hplace, hnodes⟩ := h
  have hstop := Cursor.isPlace_foldBody_advance hplace hend
  have hle : c.place.index + 1 ≤ c.advance.foldBody.2.place.index :=
    Cursor.index_lt_foldBody_advance hend
  refine ⟨c.advance.stream_foldBody, hstop, ?_⟩
  rw [Cursor.nodes_foldBody_advance hplace hend,
    htiled.blockOver_eq_foldedBlock hle hstop.index_le_size]
  intro n hn
  rcases Array.mem_push.mp hn with hn | rfl
  · exact hnodes n hn
  · exact ⟨_, _, rfl, Nat.succ_pos _, hle, hstop.index_le_size⟩

theorem step (htiled : s.Tiled) (header : Header) (hend : c.atEnd = false) (h : Outlining s c) :
    Outlining s (c.outlineStep header).2 := by
  simp only [Cursor.outlineStep]
  split
  · exact h.foldBody_advance htiled hend
  · exact h.advance

end Outlining

/-- Every node of an outline is a block that starts after some token. -/
theorem TokenStream.isFolded_of_mem_outline {s : TokenStream} (htiled : s.Tiled) {n : Node}
    (hn : n ∈ (Cursor.ofStream s).outline.nodes) : s.IsFolded n := by
  obtain ⟨_, hlast, -⟩ := Cursor.outlineFrom_induction
    (fun header _ hend h => Outlining.step htiled header hend h) (.ofStream s)
  exact hlast.nodes n hn

end LuaFold
