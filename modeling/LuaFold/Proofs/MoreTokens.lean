import LuaFold.Proofs.OutlineShape

/-! Outlines of the same tokens with and without more tokens after them. A search that succeeds has not
looked at what comes after the place where it stops. So a block that ends before the last of the tokens
is the same with more of them, and has the same number. -/

namespace LuaFold

namespace TokenStream

/-- The tokens of `s` come first in `s'`. The texts have no part in it. -/
def Extends (s' s : TokenStream) : Prop :=
  ∀ i < s.tokens.size, s'.tokens[i]? = s.tokens[i]?

namespace Extends

variable {s s' : TokenStream} {p q : Place}

theorem of_append (text text' : String) (tokens more : Array Token) :
    Extends ⟨text', tokens ++ more⟩ ⟨text, tokens⟩ :=
  fun _ hi => Array.getElem?_append_left hi

theorem getElem (h : s'.Extends s) {i : Nat} (hi : i < s.tokens.size) :
    ∃ hi' : i < s'.tokens.size, s'.tokens[i] = s.tokens[i] := by
  have htoken := h i hi
  rw [Array.getElem?_eq_getElem hi] at htoken
  exact Array.getElem?_eq_some_iff.mp htoken

/-! ### Places -/

theorem skipTrivia (h : s'.Extends s) {i : Nat} (hlt : s.skipTrivia i < s.tokens.size) :
    s'.skipTrivia i = s.skipTrivia i := by
  fun_induction TokenStream.skipTrivia s i with
  | case1 i hi ht ih =>
    obtain ⟨hi', htoken⟩ := h.getElem hi
    rw [TokenStream.skipTrivia, dif_pos hi', htoken, if_pos ht, ih hlt]
  | case2 i hi ht =>
    obtain ⟨hi', htoken⟩ := h.getElem hi
    rw [TokenStream.skipTrivia, dif_pos hi', htoken, if_neg ht]
  | case3 i hi => exact absurd hlt hi

theorem atEnd (h : s'.Extends s) (hp : s.atEnd p = false) : s'.atEnd p = false := by
  obtain ⟨hi', -⟩ := h.getElem (index_lt_size hp)
  simpa [TokenStream.atEnd] using hi'

theorem current (h : s'.Extends s) (hp : s.atEnd p = false) : s'.current p = s.current p := by
  rw [TokenStream.current, TokenStream.current, kindAt?, kindAt?, h _ (index_lt_size hp)]

theorem first (h : s'.Extends s) (hp : s.atEnd s.first = false) : s'.first = s.first := by
  have hlt : s.skipTrivia 0 < s.tokens.size := index_lt_size hp
  rw [TokenStream.first, TokenStream.first, h.skipTrivia hlt]

theorem advance (h : s'.Extends s) (hp : s.atEnd (s.advance p) = false) :
    s'.advance p = s.advance p := by
  have hend : s.atEnd p = false := by
    cases hend : s.atEnd p with
    | true => rwa [advance_of_atEnd hend, hend] at hp
    | false => rfl
  have hlt := index_lt_size hp
  rw [advance_of_not_atEnd hend] at hlt ⊢
  rw [advance_of_not_atEnd (h.atEnd hend), h.skipTrivia hlt]

/-! ### Searches -/

theorem run (h : s'.Extends s) {st : BlockStack} (hrun : BlockStack.run s 0 st p = (.ok (), q)) :
    BlockStack.run s' 0 st p = (.ok (), q) := by
  induction p using s.forward_induction generalizing st with
  | step p ih =>
    have hp := BlockStack.not_atEnd_of_run_eq_ok hrun
    have hcurrent := h.current hp
    cases hstep : st.step (s.current p) with
    | none =>
      rw [BlockStack.run_of_step_eq_none hp hstep] at hrun
      rwa [BlockStack.run_of_step_eq_none (h.atEnd hp) (hcurrent ▸ hstep)]
    | some st' =>
      rw [BlockStack.run_of_step_eq_some hp hstep] at hrun
      have hnext := BlockStack.not_atEnd_of_run_eq_ok hrun
      rw [BlockStack.run_of_step_eq_some (h.atEnd hp) (hcurrent ▸ hstep), h.advance hnext]
      exact ih hp _ (index_lt_advance hp) hrun

theorem seekBlockEnd (h : s'.Extends s) {opener : TokenKind}
    (hok : s.seekBlockEnd 0 opener true p = (.ok (), q)) :
    s'.seekBlockEnd 0 opener true p = (.ok (), q) := by
  rw [TokenStream.seekBlockEnd_eq] at hok ⊢
  split at hok
  · simp only [TokenStream.seekEnd_eq, if_true, BlockStack.search_eq_run] at hok ⊢
    exact h.run hok
  · cases hok

/-! ### Blocks -/

theorem offsetAt (h : s'.Extends s) {i : Nat} (hi : i < s.tokens.size) :
    s'.offsetAt i = s.offsetAt i := by
  have ht := Array.getElem?_eq_getElem hi
  rw [offsetAt_of_getElem? ht, offsetAt_of_getElem? ((h i hi).trans ht)]

theorem blockOver (h : s'.Extends s) {start stop : Nat} (hle : start ≤ stop)
    (hlt : stop < s.tokens.size) : s'.blockOver start stop = s.blockOver start stop := by
  have hfirst := h.offsetAt (show start < s.tokens.size by omega)
  have hlast := h (stop - 1) (by omega)
  simp only [TokenStream.blockOver, hfirst, hlast]

end Extends

end TokenStream

/-! ### Outlines -/

/-- The nodes that end before `size` are the same in `nodes'`, with the same numbers. -/
def Kept (size : Nat) (nodes nodes' : Array Node) : Prop :=
  ∀ (i : Nat) (n : Node), nodes[i]? = some n → n.tokenEnd < size → nodes'[i]? = some n

theorem kept_push_of_le {size : Nat} {nodes : Array Node} {n : Node} (n' : Node)
    (h : size ≤ n.tokenEnd) : Kept size (nodes.push n) (nodes.push n') := by
  intro i m hm hend
  rw [Array.getElem?_push] at hm ⊢
  by_cases hi : i = nodes.size
  · rw [if_pos hi] at hm
    cases hm
    omega
  · rwa [if_neg hi] at hm ⊢

namespace Cursor

variable {c c' : Cursor} {header : Header}

theorem isPlace_outlineStep (header : Header) (hc : c.stream.IsPlace c.place)
    (hend : c.atEnd = false) : c.stream.IsPlace (c.outlineStep header).2.place := by
  simp only [outlineStep]
  split
  · exact isPlace_foldBody_advance hc hend
  · exact hc.advance

theorem getElem?_nodes_outlineStep (header : Header) (hc : c.stream.IsPlace c.place)
    (hend : c.atEnd = false) {i : Nat} {n : Node} (hn : c.nodes[i]? = some n) :
    (c.outlineStep header).2.nodes[i]? = some n := by
  simp only [outlineStep]
  split
  · have hi := (Array.getElem?_eq_some_iff.mp hn).1
    rw [nodes_foldBody_advance hc hend, Array.getElem?_push, if_neg (Nat.ne_of_lt hi), hn]
  · exact hn

/-- An outline goes on to add nodes to those that it has. -/
theorem getElem?_nodes_outlineFrom (header : Header) (hc : c.stream.IsPlace c.place) {i : Nat}
    {n : Node} (hn : c.nodes[i]? = some n) : (c.outlineFrom header).nodes[i]? = some n := by
  have hstart : c.stream.IsPlace c.place ∧ c.nodes[i]? = some n := ⟨hc, hn⟩
  obtain ⟨_, ⟨-, hlast⟩, -⟩ := outlineFrom_induction
    (motive := fun _ d => d.stream.IsPlace d.place ∧ d.nodes[i]? = some n)
    (fun header d hend hd => ⟨d.stream_outlineStep header ▸ isPlace_outlineStep header hd.1 hend,
      getElem?_nodes_outlineStep header hd.1 hend hd.2⟩) hstart
  exact hlast

end Cursor

/-- Two outlines, the second one with more tokens, that are at the same token with the same nodes. -/
structure Abreast (c c' : Cursor) : Prop where
  stream : c'.stream.Extends c.stream
  isPlace : c.stream.IsPlace c.place
  isPlace' : c'.stream.IsPlace c'.place
  place : c'.place = c.place
  nodes : c'.nodes = c.nodes

/-- The first of two outlines is over, and its nodes that end before its last token are nodes of the
second one. -/
structure Outrun (c c' : Cursor) : Prop where
  atEnd : c.atEnd = true
  isPlace' : c'.stream.IsPlace c'.place
  kept : Kept c.stream.tokens.size c.nodes c'.nodes

namespace Abreast

variable {c c' : Cursor}

theorem atEnd' (h : Abreast c c') (hend : c.atEnd = false) : c'.atEnd = false := by
  rw [Cursor.atEnd, h.place]
  exact h.stream.atEnd hend

theorem current (h : Abreast c c') (hend : c.atEnd = false) : c'.current = c.current := by
  rw [Cursor.current, h.place]
  exact h.stream.current hend

theorem place_advance (h : Abreast c c') (hend : c.advance.atEnd = false) :
    c'.advance.place = c.advance.place := by
  show c'.stream.advance c'.place = c.stream.advance c.place
  rw [h.place, h.stream.advance hend]

theorem advance (h : Abreast c c') :
    Abreast c.advance c'.advance ∨ Outrun c.advance c'.advance := by
  cases hend : c.advance.atEnd with
  | true =>
    refine Or.inr ⟨hend, h.isPlace'.advance, fun i n hn _ => ?_⟩
    show c'.nodes[i]? = some n
    rw [h.nodes]
    exact hn
  | false =>
    exact Or.inl ⟨h.stream, h.isPlace.advance, h.isPlace'.advance, h.place_advance hend, h.nodes⟩

/-- A body with an end has the same one with more tokens. A body without an end takes in all tokens. -/
theorem foldBody_advance (h : Abreast c c') (hend : c.atEnd = false)
    (hopens : c.current ∈ bodyOpeners) :
    Abreast c.advance.foldBody.2 c'.advance.foldBody.2 ∨
      Outrun c.advance.foldBody.2 c'.advance.foldBody.2 := by
  have hend' := h.atEnd' hend
  have hstream : c.advance.foldBody.2.stream = c.stream := c.advance.stream_foldBody
  have hstream' : c'.advance.foldBody.2.stream = c'.stream := c'.advance.stream_foldBody
  have hplaced := Cursor.isPlace_foldBody_advance h.isPlace hend
  have hplaced' := Cursor.isPlace_foldBody_advance h.isPlace' hend'
  rw [← hstream'] at hplaced'
  have hblock := Cursor.nodes_foldBody_advance h.isPlace hend
  have hblock' := Cursor.nodes_foldBody_advance h.isPlace' hend'
  have hstop := Cursor.place_foldBody_advance h.isPlace hend
  have hstop' := Cursor.place_foldBody_advance h.isPlace' hend'
  have hout := h.isPlace.advance.foldOutcome (bodyOpener c.current)
  have hfrom : c.stream.advance c.place = c.advance.place := rfl
  rw [hfrom, ← hstop] at hout
  rcases hout.matched_or_unterminated hopens with ⟨hok, _, t, _, ht, _⟩ | ⟨-, hsize⟩
  · have hsearch := h.stream.seekBlockEnd (Prod.ext hok hstop.symm)
    have hnext : c.advance.atEnd = false :=
      TokenStream.not_atEnd_of_index_le c.advance.index_le_foldBody ht
    have hplace : c'.advance.foldBody.2.place = c.advance.foldBody.2.place := by
      rw [hstop', h.current hend, h.place_advance hnext, hsearch]
    have hlt := (Array.getElem?_eq_some_iff.mp ht).1
    refine Or.inl ⟨?_, ?_, hplaced', hplace, ?_⟩
    · rw [hstream, hstream']
      exact h.stream
    · rwa [hstream]
    · rw [hblock, hblock', hplace, h.place, h.nodes,
        h.stream.blockOver (Cursor.index_lt_foldBody_advance hend) hlt]
  · refine Or.inr ⟨?_, hplaced', ?_⟩
    · rw [Cursor.atEnd, hstream]
      simp [TokenStream.atEnd, hsize]
    · rw [hstream, hblock, hblock', h.nodes]
      exact kept_push_of_le _ (Nat.le_of_eq hsize.symm)

/-- Two outlines stay abreast until the first one is over. -/
theorem outlineStep (h : Abreast c c') (header : Header) (hend : c.atEnd = false) :
    (c'.outlineStep header).1 = (c.outlineStep header).1 ∧
      (Abreast (c.outlineStep header).2 (c'.outlineStep header).2 ∨
        Outrun (c.outlineStep header).2 (c'.outlineStep header).2) := by
  simp only [Cursor.outlineStep, h.current hend, true_and]
  split
  · rename_i hopens
    exact h.foldBody_advance hend (Header.mem_bodyOpeners_of_step hopens)
  · exact h.advance

theorem kept_outlineFrom (h : Abreast c c') (header : Header) :
    Kept c.stream.tokens.size (c.outlineFrom header).nodes (c'.outlineFrom header).nodes := by
  fun_induction Cursor.outlineFrom header c generalizing c' with
  | case1 header c hend =>
    intro i n hn _
    rw [← h.nodes] at hn
    exact Cursor.getElem?_nodes_outlineFrom header h.isPlace' hn
  | case2 header c hend =>
    rename_i ih
    have hend : c.atEnd = false := by simpa using hend
    obtain ⟨hheader, habreast | houtrun⟩ := h.outlineStep header hend
    · rw [Cursor.outlineFrom_of_not_atEnd header (h.atEnd' hend), hheader,
        ← c.stream_outlineStep header]
      exact ih habreast
    · rw [Cursor.outlineFrom_of_not_atEnd header (h.atEnd' hend), hheader,
        ← c.stream_outlineStep header, Cursor.outlineFrom_of_atEnd _ houtrun.atEnd]
      intro i n hn hbefore
      exact Cursor.getElem?_nodes_outlineFrom _ houtrun.isPlace' (houtrun.kept i n hn hbefore)

end Abreast

/-- A block of an outline that ends before the last token is a block of the outline of any more tokens,
with the same number. The texts of the two have no part in it. -/
theorem getElem?_outline_append (text text' : String) {tokens : Array Token} (more : Array Token)
    {i : Nat} {n : Node} (hn : (Cursor.ofStream ⟨text, tokens⟩).outline.nodes[i]? = some n)
    (hend : n.tokenEnd < tokens.size) :
    (Cursor.ofStream ⟨text', tokens ++ more⟩).outline.nodes[i]? = some n := by
  let c := Cursor.ofStream ⟨text, tokens⟩
  let c' := Cursor.ofStream ⟨text', tokens ++ more⟩
  have hstream : c'.stream.Extends c.stream := .of_append text text' tokens more
  cases hfirst : c.atEnd with
  | true =>
    -- all tokens are trivia, and there is no block
    rw [Cursor.outline, Cursor.outlineFrom_of_atEnd _ hfirst] at hn
    cases hn
  | false =>
    have habreast : Abreast c c' :=
      ⟨hstream, c.stream.isPlace_first, c'.stream.isPlace_first, hstream.first hfirst, rfl⟩
    exact habreast.kept_outlineFrom .outside i n hn hend

/-- The body of a function, with a loop after it that the next token ends. -/
theorem getElem?_outline_append_function :
    let tokens : Array Token := #[⟨.kwFunction, 0, 8⟩, ⟨.leftParen, 8, 1⟩, ⟨.rightParen, 9, 1⟩,
      ⟨.whitespace, 10, 1⟩, ⟨.kwEnd, 11, 3⟩, ⟨.whitespace, 14, 1⟩, ⟨.kwDo, 15, 2⟩]
    let n : Node := ⟨.block, true, 3, 4, 10, 1⟩
    (Cursor.ofStream ⟨"function() end do", tokens⟩).outline.nodes[0]? = some n ∧
      n.tokenEnd < tokens.size ∧
      (Cursor.ofStream ⟨"function() end do end", tokens ++ #[⟨.whitespace, 17, 1⟩, ⟨.kwEnd, 18, 3⟩]⟩
        ).outline.nodes[0]? = some n := by
  intro tokens n
  have hn : (Cursor.ofStream ⟨"function() end do", tokens⟩).outline.nodes[0]? = some n := by
    decide +kernel
  exact ⟨hn, by decide, getElem?_outline_append _ _ _ hn (by decide)⟩

end LuaFold
