import LuaFold.Proofs.BodyWords
import LuaFold.Proofs.Relexing
import LuaFold.Proofs.TriviaIndifference

/-! Outlines of tokens that come after others. A fold looks back no further than the token before
the body, so what comes before has no part in the blocks but their numbers and offsets. The header
of a function that is given up before its parameters leaves nothing else behind, and the outline
after it is that of the tokens from there on. -/

namespace LuaFold

/-- The node with its tokens `count` tokens later and its span `offset` bytes later. -/
def Node.shift (count offset : Nat) (n : Node) : Node :=
  { n with
    tokenStart := count + n.tokenStart
    tokenEnd := count + n.tokenEnd
    span := ⟨offset + n.span.start, n.span.length⟩ }

theorem Span.ofOffsets_add (offset start stop : Nat) :
    Span.ofOffsets (offset + start) (offset + stop) =
      ⟨offset + (Span.ofOffsets start stop).start, (Span.ofOffsets start stop).length⟩ := by
  simp [ofOffsets, Nat.add_sub_add_left]

/-- The kinds of the tokens that are not trivia. -/
def significantKinds (tokens : List Token) : List TokenKind :=
  (tokens.filter fun t => !t.isTrivia).map Token.kind

namespace TokenStream

variable {s s' : TokenStream} {count offset i j : Nat} {p p' : Place}

theorem significant_kinds (s : TokenStream) :
    s.significant.map (·.1.kind) = significantKinds s.tokens.toList := by
  rw [significantKinds, ← List.zipIdx_map_fst 0 s.tokens.toList, List.filter_map, List.map_map]
  rfl

theorem skipTrivia_eq_of_le (hij : i ≤ j) (hj : j ≤ s.skipTrivia i) :
    s.skipTrivia j = s.skipTrivia i := by
  fun_induction skipTrivia s i with
  | case1 i hi ht ih =>
    rcases Nat.eq_or_lt_of_le hij with rfl | hlt
    · rw [skipTrivia, dif_pos hi, if_pos ht]
    · exact ih hlt hj
  | case2 i hi ht =>
    obtain rfl : i = j := Nat.le_antisymm hij hj
    rw [skipTrivia, dif_pos hi, if_neg ht]
  | case3 i hi =>
    obtain rfl : i = j := Nat.le_antisymm hij hj
    rw [skipTrivia, dif_neg hi]

theorem skipTrivia_mono (hij : i ≤ j) : s.skipTrivia i ≤ s.skipTrivia j := by
  rcases Nat.le_total j (s.skipTrivia i) with hj | hj
  · exact Nat.le_of_eq (skipTrivia_eq_of_le hij hj).symm
  · exact Nat.le_trans hj (s.le_skipTrivia j)

/-- The tokens of `s` from the number `count` on are those of `s'`, with all offsets `offset` bytes
later. -/
structure EndsWith (s s' : TokenStream) (count offset : Nat) : Prop where
  token : ∀ i, s.tokens[count + i]? = s'.tokens[i]?.map (Token.shift offset)
  text : s.text.utf8ByteSize = offset + s'.text.utf8ByteSize

namespace EndsWith

theorem lt_size_iff (h : s.EndsWith s' count offset) :
    count + i < s.tokens.size ↔ i < s'.tokens.size := by
  have hnone : s.tokens[count + i]? = none ↔ s'.tokens[i]? = none := by
    rw [h.token, Option.map_eq_none_iff]
  rw [Array.getElem?_eq_none_iff, Array.getElem?_eq_none_iff] at hnone
  omega

theorem skipTrivia (h : s.EndsWith s' count offset) (i : Nat) :
    s.skipTrivia (count + i) = count + s'.skipTrivia i := by
  have htoken {i : Nat} (hi : i < s'.tokens.size) (hi' : count + i < s.tokens.size) :
      s.tokens[count + i] = s'.tokens[i].shift offset := by
    have hsome := h.token i
    rwa [Array.getElem?_eq_getElem hi, Array.getElem?_eq_getElem hi', Option.map_some,
      Option.some.injEq] at hsome
  fun_induction TokenStream.skipTrivia s' i with
  | case1 i hi ht ih =>
    have ht' : (s'.tokens[i].shift offset).isTrivia = true := ht
    rw [TokenStream.skipTrivia, dif_pos (h.lt_size_iff.mpr hi), htoken hi, if_pos ht']
    exact ih
  | case2 i hi ht =>
    have ht' : ¬(s'.tokens[i].shift offset).isTrivia = true := ht
    rw [TokenStream.skipTrivia, dif_pos (h.lt_size_iff.mpr hi), htoken hi, if_neg ht']
  | case3 i hi => rw [TokenStream.skipTrivia, dif_neg (fun hlt => hi (h.lt_size_iff.mp hlt))]

theorem atEnd (h : s.EndsWith s' count offset) (hp : p.index = count + p'.index) :
    s.atEnd p = s'.atEnd p' := by
  have hlt := h.lt_size_iff (i := p'.index)
  rw [TokenStream.atEnd, TokenStream.atEnd, hp, decide_eq_decide]
  omega

theorem current (h : s.EndsWith s' count offset) (hp : p.index = count + p'.index) :
    s.current p = s'.current p' := by
  rw [TokenStream.current, TokenStream.current, kindAt?, kindAt?, hp, h.token, Option.map_map]
  rfl

theorem index_advance (h : s.EndsWith s' count offset) (hp : p.index = count + p'.index) :
    (s.advance p).index = count + (s'.advance p').index := by
  have hend := h.atEnd hp
  cases hp' : s'.atEnd p' with
  | true => rw [advance_of_atEnd hp', advance_of_atEnd (hend.trans hp'), hp]
  | false =>
    rw [advance_of_not_atEnd hp', advance_of_not_atEnd (hend.trans hp'), ← h.skipTrivia, hp,
      Nat.add_assoc]

theorem index_skip (h : s.EndsWith s' count offset) (hp : p.index = count + p'.index) (n : Nat) :
    (s.skip n p).index = count + (s'.skip n p').index := by
  induction n generalizing p p' with
  | zero => exact hp
  | succ n ih => exact ih (h.index_advance hp)

theorem ahead (h : s.EndsWith s' count offset) (hp : p.index = count + p'.index) :
    s.ahead p = s'.ahead p' := by
  induction p' using s'.forward_induction generalizing p with
  | step p' ih =>
    have hend := h.atEnd hp
    cases hp' : s'.atEnd p' with
    | true => rw [ahead_of_atEnd hp', ahead_of_atEnd (hend.trans hp')]
    | false =>
      rw [ahead_of_not_atEnd hp', ahead_of_not_atEnd (hend.trans hp'), h.current hp,
        ih hp' _ (index_lt_advance hp') (h.index_advance hp)]

theorem offsetAt (h : s.EndsWith s' count offset) (i : Nat) :
    s.offsetAt (count + i) = offset + s'.offsetAt i := by
  rw [TokenStream.offsetAt, TokenStream.offsetAt, h.token]
  cases s'.tokens[i]? with
  | none => exact h.text
  | some t => rfl

theorem blockOver (h : s.EndsWith s' count offset) (start stop : Nat) :
    s.blockOver (count + start) (count + stop) =
      (s'.blockOver start stop).shift count offset := by
  by_cases hlt : start < stop
  · obtain ⟨last, rfl⟩ : ∃ last, stop = last + 1 := ⟨stop - 1, by omega⟩
    have hlt' : count + start < count + (last + 1) := Nat.add_lt_add_left hlt count
    have hlast : count + (last + 1) - 1 = count + last := rfl
    simp only [TokenStream.blockOver, Node.shift, if_pos hlt, if_pos hlt', h.offsetAt, hlast,
      Nat.add_sub_cancel, h.token]
    cases s'.tokens[last]? with
    | none => simp only [Option.map_none, Span.ofOffsets_add]
    | some t =>
      have hstop : (t.shift offset).span.stop = offset + t.span.stop := Nat.add_assoc ..
      simp only [Option.map_some, hstop, Span.ofOffsets_add]
  · have hlt' : ¬count + start < count + stop := fun h => hlt (Nat.lt_of_add_lt_add_left h)
    simp only [TokenStream.blockOver, Node.shift, if_neg hlt, if_neg hlt', h.offsetAt,
      Span.ofOffsets_add]

end EndsWith

end TokenStream

/-! ### Outlines after other tokens -/

/-- Two outlines at the same token, of tokens that come after others and of the same tokens alone,
with the same blocks. -/
structure Later (count offset : Nat) (c c' : Cursor) : Prop where
  stream : c.stream.EndsWith c'.stream count offset
  isPlace : c.stream.IsPlace c.place
  isPlace' : c'.stream.IsPlace c'.place
  index : c.place.index = count + c'.place.index
  nodes : c.nodes = c'.nodes.map (Node.shift count offset)

namespace Later

variable {count offset : Nat} {c c' : Cursor}

theorem atEnd (h : Later count offset c c') : c.atEnd = c'.atEnd :=
  h.stream.atEnd h.index

theorem current (h : Later count offset c c') : c.current = c'.current :=
  h.stream.current h.index

theorem advance (h : Later count offset c c') : Later count offset c.advance c'.advance :=
  ⟨h.stream, h.isPlace.advance, h.isPlace'.advance, h.stream.index_advance h.index, h.nodes⟩

theorem foldBody_advance (h : Later count offset c c') (hend : c'.atEnd = false) :
    Later count offset c.advance.foldBody.2 c'.advance.foldBody.2 := by
  have hend₁ : c.atEnd = false := h.atEnd.trans hend
  have hstream : c.advance.foldBody.2.stream = c.stream := c.advance.stream_foldBody
  have hstream' : c'.advance.foldBody.2.stream = c'.stream := c'.advance.stream_foldBody
  -- the search for the end of the body sees the same tokens ahead
  have hahead := h.stream.ahead h.advance.index
  obtain ⟨-, n, hn, hn'⟩ :=
    TokenStream.seekBlockEnd_of_ahead_eq 0 (bodyOpener c.current) true hahead
  have hplace := (Cursor.place_foldBody_advance h.isPlace hend₁).trans hn
  rw [h.current] at hn'
  have hplace' := (Cursor.place_foldBody_advance h.isPlace' hend).trans hn'
  have hindex : c.advance.foldBody.2.place.index =
      count + c'.advance.foldBody.2.place.index := by
    rw [hplace, hplace']
    exact h.stream.index_skip h.advance.index n
  refine ⟨?_, ?_, ?_, hindex, ?_⟩
  · rw [hstream, hstream']
    exact h.stream
  · rw [hstream]
    exact Cursor.isPlace_foldBody_advance h.isPlace hend₁
  · rw [hstream']
    exact Cursor.isPlace_foldBody_advance h.isPlace' hend
  · rw [Cursor.nodes_foldBody_advance h.isPlace hend₁,
      Cursor.nodes_foldBody_advance h.isPlace' hend, Array.map_push, ← h.nodes, hindex, h.index,
      Nat.add_assoc, h.stream.blockOver]

theorem outlineStep (h : Later count offset c c') (header : Header) (hend : c'.atEnd = false) :
    (c.outlineStep header).1 = (c'.outlineStep header).1 ∧
      Later count offset (c.outlineStep header).2 (c'.outlineStep header).2 := by
  simp only [Cursor.outlineStep, h.current, true_and]
  split
  · exact h.foldBody_advance hend
  · exact h.advance

theorem nodes_outlineFrom (h : Later count offset c c') (header : Header) :
    (c.outlineFrom header).nodes =
      (c'.outlineFrom header).nodes.map (Node.shift count offset) := by
  fun_induction Cursor.outlineFrom header c' generalizing c with
  | case1 header c' hend =>
    rw [Cursor.outlineFrom_of_atEnd header (h.atEnd.trans hend)]
    exact h.nodes
  | case2 header c' hend =>
    rename_i ih
    have hend' : c'.atEnd = false := by simpa using hend
    obtain ⟨hheader, hstep⟩ := h.outlineStep header hend'
    rw [Cursor.outlineFrom_of_not_atEnd header (h.atEnd.trans hend'), hheader]
    exact ih hstep

end Later

/-! ### Headers that are given up -/

theorem Header.step_named_of_not_mem {kind : TokenKind} (h : kind ∉ nameEnds) :
    named.step kind = (named, false) := by
  revert h
  cases kind <;> decide

/-- What gives up a header before its parameters does the same as it does without a header. -/
theorem Header.step_named_eq_step_outside {kind : TokenKind} (h : kind ∈ .kwEnd :: bodyWords) :
    named.step kind = outside.step kind := by
  revert h
  cases kind <;> decide

/-- The name of a function is passed over up to a token that ends it, and no block is added. -/
theorem Cursor.exists_outlineFrom_named {c : Cursor} (hc : c.stream.IsPlace c.place) {count : Nat}
    (hname : ∀ i t, c.place.index ≤ i → i < count → c.stream.tokens[i]? = some t →
      t.isTrivia = false → t.kind ∉ nameEnds)
    (hcount : count ≤ c.stream.tokens.size) (hle : c.place.index ≤ c.stream.skipTrivia count) :
    ∃ d : Cursor, c.outlineFrom .named = d.outlineFrom .named ∧ d.stream = c.stream ∧
      c.stream.IsPlace d.place ∧ d.place.index = c.stream.skipTrivia count ∧ d.nodes = c.nodes := by
  generalize hn : count - c.place.index = n
  induction n using Nat.strongRecOn generalizing c with
  | ind n ih =>
    by_cases hlt : c.place.index < count
    · have hend : c.atEnd = false := by
        simpa [atEnd, TokenStream.atEnd] using Nat.lt_of_lt_of_le hlt hcount
      obtain ⟨t, ht, hkind, -⟩ := exists_consumed_advance hend
      have hstep : Header.named.step c.current = (.named, false) := by
        rw [hkind]
        exact Header.step_named_of_not_mem
          (hname _ t (Nat.le_refl _) hlt ht (hc.not_isTrivia ht))
      have hadv : c.advance.place.index = c.stream.skipTrivia (c.place.index + 1) :=
        congrArg Place.index (TokenStream.advance_of_not_atEnd hend)
      have hforward : c.place.index < c.advance.place.index := TokenStream.index_lt_advance hend
      obtain ⟨d, hrun, hd⟩ := ih (count - c.advance.place.index) (by omega) (c := c.advance)
        hc.advance (fun i t' hi => hname i t' (by omega)) hcount
        (hadv ▸ TokenStream.skipTrivia_mono hlt) rfl
      refine ⟨d, ?_, hd⟩
      rw [outlineFrom_of_not_atEnd .named hend, outlineStep_of_not_opens (by rw [hstep]), hstep]
      exact hrun
    · refine ⟨c, rfl, rfl, hc, ?_, rfl⟩
      -- the cursor is not on trivia, so it has come to the end of the trivia
      rw [← TokenStream.skipTrivia_eq_of_le (Nat.not_lt.mp hlt) hle]
      by_contra hne
      have hgt := Nat.lt_of_le_of_ne (c.stream.le_skipTrivia c.place.index) hne
      obtain ⟨t, ht, htrivia⟩ := TokenStream.isTrivia_of_lt_skipTrivia (Nat.le_refl _) hgt
      rw [hc.not_isTrivia ht] at htrivia
      cases htrivia

/-- The place before the first token that is not trivia, which comes after `before`. -/
theorem TokenStream.index_first {s : TokenStream} {before after : List Token} {t : Token}
    (htokens : s.tokens.toList = before ++ t :: after) (hbefore : ∀ t ∈ before, t.isTrivia = true)
    (ht : t.isTrivia = false) : s.first.index = before.length := by
  have hget : s.tokens[before.length]? = some t := by
    rw [← Array.getElem?_toList, htokens, List.getElem?_append_right (Nat.le_refl _), Nat.sub_self]
    rfl
  show s.skipTrivia 0 = before.length
  rcases Nat.lt_trichotomy (s.skipTrivia 0) before.length with hlt | heq | hgt
  · have hfirst : s.tokens[s.skipTrivia 0]? = some before[s.skipTrivia 0] := by
      rw [← Array.getElem?_toList, htokens, List.getElem?_append_left hlt,
        List.getElem?_eq_getElem hlt]
    have hsignificant := not_isTrivia_skipTrivia hfirst
    rw [hbefore _ (List.getElem_mem hlt)] at hsignificant
    cases hsignificant
  · exact heq
  · obtain ⟨t', ht', htrivia⟩ := isTrivia_of_lt_skipTrivia (Nat.zero_le _) hgt
    obtain rfl : t = t' := Option.some.inj (hget.symm.trans ht')
    rw [ht] at htrivia
    cases htrivia

/-- The header of a function is passed over up to its parameters or to what gives it up. -/
theorem TokenStream.exists_outline_header {s : TokenStream} {header more : List Token}
    {name : List TokenKind} (hlist : s.tokens.toList = header ++ more)
    (hheader : significantKinds header = .kwFunction :: name)
    (hname : ∀ kind ∈ name, kind ∉ nameEnds) :
    ∃ d : Cursor, (Cursor.ofStream s).outline = d.outlineFrom .named ∧ d.stream = s ∧
      s.IsPlace d.place ∧ d.place.index = s.skipTrivia header.length ∧ d.nodes = #[] := by
  obtain ⟨function, named, hfilter, hfunction, rfl⟩ := List.map_eq_cons_iff.mp hheader
  obtain ⟨before, after, rfl, hbefore, hsignificant, rfl⟩ :=
    List.filter_eq_cons_iff.mp hfilter
  rw [List.append_assoc, List.cons_append] at hlist
  -- the first token is the word `function`
  have hfirst : s.first.index = before.length :=
    index_first hlist (by simpa using hbefore) (by simpa using hsignificant)
  have hget : s.tokens[s.first.index]? = some function := by
    rw [hfirst, ← Array.getElem?_toList, hlist]
    simp
  have hend : (Cursor.ofStream s).atEnd = false := not_atEnd_of_index_le (Nat.le_refl _) hget
  have hcurrent : (Cursor.ofStream s).current = .kwFunction :=
    (current_of_getElem? hget).trans hfunction
  have hstep : Header.outside.step (Cursor.ofStream s).current = (.named, false) := by
    rw [hcurrent]
    rfl
  have hplace : (Cursor.ofStream s).advance.place.index = s.skipTrivia (before.length + 1) := by
    rw [← hfirst]
    exact congrArg Place.index (advance_of_not_atEnd hend)
  have hlength : (before ++ function :: after).length = before.length + 1 + after.length := by
    rw [List.length_append, List.length_cons]
    omega
  have hsize : (before ++ function :: after).length ≤ s.tokens.size := by
    rw [← Array.length_toList, hlist, hlength]
    simp
    omega
  -- the tokens after it up to the end of the header are of the name
  have hnamed : ∀ i t, (Cursor.ofStream s).advance.place.index ≤ i →
      i < (before ++ function :: after).length → s.tokens[i]? = some t → t.isTrivia = false →
      t.kind ∉ nameEnds := by
    intro i t hi hlt ht htrivia
    obtain ⟨j, rfl⟩ : ∃ j, i = before.length + (j + 1) := by
      have hle := s.le_skipTrivia (before.length + 1)
      exact ⟨i - (before.length + 1), by omega⟩
    have hj : j < after.length := by omega
    rw [← Array.getElem?_toList, hlist, List.getElem?_append_right (Nat.le_add_right _ _),
      Nat.add_sub_cancel_left, List.getElem?_cons_succ, List.getElem?_append_left hj] at ht
    have hmem : t ∈ after.filter fun t => !t.isTrivia :=
      List.mem_filter.mpr ⟨List.mem_of_getElem? ht, by simpa using htrivia⟩
    exact hname t.kind (List.mem_map_of_mem hmem)
  obtain ⟨d, hd, hrest⟩ := Cursor.exists_outlineFrom_named (c := (Cursor.ofStream s).advance)
    s.isPlace_first.advance hnamed hsize
    (hplace ▸ skipTrivia_mono (by rw [hlength]; exact Nat.le_add_right _ _))
  refine ⟨d, ?_, hrest⟩
  rw [Cursor.outline, Cursor.outlineFrom_of_not_atEnd .outside hend,
    Cursor.outlineStep_of_not_opens (by rw [hstep]), hstep]
  exact hd

theorem TokenStream.endsWith_append {text text' : String} {offset : Nat}
    (htext : text.utf8ByteSize = offset + text'.utf8ByteSize) (header tokens : Array Token) :
    EndsWith ⟨text, header ++ tokens.map (Token.shift offset)⟩ ⟨text', tokens⟩ header.size
      offset := by
  refine ⟨fun i => ?_, htext⟩
  rw [Array.getElem?_append_right (Nat.le_add_right _ _), Nat.add_sub_cancel_left,
    Array.getElem?_map]

/-- The word that gives up a header opens the same block as it does without a header. -/
theorem Cursor.outlineFrom_named_eq_outside {c : Cursor} (hend : c.atEnd = false)
    (hword : c.current ∈ .kwEnd :: bodyWords) :
    c.outlineFrom .named = c.outlineFrom .outside := by
  have hstep : c.outlineStep .named = c.outlineStep .outside := by
    rw [outlineStep, outlineStep, Header.step_named_eq_step_outside hword]
  rw [outlineFrom_of_not_atEnd .named hend, outlineFrom_of_not_atEnd .outside hend, hstep]

/-- A header that is given up before its parameters does not show in the outline: the blocks are
those of the tokens from the word that gives it up on, whatever comes after that word and with any
trivia in between. Only the numbers of tokens and the offsets are those after the header. -/
theorem nodes_outline_abandoned_header {text text' : String} {header tokens : Array Token}
    {offset : Nat} {name rest : List TokenKind} {word : TokenKind}
    (hheader : significantKinds header.toList = .kwFunction :: name)
    (hname : ∀ kind ∈ name, kind ∉ nameEnds)
    (htokens : significantKinds tokens.toList = word :: rest)
    (hword : word ∈ .kwEnd :: bodyWords)
    (htext : text.utf8ByteSize = offset + text'.utf8ByteSize) :
    (Cursor.ofStream ⟨text, header ++ tokens.map (Token.shift offset)⟩).outline.nodes =
      (Cursor.ofStream ⟨text', tokens⟩).outline.nodes.map (Node.shift header.size offset) := by
  have hends := TokenStream.endsWith_append htext header tokens
  have hlist : (header ++ tokens.map (Token.shift offset)).toList =
      header.toList ++ (tokens.map (Token.shift offset)).toList := Array.toList_append
  obtain ⟨d, hrun, hstream, hplace, hindex, hnodes⟩ :=
    TokenStream.exists_outline_header (s := ⟨text, _⟩) hlist hheader hname
  have hlater : Later header.size offset d (.ofStream ⟨text', tokens⟩) := by
    refine ⟨hstream ▸ hends, hstream ▸ hplace, TokenStream.isPlace_first _, ?_, ?_⟩
    · exact hindex.trans (hends.skipTrivia 0)
    · rw [hnodes]
      exact Array.map_empty.symm
  -- from the word that gives the header up on, there is no more difference
  have hahead : TokenStream.ahead ⟨text', tokens⟩ (TokenStream.first ⟨text', tokens⟩) =
      word :: rest := by
    rw [TokenStream.ahead_first, TokenStream.significant_kinds, htokens]
  obtain ⟨hend, hcurrent, -⟩ := TokenStream.ahead_eq_cons.mp hahead
  have hgiven : d.current ∈ TokenKind.kwEnd :: bodyWords := by
    rw [hlater.current.trans hcurrent]
    exact hword
  rw [hrun, Cursor.outlineFrom_named_eq_outside (hlater.atEnd.trans hend) hgiven,
    hlater.nodes_outlineFrom, Cursor.outline]

/-- A comment between the name of a function without parameters and the loop that gives it up. -/
theorem nodes_outline_unfinished_function :
    let header := lex .lua55 "function f.x --c\n"
    let tokens := lex .lua55 " do y end"
    let text := "function f.x --c\n do y end"
    significantKinds header.toList = [.kwFunction, .name, .dot, .name] ∧
      significantKinds tokens.toList = [.kwDo, .name, .kwEnd] ∧
      lex .lua55 text = header ++ tokens.map (Token.shift 17) ∧
      (Cursor.ofStream ⟨text, header ++ tokens.map (Token.shift 17)⟩).outline.nodes =
        (Cursor.ofStream ⟨" do y end", tokens⟩).outline.nodes.map (Node.shift header.size 17) ∧
      outermostBodies .lua55 text = #[⟨.block, true, 10, 13, 20, 3⟩] := by
  intro header tokens text
  have hheader : significantKinds header.toList = [.kwFunction, .name, .dot, .name] := by
    decide +kernel
  have htokens : significantKinds tokens.toList = [.kwDo, .name, .kwEnd] := by decide +kernel
  have hlex : lex .lua55 text = header ++ tokens.map (Token.shift 17) := by decide +kernel
  have htext : text.utf8ByteSize = 17 + " do y end".utf8ByteSize := by decide
  have hnodes := nodes_outline_abandoned_header hheader (by decide) htokens (by decide) htext
  exact ⟨hheader, htokens, hlex, hnodes, by decide +kernel⟩

end LuaFold
