import LuaFold.Proofs.Lexemes
import LuaFold.Proofs.OutlineRun
import LuaFold.Proofs.Slices

/-! The lexer on a part of a text. It has no memory across a token boundary but that of being at the
start of the text, and no token depends on what comes after it. So a part between two boundaries has
the tokens that it has in the whole text, a token on its own is itself, and more text can change the
last token only. -/

namespace LuaFold

variable {d : Dialect} {opensText : Bool} {l : Lexeme} {ls ls' ms : List Lexeme}
  {cs rest : List Char}

namespace Lexeme.Leads

theorem cut {dropped : List Char} (h : l.Leads d opensText (rest ++ dropped)) :
    l.Leads d opensText rest := by
  cases h with
  | intro h => exact .intro h.cut

theorem extend (h : l.Leads d opensText rest) (hrest : rest ≠ []) (more : List Char) :
    l.Leads d opensText (rest ++ more) := by
  cases h with
  | intro h => exact .intro (h.extend hrest more)

/-- The start of the text matters to a shebang line only. -/
theorem opens (h : l.Leads d false rest) (hshebang : ¬ ['#', '!'] <+: l.chars ++ rest) :
    l.Leads d true rest := by
  cases h with
  | @intro c taken _ state h =>
    by_cases hc : c = '#'
    · subst hc
      have hstart : LexState.start false '#' = .symbol .len := by decide
      have hopen : LexState.start true '#' = .hash := by decide
      rw [hstart] at h
      cases taken with
      | cons c' taken =>
        have haccepts := h.accepts
        rw [List.foldlM_cons] at haccepts
        cases haccepts
      | nil =>
        obtain rfl : LexState.symbol .len = state := Option.some.inj h.accepts
        have hhash : Munches (LexState.step d) (LexState.start true '#') [] rest .hash := by
          rw [hopen]
          refine ⟨rfl, fun c' hc' => ?_⟩
          obtain ⟨tail, rfl⟩ : ∃ tail, rest = c' :: tail := List.head?_eq_some_iff.mp hc'
          have hne : c' ≠ '!' := by
            rintro rfl
            exact hshebang ⟨tail, rfl⟩
          simp [LexState.step, hne]
        -- a hash on its own is the same symbol at the start of a text and elsewhere
        have hlead : Lexeme.Leads d true ⟨TokenKind.len, ['#']⟩ rest := .intro hhash
        exact hlead
    · rw [← LexState.start_eq_of_ne hc] at h
      exact .intro h

end Lexeme.Leads

namespace Lexes

/-- The characters up to a token boundary have their lexemes without those after it. -/
theorem take (h : Lexes d opensText cs (ls ++ ls')) :
    Lexes d opensText (ls.flatMap Lexeme.chars) ls := by
  induction ls generalizing opensText cs with
  | nil => exact .nil
  | cons l ls ih =>
    cases h with
    | cons head tail =>
      have hchars := tail.flatMap_chars
      rw [List.append_eq, List.flatMap_append] at hchars
      rw [← hchars] at head
      exact .cons head.cut (ih tail)

/-- The characters from a token boundary on have their lexemes without those before it. -/
theorem drop (h : Lexes d opensText cs (ls ++ ls')) (hls : ls ≠ []) :
    Lexes d false (ls'.flatMap Lexeme.chars) ls' := by
  induction ls generalizing opensText cs with
  | nil => exact absurd rfl hls
  | cons l ls ih =>
    cases h with
    | cons _ tail =>
      by_cases hempty : ls = []
      · subst hempty
        have hafter : Lexes d false _ ls' := tail
        rwa [hafter.flatMap_chars]
      · exact ih tail hempty

/-- With more characters, all lexemes but the last one are as before. -/
theorem extend (h : Lexes d opensText cs (ls ++ [l])) (more : List Char) :
    ∃ ls', Lexes d opensText (cs ++ more) (ls ++ ls') := by
  induction ls generalizing opensText cs with
  | nil => exact exists_lexes d opensText (cs ++ more)
  | cons first ls ih =>
    cases h with
    | @cons _ _ rest _ head tail =>
      have hrest : rest ≠ [] := tail.chars_ne_nil (List.concat_ne_nil l ls)
      obtain ⟨ls', hls'⟩ := ih tail
      refine ⟨ls', ?_⟩
      rw [List.append_assoc]
      exact .cons (head.extend hrest more) hls'

theorem opens (h : Lexes d false cs ls) (hshebang : ¬ ['#', '!'] <+: cs) :
    Lexes d true cs ls := by
  cases h with
  | nil => exact .nil
  | cons head tail => exact .cons (head.opens hshebang) tail

end Lexes

/-! ### Folded bodies -/

/-- The token with its place `offset` bytes later. -/
def Token.shift (offset : Nat) (t : Token) : Token :=
  ⟨t.kind, offset + t.span.start, t.span.length⟩

theorem layOut_add (offset start : Nat) (ls : List Lexeme) :
    layOut (offset + start) ls = (layOut start ls).map (Token.shift offset) := by
  induction ls generalizing start with
  | nil => rfl
  | cons l ls ih =>
    rw [layOut, layOut, List.map_cons, Nat.add_assoc, ih]
    rfl

theorem offsetAt_lex {text : String} (h : Lexes d true text.toList (ls ++ ls')) :
    TokenStream.offsetAt ⟨text, lex d text⟩ ls.length = sizes ls := by
  have htiles := tiles_layOut (sizes ls) ls'
  have hsize : sizes ls + sizes ls' = text.utf8ByteSize := by
    rw [← String.utf8Len_toList, ← h.flatMap_chars, List.flatMap_append, String.utf8Len_append]
    rfl
  refine TokenStream.offsetAt_of_tiles_drop ?_
  rw [lex_of_lexes h, layOut_append, List.drop_left' (length_layOut 0 ls), Nat.zero_add, ← hsize]
  exact htiles

theorem extract_lex {text : String} (h : Lexes d true text.toList (ls ++ (ms ++ ls'))) :
    (lex d text).extract ls.length (ls.length + ms.length) = (layOut (sizes ls) ms).toArray := by
  rw [lex_of_lexes h, layOut_append, layOut_append, Nat.zero_add, ← Array.toList_inj]
  have hstart := length_layOut 0 ls
  have hstop := length_layOut (sizes ls) ms
  simp [List.extract_eq_take_drop, List.drop_left' hstart, List.take_left' hstop]

/-- A part of a text between two token boundaries, not at its start, has the tokens that it has in
the text. -/
theorem lex_part {text part : String} (h : Lexes d true text.toList (ls ++ (ms ++ ls')))
    (hls : ls ≠ []) (hpart : part.toList = ms.flatMap Lexeme.chars)
    (hshebang : ¬ ['#', '!'] <+: part.toList) :
    (lex d part).map (Token.shift (sizes ls)) =
      (lex d text).extract ls.length (ls.length + ms.length) := by
  have hms : Lexes d false part.toList ms := by
    rw [hpart]
    exact (h.drop hls).take
  rw [extract_lex h, lex_of_lexes (hms.opens hshebang), List.map_toArray, ← layOut_add,
    Nat.add_zero]

theorem offsetAt_part {text : String} (h : Lexes d true text.toList (ls ++ (ms ++ ls'))) :
    TokenStream.offsetAt ⟨text, lex d text⟩ (ls.length + ms.length) = sizes ls + sizes ms := by
  rw [← List.append_assoc] at h
  rw [← List.length_append, offsetAt_lex h, sizes, List.flatMap_append, String.utf8Len_append]
  rfl

/-- The lexemes of a body stand between others, of which some are before it. -/
theorem exists_lexemes_of_mem_outermostBodies {text : String} {n : Node}
    (hn : n ∈ outermostBodies d text) :
    ∃ ls ms ls', Lexes d true text.toList (ls ++ (ms ++ ls')) ∧ ls ≠ [] ∧
      n.tokenStart = ls.length ∧ n.tokenEnd = ls.length + ms.length ∧
      n.span = ⟨sizes ls, sizes ms⟩ := by
  obtain ⟨start, stop, rfl, hstart, hle, hsize⟩ :=
    TokenStream.isFolded_of_mem_outline (tiled_lex d text) hn
  obtain ⟨all, hall⟩ := exists_lexes d true text.toList
  have hbound : stop ≤ all.length := by
    rw [lex_of_lexes hall] at hsize
    simpa [length_layOut] using hsize
  -- the lexemes before the body, in it and after it
  obtain ⟨ls, ms, ls', rfl, rfl, rfl⟩ : ∃ ls ms ls', all = ls ++ (ms ++ ls') ∧
      ls.length = start ∧ ls.length + ms.length = stop := by
    refine ⟨all.take start, (all.drop start).take (stop - start),
      (all.drop start).drop (stop - start), ?_, ?_, ?_⟩
    · rw [List.take_append_drop, List.take_append_drop]
    · rw [List.length_take]
      omega
    · rw [List.length_take, List.length_take, List.length_drop]
      omega
  refine ⟨ls, ms, ls', hall, List.ne_nil_of_length_pos hstart, rfl, rfl, ?_⟩
  rw [TokenStream.foldedBlock, offsetAt_lex hall, offsetAt_part hall, Span.ofOffsets,
    Nat.add_sub_cancel_left]

/-- The tokens of a body are those that its text has on its own, unless that starts like a shebang
line. -/
theorem lex_slice_of_mem_outermostBodies (d : Dialect) (text : String) {n : Node}
    (hn : n ∈ outermostBodies d text) :
    ∃ body, Text.slice? text n.span = some body ∧
      n.tokenStart ≤ n.tokenEnd ∧ n.tokenEnd ≤ (lex d text).size ∧
      (¬ ['#', '!'] <+: body.toList →
        (lex d body).map (Token.shift n.span.start) =
          (lex d text).extract n.tokenStart n.tokenEnd) := by
  obtain ⟨ls, ms, ls', hall, hls, hstart, hend, hspan⟩ := exists_lexemes_of_mem_outermostBodies hn
  have hchars : text.toList = ls.flatMap Lexeme.chars ++
      (ms.flatMap Lexeme.chars ++ ls'.flatMap Lexeme.chars) := by
    rw [← hall.flatMap_chars, List.flatMap_append, List.flatMap_append]
  rw [hstart, hend, hspan]
  refine ⟨String.ofList (ms.flatMap Lexeme.chars), Text.slice?_of_toList_eq hchars,
    Nat.le_add_right _ _, ?_, fun hshebang => ?_⟩
  · rw [size_lex hall, List.length_append, List.length_append]
    omega
  · exact lex_part hall hls (String.toList_ofList ..) hshebang

/-- The body of a loop, with a comment in it that ends just before the `end`. -/
theorem lex_slice_loop :
    let text := "while x do y = 0x1ULL--c\nend"
    let n : Node := ⟨.block, true, 5, 13, 10, 15⟩
    n ∈ outermostBodies .luaJIT text ∧ Text.slice? text n.span = some " y = 0x1ULL--c\n" ∧
      ¬ ['#', '!'] <+: " y = 0x1ULL--c\n".toList ∧
      (lex .luaJIT " y = 0x1ULL--c\n").map (Token.shift 10) =
        (lex .luaJIT text).extract 5 13 := by
  intro text n
  have hn : n ∈ outermostBodies .luaJIT text := by decide +kernel
  have hslice : Text.slice? text n.span = some " y = 0x1ULL--c\n" := by decide +kernel
  have hshebang : ¬ ['#', '!'] <+: " y = 0x1ULL--c\n".toList := by decide
  obtain ⟨body, hbody, -, -, hlex⟩ := lex_slice_of_mem_outermostBodies .luaJIT text hn
  obtain rfl : " y = 0x1ULL--c\n" = body := Option.some.inj (hslice.symm.trans hbody)
  exact ⟨hn, hslice, hshebang, hlex hshebang⟩

/-! ### A token on its own -/

/-- A lexeme that is not the first one of its text does not look like a shebang line. -/
theorem Lexeme.Leads.not_shebang (h : l.Leads d false rest) : ¬ ['#', '!'] <+: l.chars := by
  cases h with
  | @intro c taken _ state h =>
    rintro ⟨tail, htail⟩
    obtain ⟨rfl, rfl⟩ : '#' = c ∧ '!' :: tail = taken := List.cons.inj htail
    have hstart : LexState.start false '#' = .symbol .len := by decide
    have haccepts := h.accepts
    rw [hstart, List.foldlM_cons] at haccepts
    cases haccepts

/-- The characters of a lexeme are that lexeme also when nothing is before or after them. -/
theorem Lexeme.Leads.lexes (h : l.Leads d opensText rest) : Lexes d true l.chars [l] := by
  have hwhole : l.Leads d opensText ([] ++ rest) := h
  have hcut : l.Leads d opensText [] := hwhole.cut
  have hopens : l.Leads d true [] := by
    cases opensText with
    | true => exact hcut
    | false =>
      refine hcut.opens ?_
      rw [List.append_nil]
      exact h.not_shebang
  have hlexes := Lexes.cons hopens .nil
  rwa [List.append_nil] at hlexes

/-- The text of a token is one token on its own, of the same kind, whatever stands around it in the
whole text. -/
theorem lex_slice_of_mem_lex {text : String} {t : Token} (ht : t ∈ lex d text) :
    ∃ part, Text.slice? text t.span = some part ∧
      lex d part = #[⟨t.kind, 0, part.utf8ByteSize⟩] := by
  obtain ⟨all, hall⟩ := exists_lexes d true text.toList
  rw [lex_of_lexes hall, List.mem_toArray] at ht
  obtain ⟨before, l, after, rfl, rfl⟩ := exists_append_of_mem_layOut ht
  have hchars : text.toList = before.flatMap Lexeme.chars ++
      (l.chars ++ after.flatMap Lexeme.chars) := by
    rw [← hall.flatMap_chars, List.flatMap_append, List.flatMap_cons]
  obtain ⟨_, hleads⟩ := hall.leads
  have hpart : Lexes d true (String.ofList l.chars).toList [l] := by
    rw [String.toList_ofList]
    exact hleads.lexes
  refine ⟨String.ofList l.chars, ?_, ?_⟩
  · rw [Nat.zero_add]
    exact Text.slice?_of_toList_eq hchars
  · rw [lex_of_lexes hpart, ← String.utf8Len_toList, String.toList_ofList]
    rfl

/-- A string that is not closed. It ends in a line break after a backslash, which the line feed
after it does not join. -/
theorem lex_slice_of_mem_lex_unclosed :
    let text := "x='\\\n\n"
    let t : Token := ⟨.string, 2, 3⟩
    t ∈ lex .luaJIT text ∧ ∃ part, Text.slice? text t.span = some part ∧
      lex .luaJIT part = #[⟨.string, 0, part.utf8ByteSize⟩] := by
  intro text t
  have ht : t ∈ lex .luaJIT text := by decide +kernel
  exact ⟨ht, lex_slice_of_mem_lex ht⟩

/-! ### The rest of a text -/

/-- A token of the text starts at the byte offset, or the text ends there. -/
def IsTokenBoundary (d : Dialect) (text : String) (offset : Nat) : Prop :=
  offset = text.utf8ByteSize ∨ ∃ t ∈ lex d text, t.span.start = offset

theorem IsTokenBoundary.exists_split {text : String} {offset : Nat}
    (h : IsTokenBoundary d text offset) (hls : Lexes d true text.toList ls) :
    ∃ before after, ls = before ++ after ∧ sizes before = offset := by
  rcases h with rfl | ⟨t, ht, rfl⟩
  · refine ⟨ls, [], (List.append_nil ls).symm, ?_⟩
    rw [sizes, hls.flatMap_chars, String.utf8Len_toList]
  · rw [lex_of_lexes hls, List.mem_toArray] at ht
    obtain ⟨before, l, after, rfl, rfl⟩ := exists_append_of_mem_layOut ht
    exact ⟨before, l :: after, rfl, (Nat.zero_add _).symm⟩

/-- Of laid out lexemes that are not empty, those after a cut are the ones that start there or
later. -/
theorem filter_layOut (start : Nat) (hpos : ∀ l ∈ ls, 0 < l.size) (ls' : List Lexeme) :
    (layOut start (ls ++ ls')).filter (fun t => start + sizes ls ≤ t.span.start) =
      layOut (start + sizes ls) ls' := by
  rw [layOut_append, List.filter_append]
  have hbefore : (layOut start ls).filter (fun t => start + sizes ls ≤ t.span.start) = [] := by
    rw [List.filter_eq_nil_iff]
    intro t ht
    obtain ⟨before, l, after, rfl, rfl⟩ := exists_append_of_mem_layOut ht
    have hl := hpos l (by simp)
    rw [sizes_append, sizes_cons]
    simp only [decide_eq_true_eq]
    omega
  have hafter : (layOut (start + sizes ls) ls').filter (fun t => start + sizes ls ≤ t.span.start) =
      layOut (start + sizes ls) ls' := by
    rw [List.filter_eq_self]
    intro t ht
    obtain ⟨before, l, after, rfl, rfl⟩ := exists_append_of_mem_layOut ht
    simp only [decide_eq_true_eq]
    omega
  rw [hbefore, hafter, List.nil_append]

/-- The lexer can be started anew at any token boundary. What is left of the text from there on has
the tokens that the text has there and later, unless it starts like a shebang line. -/
theorem lex_rest {text : String} {offset : Nat} (h : IsTokenBoundary d text offset) :
    ∃ rest, Text.slice? text ⟨offset, text.utf8ByteSize - offset⟩ = some rest ∧
      (¬ ['#', '!'] <+: rest.toList →
        (lex d rest).map (Token.shift offset) =
          (lex d text).filter fun t => offset ≤ t.span.start) := by
  obtain ⟨all, hall⟩ := exists_lexes d true text.toList
  obtain ⟨ls, ls', rfl, rfl⟩ := h.exists_split hall
  have hchars : text.toList = ls.flatMap Lexeme.chars ++ (ls'.flatMap Lexeme.chars ++ []) := by
    rw [← hall.flatMap_chars, List.flatMap_append, List.append_nil]
  have hlength : text.utf8ByteSize - sizes ls = sizes ls' := by
    have hsize : text.utf8ByteSize = sizes ls + sizes ls' := by
      rw [← sizes_append, sizes, hall.flatMap_chars, String.utf8Len_toList]
    omega
  refine ⟨String.ofList (ls'.flatMap Lexeme.chars), ?_, fun hshebang => ?_⟩
  · rw [hlength]
    exact Text.slice?_of_toList_eq hchars
  · rw [String.toList_ofList] at hshebang
    have hrest : Lexes d true (String.ofList (ls'.flatMap Lexeme.chars)).toList ls' := by
      rw [String.toList_ofList]
      by_cases hls : ls = []
      · subst hls
        have hwhole : Lexes d true text.toList ls' := hall
        rwa [hwhole.flatMap_chars]
      · exact (hall.drop hls).opens hshebang
    have hpos : ∀ l ∈ ls, 0 < l.size := by
      intro l hl
      obtain ⟨_, _, hlead⟩ := hall.leads_of_mem (List.mem_append_left ls' hl)
      exact hlead.size_pos
    have hfilter := filter_layOut 0 hpos ls'
    rw [Nat.zero_add] at hfilter
    rw [lex_of_lexes hrest, lex_of_lexes hall, List.filter_toArray, hfilter, List.map_toArray,
      ← layOut_add, Nat.add_zero]

/-- The rest starts with the line break of a shebang line, and another line that looks like one. -/
theorem lex_rest_shebang :
    let text := "#!sh\n#!x"
    let rest := "\n#!x"
    IsTokenBoundary .lua55 text 4 ∧ Text.slice? text ⟨4, 4⟩ = some rest ∧
      ¬ ['#', '!'] <+: rest.toList ∧
      (lex .lua55 rest).map (Token.shift 4) = (lex .lua55 text).filter fun t => 4 ≤ t.span.start := by
  intro text rest
  have hboundary : IsTokenBoundary .lua55 text 4 := Or.inr ⟨⟨.endOfLine, 4, 1⟩, by decide +kernel, rfl⟩
  have hslice : Text.slice? text ⟨4, 4⟩ = some rest := by decide +kernel
  have hshebang : ¬ ['#', '!'] <+: rest.toList := by decide +kernel
  obtain ⟨rest', hrest, hlex⟩ := lex_rest hboundary
  obtain rfl : rest = rest' := Option.some.inj (hslice.symm.trans hrest)
  exact ⟨hboundary, hslice, hshebang, hlex hshebang⟩

/-! ### A longer text -/

/-- More text at the end of a text changes no token but the last one, neither its kind nor its
place. -/
theorem dropLast_lex_prefix_lex_append (d : Dialect) (text more : String) :
    (lex d text).toList.dropLast <+: (lex d (text ++ more)).toList := by
  obtain ⟨all, hall⟩ := exists_lexes d true text.toList
  rcases List.eq_nil_or_concat' all with rfl | ⟨ls, l, rfl⟩
  · rw [lex_of_lexes hall]
    exact List.nil_prefix
  · obtain ⟨ls', hls'⟩ := hall.extend more.toList
    rw [← String.toList_append] at hls'
    have hlast : (layOut 0 (ls ++ [l])).dropLast = layOut 0 ls := by
      rw [layOut_append]
      exact List.dropLast_concat
    rw [lex_of_lexes hall, lex_of_lexes hls', hlast, layOut_append]
    exact List.prefix_append _ _

end LuaFold
