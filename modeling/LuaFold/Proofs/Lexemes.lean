import LuaFold.Lexer.Basic
import LuaFold.Proofs.NewLines
import LuaFold.Proofs.Slices
import LuaFold.Proofs.Tiling

/-! The tokens of a text as a list of lexemes, which have no offsets: `Lexes` says how characters
divide into them, and `layOut` gives them their places. -/

namespace LuaFold

/-- A token without its place: what it is, and its characters. -/
structure Lexeme where
  kind : TokenKind
  chars : List Char
deriving DecidableEq

namespace Lexeme

/-- The length of the lexeme in bytes. -/
def size (l : Lexeme) : Nat :=
  String.utf8Len l.chars

/-- `l.Leads d opensText rest` says that `l` is the first lexeme of `l.chars ++ rest`. -/
inductive Leads (d : Dialect) (opensText : Bool) : Lexeme → List Char → Prop
  | intro {c : Char} {taken rest : List Char} {state : LexState}
    (h : Munches (LexState.step d) (LexState.start opensText c) taken rest state) :
    Leads d opensText
      ⟨state.kind?.getD (TokenKind.ofWord (String.ofList (c :: taken))), c :: taken⟩ rest

end Lexeme

/-- `Lexes d opensText cs ls` says that the characters `cs` divide into the lexemes `ls`. With
`opensText` they are the first ones of a text. -/
inductive Lexes (d : Dialect) : Bool → List Char → List Lexeme → Prop
  | nil {opensText : Bool} : Lexes d opensText [] []
  | cons {opensText : Bool} {l : Lexeme} {rest : List Char} {ls : List Lexeme}
    (head : l.Leads d opensText rest) (tail : Lexes d false rest ls) :
    Lexes d opensText (l.chars ++ rest) (l :: ls)

/-- The tokens that lexemes become when they stand one after another from the offset `start` on. -/
def layOut (start : Nat) : List Lexeme → List Token
  | [] => []
  | l :: ls => ⟨l.kind, start, l.size⟩ :: layOut (start + l.size) ls

variable {d : Dialect} {opensText : Bool} {l : Lexeme} {ls : List Lexeme} {cs rest : List Char}

/-! ### Laid out lexemes -/

/-- The length of the lexemes in bytes. -/
def sizes (ls : List Lexeme) : Nat :=
  String.utf8Len (ls.flatMap Lexeme.chars)

theorem sizes_cons (l : Lexeme) (ls : List Lexeme) : sizes (l :: ls) = l.size + sizes ls := by
  rw [sizes, List.flatMap_cons, String.utf8Len_append]
  rfl

theorem length_layOut (start : Nat) (ls : List Lexeme) : (layOut start ls).length = ls.length := by
  induction ls generalizing start with
  | nil => rfl
  | cons l ls ih => rw [layOut, List.length_cons, List.length_cons, ih]

theorem layOut_append (start : Nat) (ls ls' : List Lexeme) :
    layOut start (ls ++ ls') = layOut start ls ++ layOut (start + sizes ls) ls' := by
  induction ls generalizing start with
  | nil => rfl
  | cons l ls ih =>
    have hstart : start + l.size + sizes ls = start + sizes (l :: ls) := by
      rw [sizes_cons]
      omega
    rw [List.cons_append, layOut, ih, hstart]
    rfl

theorem tiles_layOut (start : Nat) (ls : List Lexeme) :
    Tiles start (layOut start ls) (start + sizes ls) := by
  induction ls generalizing start with
  | nil => rfl
  | cons l ls ih =>
    refine ⟨rfl, ?_⟩
    rw [sizes_cons, ← Nat.add_assoc]
    exact ih (start + l.size)

/-- A laid out token stands after the lexemes before its own. -/
theorem exists_append_of_mem_layOut {start : Nat} {t : Token} (h : t ∈ layOut start ls) :
    ∃ before l after, ls = before ++ l :: after ∧ t = ⟨l.kind, start + sizes before, l.size⟩ := by
  induction ls generalizing start with
  | nil => cases h
  | cons l ls ih =>
    rcases List.mem_cons.mp h with rfl | h
    · exact ⟨[], l, ls, rfl, rfl⟩
    · obtain ⟨before, l', after, rfl, rfl⟩ := ih h
      refine ⟨l :: before, l', after, rfl, ?_⟩
      rw [sizes_cons, Nat.add_assoc]

theorem sizes_append (ls ls' : List Lexeme) : sizes (ls ++ ls') = sizes ls + sizes ls' := by
  rw [sizes, List.flatMap_append, String.utf8Len_append]
  rfl

/-! ### Every text has its lexemes -/

theorem Lexeme.exists_leads (d : Dialect) (opensText : Bool) (c : Char) (cs : List Char) :
    ∃ (l : Lexeme) (rest : List Char), c :: cs = l.chars ++ rest ∧ l.Leads d opensText rest := by
  obtain ⟨taken, rest, state, rfl, h⟩ :=
    Munches.exists_split (LexState.step d) (LexState.start opensText c) cs
  exact ⟨_, rest, rfl, .intro h⟩

theorem Lexeme.Leads.chars_ne_nil (h : l.Leads d opensText rest) : l.chars ≠ [] := by
  cases h with
  | intro _ => exact List.cons_ne_nil _ _

theorem Lexeme.Leads.size_pos (h : l.Leads d opensText rest) : 0 < l.size := by
  rw [Nat.pos_iff_ne_zero]
  intro hzero
  exact h.chars_ne_nil (String.utf8Len_eq_zero.mp hzero)

theorem exists_lexes (d : Dialect) (opensText : Bool) (cs : List Char) :
    ∃ ls, Lexes d opensText cs ls := by
  induction hn : cs.length using Nat.strongRecOn generalizing opensText cs with
  | ind n ih =>
    cases cs with
    | nil => exact ⟨[], .nil⟩
    | cons c cs =>
      obtain ⟨l, rest, hcs, hl⟩ := Lexeme.exists_leads d opensText c cs
      have hpos : 0 < l.chars.length := List.length_pos_of_ne_nil hl.chars_ne_nil
      have hlt : rest.length < n := by
        rw [← hn, hcs, List.length_append]
        omega
      obtain ⟨ls, hls⟩ := ih rest.length hlt false rest rfl
      exact ⟨l :: ls, hcs ▸ .cons hl hls⟩

theorem Lexes.flatMap_chars (h : Lexes d opensText cs ls) : ls.flatMap Lexeme.chars = cs := by
  induction h with
  | nil => rfl
  | cons _ _ ih => rw [List.flatMap_cons, ih]

theorem Lexes.chars_ne_nil (h : Lexes d opensText cs ls) (hls : ls ≠ []) : cs ≠ [] := by
  cases h with
  | nil => exact absurd rfl hls
  | cons head _ => exact List.append_ne_nil_of_left_ne_nil head.chars_ne_nil _

/-- A lexeme is the first one of its characters and all that come after it. -/
theorem Lexes.leads {ls' : List Lexeme} (h : Lexes d opensText cs (ls ++ l :: ls')) :
    ∃ opensText, l.Leads d opensText (ls'.flatMap Lexeme.chars) := by
  induction ls generalizing opensText cs with
  | nil =>
    cases h with
    | cons head tail => exact ⟨_, tail.flatMap_chars ▸ head⟩
  | cons _ ls ih =>
    cases h with
    | cons _ tail => exact ih tail

theorem Lexes.leads_of_mem (h : Lexes d opensText cs ls) (hl : l ∈ ls) :
    ∃ opensText rest, l.Leads d opensText rest := by
  obtain ⟨earlier, later, rfl⟩ := List.append_of_mem hl
  obtain ⟨opensText, hleads⟩ := h.leads
  exact ⟨opensText, _, hleads⟩

/-! ### The lexer reads them -/

namespace Lexer

/-- The lexer after a lexeme, with `rest` left. -/
def past (lx : Lexer) (l : Lexeme) (rest : List Char) : Lexer :=
  { lx with
    scanner := lx.scanner.mark.past l.chars rest
    line := lx.line + Text.lineBreaks l.chars }

theorem next?_of_leads {lx : Lexer} (hrest : lx.scanner.rest = l.chars ++ rest)
    (h : l.Leads lx.dialect lx.atTextStart rest) :
    lx.next? = some (⟨l.kind, lx.scanner.offset, l.size⟩, lx.past l rest) := by
  cases h with
  | @intro c taken _ state h =>
    have hmark : lx.scanner.mark.rest = c :: (taken ++ rest) := hrest
    have hmunch : lx.scanner.mark.advance.munch (LexState.stepLine lx.dialect)
        (LexState.start lx.atTextStart c, (LexState.start lx.atTextStart c).countLine lx.line) =
          ((state, lx.line + Text.lineBreaks (c :: taken)),
            lx.scanner.mark.past (c :: taken) rest) := by
      rw [Scanner.munch_eq_past (by rw [Scanner.rest_advance, hmark]; rfl)
        (h.stepLine_start lx.line), Scanner.advance_past hmark]
    have hlexeme : (lx.scanner.mark.past (c :: taken) rest).lexeme.reverse = c :: taken := by
      show ((c :: taken).reverse ++ []).reverse = c :: taken
      rw [List.append_nil, List.reverse_reverse]
    have hspan : (lx.scanner.mark.past (c :: taken) rest).span =
        ⟨lx.scanner.offset, String.utf8Len (c :: taken)⟩ := by
      show Span.mk _ (lx.scanner.offset + _ - lx.scanner.offset) = _
      rw [Nat.add_sub_cancel_left]
      rfl
    have hchars : lx.scanner.rest = c :: (taken ++ rest) := hrest
    simp only [next?, hchars, hmunch, Scanner.text, hlexeme, hspan]
    rfl

theorem atTextStart_past {lx : Lexer} (hline : 1 ≤ lx.line) (hl : l.chars ≠ []) :
    (lx.past l rest).atTextStart = false := by
  have hprevious : (lx.past l rest).scanner.previous = some (l.chars.getLast hl) := by
    show l.chars.getLast?.or _ = _
    rw [List.getLast?_eq_some_getLast hl]
    rfl
  by_cases hbreak : Text.isLineBreak (l.chars.getLast hl) = true
  · have hpos := Text.lineBreaks_pos (List.getLast_mem hl) hbreak
    have hne : ¬ lx.line + Text.lineBreaks l.chars = 1 := by omega
    rw [atTextStart, Bool.and_eq_false_iff]
    exact Or.inr (by simpa [past] using hne)
  · rw [atTextStart, Scanner.atLineStart, hprevious]
    simp [hbreak]

theorem readFrom_of_next?_eq_none {lx : Lexer} (h : lx.next? = none) (done : Array Token) :
    lx.readFrom done = done := by
  rw [readFrom]
  split
  · rfl
  · rename_i hnext
    rw [h] at hnext
    cases hnext

theorem readFrom_of_next?_eq_some {lx lx' : Lexer} {t : Token} (h : lx.next? = some (t, lx'))
    (done : Array Token) : lx.readFrom done = lx'.readFrom (done.push t) := by
  rw [readFrom]
  split
  · rename_i hnext
    rw [h] at hnext
    cases hnext
  · rename_i hnext
    rw [h] at hnext
    cases hnext
    rfl

theorem readFrom_of_lexes {lx : Lexer} (hline : 1 ≤ lx.line)
    (h : Lexes lx.dialect lx.atTextStart lx.scanner.rest ls) (done : Array Token) :
    lx.readFrom done = done ++ (layOut lx.scanner.offset ls).toArray := by
  induction ls generalizing lx done with
  | nil =>
    generalize hrest : lx.scanner.rest = cs at h
    cases h with
    | nil =>
      have hnext : lx.next? = none := by simp only [next?, hrest]
      rw [readFrom_of_next?_eq_none hnext]
      exact Array.append_empty.symm
  | cons l ls ih =>
    generalize hrest : lx.scanner.rest = cs at h
    cases h with
    | @cons _ _ rest _ head tail =>
      have hstart : (lx.past l rest).atTextStart = false :=
        atTextStart_past hline head.chars_ne_nil
      have htail : Lexes (lx.past l rest).dialect (lx.past l rest).atTextStart
          (lx.past l rest).scanner.rest ls := by
        rw [hstart]
        exact tail
      have hoffset : (lx.past l rest).scanner.offset = lx.scanner.offset + l.size := rfl
      rw [readFrom_of_next?_eq_some (next?_of_leads hrest head),
        ih (Nat.le_add_right_of_le hline) htail, hoffset, ← Array.toList_inj]
      simp [layOut]

end Lexer

/-- The tokens of a text are its lexemes, one after another. -/
theorem lex_of_lexes {text : String} (h : Lexes d true text.toList ls) :
    lex d text = (layOut 0 ls).toArray := by
  have hline : 1 ≤ (Lexer.ofString d text).line := Nat.le_refl 1
  rw [lex, Lexer.readFrom_of_lexes hline h, Array.empty_append]
  rfl

/-- A token is the first lexeme of the text from its own start on. -/
theorem exists_leads_of_mem_lex {text : String} {t : Token} {before : List Char} (ht : t ∈ lex d text)
    (htext : text.toList = before ++ cs) (hstart : t.span.start = String.utf8Len before) :
    ∃ (opensText : Bool) (l : Lexeme) (rest : List Char), cs = l.chars ++ rest ∧
      l.Leads d opensText rest ∧ t.kind = l.kind ∧ t.span.length = String.utf8Len l.chars := by
  obtain ⟨ls, hls⟩ := exists_lexes d true text.toList
  rw [lex_of_lexes hls, List.mem_toArray] at ht
  obtain ⟨earlier, l, later, rfl, rfl⟩ := exists_append_of_mem_layOut ht
  have hchars := hls.flatMap_chars
  rw [List.flatMap_append, List.flatMap_cons, htext] at hchars
  have hbefore : String.utf8Len (earlier.flatMap Lexeme.chars) = String.utf8Len before := by
    rw [← hstart, Nat.zero_add, sizes]
  have hrest := (Text.append_inj_of_utf8Len hchars hbefore).2.symm
  obtain ⟨opensText, hleads⟩ := hls.leads
  exact ⟨opensText, l, _, hrest, hleads, rfl, rfl⟩

theorem tiled_lex (d : Dialect) (text : String) : TokenStream.Tiled ⟨text, lex d text⟩ := by
  obtain ⟨ls, hls⟩ := exists_lexes d true text.toList
  have htiles := tiles_layOut 0 ls
  rw [Nat.zero_add, sizes, hls.flatMap_chars, String.utf8Len_toList] at htiles
  rwa [TokenStream.Tiled, lex_of_lexes hls]

theorem size_lex {text : String} (h : Lexes d true text.toList ls) :
    (lex d text).size = ls.length := by
  rw [lex_of_lexes h, List.size_toArray, length_layOut]

/-- The token with a number is the lexeme with that number, and its text is that of the lexeme. -/
theorem exists_getElem?_lex {text : String} (h : Lexes d true text.toList ls) {i : Nat}
    (hl : ls[i]? = some l) :
    ∃ t, (lex d text)[i]? = some t ∧ t.kind = l.kind ∧
      Text.slice? text t.span = some (String.ofList l.chars) := by
  obtain ⟨hi, rfl⟩ := List.getElem?_eq_some_iff.mp hl
  have hsplit : ls = ls.take i ++ ls[i] :: ls.drop (i + 1) := by
    rw [← List.drop_eq_getElem_cons hi, List.take_append_drop]
  have hchars : text.toList = (ls.take i).flatMap Lexeme.chars ++
      (ls[i].chars ++ (ls.drop (i + 1)).flatMap Lexeme.chars) := by
    rw [← h.flatMap_chars, ← List.flatMap_cons, ← List.flatMap_append, ← hsplit]
  have hlength : (layOut 0 (ls.take i)).length = i := by
    rw [length_layOut, List.length_take]
    omega
  refine ⟨⟨ls[i].kind, sizes (ls.take i), ls[i].size⟩, ?_, rfl, Text.slice?_of_toList_eq hchars⟩
  rw [lex_of_lexes h, List.getElem?_toArray]
  conv_lhs => rw [hsplit, layOut_append, Nat.zero_add]
  rw [List.getElem?_append_right (Nat.le_of_eq hlength), hlength, Nat.sub_self]
  rfl

end LuaFold
