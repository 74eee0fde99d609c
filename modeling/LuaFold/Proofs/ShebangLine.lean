import LuaFold.Proofs.TokenKinds

/-! The shebang line. Only a text that starts like one has it, and it is the first token, up to a line
break. The lexer knows the start of a text by the number of its line, which is the first one until a
line break is read, in a token of any kind. -/

namespace LuaFold

variable {d : Dialect} {text : String} {ls : List Lexeme} {cs : List Char}

/-! ### The run of the lexer -/

namespace Lexer

/-- `Reaches d text done lx` says that the lexer over the text comes to `lx` once it has read the tokens
`done`. -/
inductive Reaches (d : Dialect) (text : String) : Array Token → Lexer → Prop
  | start : Reaches d text #[] (.ofString d text)
  | next {done : Array Token} {lx lx' : Lexer} {t : Token} (h : Reaches d text done lx)
    (hnext : lx.next? = some (t, lx')) : Reaches d text (done.push t) lx'

theorem exists_past_of_next? {lx lx' : Lexer} {t : Token} (h : lx.next? = some (t, lx')) :
    ∃ l rest, lx.scanner.rest = l.chars ++ rest ∧ l.Leads lx.dialect lx.atTextStart rest ∧
      lx' = lx.past l rest := by
  cases hchars : lx.scanner.rest with
  | nil =>
    simp only [next?, hchars] at h
    cases h
  | cons c cs =>
    obtain ⟨l, rest, hsplit, hleads⟩ := Lexeme.exists_leads lx.dialect lx.atTextStart c cs
    rw [next?_of_leads (hchars.trans hsplit) hleads, Option.some.injEq, Prod.mk.injEq] at h
    exact ⟨l, rest, hsplit, hleads, h.2.symm⟩

/-- The lexer has read the characters `consumed` of the text, and is in its first line if there is no
line break among them. -/
structure Consumed (text : String) (lx : Lexer) (consumed : List Char) : Prop where
  split : text.toList = consumed ++ lx.scanner.rest
  offset : lx.scanner.offset = String.utf8Len consumed
  line_pos : 1 ≤ lx.line
  line : lx.line = 1 ↔ ∀ c ∈ consumed, Text.isLineBreak c = false

theorem Consumed.next {lx lx' : Lexer} {consumed : List Char} {t : Token}
    (h : Consumed text lx consumed) (hnext : lx.next? = some (t, lx')) :
    ∃ more, Consumed text lx' (consumed ++ more) := by
  obtain ⟨l, rest, hsplit, -, rfl⟩ := exists_past_of_next? hnext
  have hpos := h.line_pos
  refine ⟨l.chars, ?_, ?_, Nat.le_add_right_of_le hpos, ?_⟩
  · rw [h.split, hsplit, List.append_assoc]
    rfl
  · rw [String.utf8Len_append, ← h.offset]
    rfl
  · have hline : lx.line + Text.lineBreaks l.chars = 1 ↔
        lx.line = 1 ∧ Text.lineBreaks l.chars = 0 := by
      omega
    rw [List.forall_mem_append, ← h.line, ← Text.lineBreaks_eq_zero_iff]
    exact hline

namespace Reaches

variable {done : Array Token} {lx : Lexer}

/-- The run goes on to the end of the text. -/
theorem exists_last (h : Reaches d text done lx) :
    ∃ last, Reaches d text (lx.readFrom done) last ∧ last.next? = none := by
  fun_induction readFrom done lx with
  | case1 done lx hnext => exact ⟨lx, h, hnext⟩
  | case2 done lx t lx' hnext ih => exact ih (h.next hnext)

theorem exists_consumed (h : Reaches d text done lx) : ∃ consumed, Consumed text lx consumed := by
  induction h with
  | start => exact ⟨[], rfl, rfl, Nat.le_refl 1, by simp [Lexer.ofString]⟩
  | next _ hnext ih =>
    obtain ⟨consumed, hconsumed⟩ := ih
    obtain ⟨more, hmore⟩ := hconsumed.next hnext
    exact ⟨_, hmore⟩

end Reaches

end Lexer

/-! ### Tokens -/

theorem Lexes.kind_ne_shebang (h : Lexes d false cs ls) : ∀ l ∈ ls, l.kind ≠ .shebang := by
  induction ls generalizing cs with
  | nil => exact List.forall_mem_nil _
  | cons l ls ih =>
    cases h with
    | cons head tail =>
      have hinner := head.isInner_kind Bool.noConfusion
      exact List.forall_mem_cons.mpr ⟨(TokenKind.isInner_iff.mp hinner).2, ih tail⟩

theorem Lexes.exists_shebang (h : Lexes d true cs ls) (hshebang : ['#', '!'] <+: cs) :
    ∃ later, ls = ⟨.shebang, cs.takeWhile fun c => !Text.isLineBreak c⟩ :: later := by
  cases h with
  | nil => cases List.prefix_nil.mp hshebang
  | @cons _ l rest later head tail =>
    obtain ⟨hkind, hchars⟩ := head.shebang hshebang
    exact ⟨later, by rw [← hkind, ← hchars]⟩

/-- A shebang line is the first lexeme of a text that starts like one, and no other. -/
theorem Lexes.kind_eq_shebang_iff {i : Nat} {l : Lexeme} (h : Lexes d true cs ls)
    (hl : ls[i]? = some l) : l.kind = .shebang ↔ i = 0 ∧ ['#', '!'] <+: cs := by
  cases h with
  | nil => cases hl
  | @cons _ first rest later head tail =>
    cases i with
    | zero =>
      obtain rfl : first = l := Option.some.inj hl
      constructor
      · intro hkind
        refine ⟨rfl, ?_⟩
        by_contra hshebang
        have hinner := head.isInner_kind fun _ => hshebang
        exact (TokenKind.isInner_iff.mp hinner).2 hkind
      · exact fun hshebang => (head.shebang hshebang.2).1
    | succ i =>
      have hne := tail.kind_ne_shebang l (List.mem_of_getElem? hl)
      simp [hne]

theorem kind_eq_shebang_iff {i : Nat} {t : Token} (ht : (lex d text)[i]? = some t) :
    t.kind = .shebang ↔ i = 0 ∧ ['#', '!'] <+: text.toList := by
  obtain ⟨ls, hls⟩ := exists_lexes d true text.toList
  have hi : i < ls.length := by
    rw [← size_lex hls]
    exact (Array.getElem?_eq_some_iff.mp ht).1
  have hl := List.getElem?_eq_getElem hi
  obtain ⟨t', ht', hkind, -⟩ := exists_getElem?_lex hls hl
  obtain rfl : t' = t := Option.some.inj (ht'.symm.trans ht)
  rw [hkind, hls.kind_eq_shebang_iff hl]

theorem getElem?_lex_zero_of_shebang (d : Dialect) (hshebang : ['#', '!'] <+: text.toList) :
    (lex d text)[0]? = some ⟨.shebang, 0,
      String.utf8Len (text.toList.takeWhile fun c => !Text.isLineBreak c)⟩ := by
  obtain ⟨ls, hls⟩ := exists_lexes d true text.toList
  obtain ⟨later, rfl⟩ := hls.exists_shebang hshebang
  rw [lex_of_lexes hls]
  rfl

/-- A text has a shebang line if it starts with `#!`, and only then. It is the first token and no other
one, and has all the characters up to the first line break. From the start of the text to its end, the
lexer is in the first line before a token as long as it has read no line break. -/
theorem lex_shebang (d : Dialect) (text : String) :
    ((∃ t ∈ lex d text, t.kind = .shebang) ↔ ['#', '!'] <+: text.toList) ∧
      (∀ i t, (lex d text)[i]? = some t → t.kind = .shebang → i = 0 ∧
        t.span = ⟨0, String.utf8Len (text.toList.takeWhile fun c => !Text.isLineBreak c)⟩) ∧
      (∃ last, Lexer.Reaches d text (lex d text) last ∧ last.next? = none) ∧
      ∀ done lx, Lexer.Reaches d text done lx →
        ∃ consumed, text.toList = consumed ++ lx.scanner.rest ∧
          lx.scanner.offset = String.utf8Len consumed ∧
          (lx.line = 1 ↔ ∀ c ∈ consumed, Text.isLineBreak c = false) := by
  refine ⟨⟨?_, fun hshebang => ?_⟩, fun i t ht hkind => ?_, ?_, fun done lx h => ?_⟩
  · rintro ⟨t, ht, hkind⟩
    obtain ⟨i, ht⟩ := Array.getElem?_of_mem ht
    exact ((kind_eq_shebang_iff ht).mp hkind).2
  · exact ⟨_, Array.mem_of_getElem? (getElem?_lex_zero_of_shebang d hshebang), rfl⟩
  · obtain ⟨rfl, hshebang⟩ := (kind_eq_shebang_iff ht).mp hkind
    rw [getElem?_lex_zero_of_shebang d hshebang] at ht
    obtain rfl := Option.some.inj ht
    exact ⟨rfl, rfl⟩
  · exact Lexer.Reaches.start.exists_last
  · obtain ⟨consumed, hconsumed⟩ := h.exists_consumed
    exact ⟨consumed, hconsumed.split, hconsumed.offset, hconsumed.line⟩

end LuaFold
