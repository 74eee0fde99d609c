import LuaFold.Proofs.Slices
import LuaFold.Proofs.TokenKinds

/-! The tokens of a text cover it: they stand one after another from its first byte to its last, none
of them is empty or cuts a character, and their texts put together are the text. Nor does the lexer
ever make a token of a kind that stands for the lack of one. -/

namespace LuaFold

variable {ls : List Lexeme}

/-! ### Places -/

theorem mapM_slice?_layOut {text : String} {before after : List Char}
    (h : text.toList = before ++ (ls.flatMap Lexeme.chars ++ after)) :
    (layOut (String.utf8Len before) ls).mapM (fun t => Text.slice? text t.span) =
      some (ls.map fun l => String.ofList l.chars) := by
  induction ls generalizing before with
  | nil => rfl
  | cons l ls ih =>
    have hhead : text.toList = before ++ (l.chars ++ (ls.flatMap Lexeme.chars ++ after)) := by
      rw [h, List.flatMap_cons, List.append_assoc]
    have htail : text.toList = (before ++ l.chars) ++ (ls.flatMap Lexeme.chars ++ after) := by
      rw [hhead, List.append_assoc]
    have hstart : String.utf8Len before + l.size = String.utf8Len (before ++ l.chars) :=
      (String.utf8Len_append before l.chars).symm
    have hslice : Text.slice? text ⟨String.utf8Len before, l.size⟩ =
        some (String.ofList l.chars) := Text.slice?_of_toList_eq hhead
    rw [layOut, List.mapM_cons, hslice, hstart, ih htail]
    rfl

/-! ### The text in tokens -/

/-- The tokens of a text, whatever its characters are, divide it from its first byte to its last into
parts that are not empty and cut no character. None of them stands for the lack of a token, and their
texts put together are the text. -/
theorem lex_tiles_text (d : Dialect) (text : String) :
    Tiles 0 (lex d text).toList text.utf8ByteSize ∧
      (∀ t ∈ lex d text, 0 < t.span.length ∧ t.kind ≠ .absent ∧ t.kind ≠ .eof ∧
        String.Pos.Raw.IsValid text ⟨t.span.start⟩ ∧ String.Pos.Raw.IsValid text ⟨t.span.stop⟩) ∧
      ∃ parts, (lex d text).toList.mapM (fun t => Text.slice? text t.span) = some parts ∧
        String.join parts = text := by
  obtain ⟨ls, hls⟩ := exists_lexes d true text.toList
  refine ⟨tiled_lex d text, ?_, ls.map fun l => String.ofList l.chars, ?_, ?_⟩
  · intro t ht
    rw [lex_of_lexes hls, List.mem_toArray] at ht
    obtain ⟨before, l, after, rfl, rfl⟩ := exists_append_of_mem_layOut ht
    obtain ⟨_, _, hlead⟩ := hls.leads_of_mem (l := l) (by simp)
    have hpos : 0 < l.size := by
      rw [Nat.pos_iff_ne_zero]
      intro hzero
      exact hlead.chars_ne_nil (String.utf8Len_eq_zero.mp hzero)
    obtain ⟨habsent, heof⟩ := TokenKind.isLexical_iff.mp hlead.isLexical_kind
    have hstart : text.toList = before.flatMap Lexeme.chars ++
        (l.chars ++ after.flatMap Lexeme.chars) := by
      rw [← hls.flatMap_chars, List.flatMap_append, List.flatMap_cons]
    have hstop : text.toList = (before.flatMap Lexeme.chars ++ l.chars) ++
        after.flatMap Lexeme.chars := by
      rw [hstart, List.append_assoc]
    refine ⟨hpos, habsent, heof, ?_, ?_⟩
    · show String.Pos.Raw.IsValid text ⟨0 + sizes before⟩
      rw [Nat.zero_add]
      exact Text.isValid_of_toList_eq hstart
    · show String.Pos.Raw.IsValid text ⟨0 + sizes before + l.size⟩
      rw [Nat.zero_add, sizes, Lexeme.size, ← String.utf8Len_append]
      exact Text.isValid_of_toList_eq hstop
  · rw [lex_of_lexes hls]
    have htext : text.toList = [] ++ (ls.flatMap Lexeme.chars ++ []) := by
      rw [hls.flatMap_chars, List.nil_append, List.append_nil]
    exact mapM_slice?_layOut htext
  · rw [← String.toList_inj, String.toList_join, ← hls.flatMap_chars, List.flatMap_map]
    simp only [String.toList_ofList]

/-- A string that is not closed, with a NUL and a letter of two bytes in it. -/
theorem lex_tiles_text_unclosed :
    let text := "x='\x00é"
    let t : Token := ⟨.string, 2, 4⟩
    t ∈ lex .lua55 text ∧ 0 < t.span.length ∧ t.kind ≠ .absent ∧ t.kind ≠ .eof ∧
      String.Pos.Raw.IsValid text ⟨t.span.start⟩ ∧ String.Pos.Raw.IsValid text ⟨t.span.stop⟩ := by
  intro text t
  have ht : t ∈ lex .lua55 text := by decide +kernel
  exact ⟨ht, (lex_tiles_text .lua55 text).2.1 t ht⟩

end LuaFold
