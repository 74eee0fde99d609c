import LuaFold.Proofs.Lexemes

/-! What the dialects have in common. Lua 5.4 and Lua 5.5 have the same tokens. LuaJIT goes on with a
number over letters that end it in the other two, where they start a word. So a text has the same tokens
in LuaJIT as well, unless a number in it has such a word right after it. -/

namespace LuaFold

/-- The letters over which LuaJIT goes on with some numbers that end before them in the other dialects.
-/
def numberLetters : List Char :=
  ['i', 'u', 'U', 'l', 'L', 'b', 'B']

/-- The text has an integer or a float and right after it a word that starts with one of the letters. -/
def HasLetteredNumber (d : Dialect) (text : String) : Prop :=
  ∃ t ∈ lex d text, ∃ t' ∈ lex d text, (t.kind = .int ∨ t.kind = .float) ∧
    t'.span.start = t.span.stop ∧ (t'.kind = .name ∨ t'.kind.isKeyword = true) ∧
    ∃ word ∈ Text.slice? text t'.span, word.toList.head?.any (· ∈ numberLetters) = true

instance (d : Dialect) (text : String) : Decidable (HasLetteredNumber d text) := by
  unfold HasLetteredNumber
  infer_instance

variable {d : Dialect} {opensText : Bool} {l : Lexeme} {ls : List Lexeme} {cs rest : List Char}

/-! ### Steps -/

namespace Numeral

variable {form form' : Numeral} {c : Char}

theorem step_luaJIT_of_notMem (hc : c ∉ numberLetters) :
    form.step .luaJIT c = form.step .lua55 c := by
  simp only [numberLetters, List.mem_cons, List.not_mem_nil, or_false, not_or] at hc
  have hsuffix (d : Dialect) : form.addSuffix d c = none := by
    simp [addSuffix, isSizeLetter, hc]
  rw [step, step, hsuffix, hsuffix]
  cases form <;> simp [extend, hc]

/-- Where Lua 5.5 goes on with a number, LuaJIT goes on with it in the same way. -/
theorem step_luaJIT_of_step (h : form.step .lua55 c = some form') :
    form.step .luaJIT c = some form' := by
  by_cases hc : c ∈ numberLetters
  · have hletters : numberLetters.all (fun c =>
        (form.step .lua55 c).all fun form' => form.step .luaJIT c = some form') = true := by
      cases form <;> decide
    have hletter := List.all_eq_true.mp hletters c hc
    rw [h] at hletter
    exact of_decide_eq_true hletter
  · rw [step_luaJIT_of_notMem hc, h]

theorem step_complex (d : Dialect) (c : Char) : complex.step d c = none := by
  simp [step, extend, addSuffix, isInteger]

end Numeral

namespace LexState

variable {state state' : LexState} {c : Char}

theorem step_luaJIT_of_step (h : state.step .lua55 c = some state') :
    state.step .luaJIT c = some state' := by
  cases state with
  | number form =>
    obtain ⟨form', hform, rfl⟩ := Option.map_eq_some_iff.mp h
    rw [step, Numeral.step_luaJIT_of_step hform]
    rfl
  | _ => exact h

/-- Where Lua 5.5 ends a token, LuaJIT ends it too, if it is not a number with one of the letters after
it. -/
theorem step_luaJIT_eq_none (h : state.step .lua55 c = none)
    (hc : state.kind? = some .int ∨ state.kind? = some .float → c ∉ numberLetters) :
    state.step .luaJIT c = none := by
  cases state with
  | number form =>
    by_cases hcomplex : form = .complex
    · rw [step, hcomplex, Numeral.step_complex]
      rfl
    · have hkind : form.kind = .int ∨ form.kind = .float := by
        cases form <;> simp [Numeral.kind, Numeral.isInteger] at hcomplex ⊢
      rw [step, Numeral.step_luaJIT_of_notMem (hc (by simpa [kind?] using hkind))]
      exact h
  | _ => exact h

theorem step_lua54_eq_step_lua55 : step .lua54 = step .lua55 := by
  funext state c
  cases state with
  | number form => cases form <;> rfl
  | _ => rfl

theorem start_of_mem_numberLetters (hc : c ∈ numberLetters) (opensText : Bool) :
    start opensText c = word := by
  have hletters : numberLetters.all (fun c => start opensText c = word) = true := by
    cases opensText <;> decide
  exact of_decide_eq_true (List.all_eq_true.mp hletters c hc)

end LexState

/-! ### Lexemes -/

namespace Lexeme.Leads

theorem luaJIT (h : l.Leads .lua55 opensText rest)
    (hrest : l.kind = .int ∨ l.kind = .float → ∀ c ∈ rest.head?, c ∉ numberLetters) :
    l.Leads .luaJIT opensText rest := by
  cases h with
  | @intro c taken _ state h =>
    refine .intro ⟨foldlM_of_steps LexState.step_luaJIT_of_step h.accepts, fun c' hc' => ?_⟩
    refine LexState.step_luaJIT_eq_none (h.stops c' hc') fun hnumber => hrest ?_ c' hc'
    rcases hnumber with hkind | hkind <;> simp [hkind]

/-- A lexeme that starts with one of the letters is a word. -/
theorem word_of_mem_numberLetters (h : l.Leads d opensText rest) {c : Char} (hc : c ∈ l.chars.head?)
    (hletter : c ∈ numberLetters) : l.kind = .name ∨ l.kind.isKeyword = true := by
  cases h with
  | @intro c' taken _ state h =>
    obtain rfl : c' = c := Option.some.inj hc
    rw [LexState.start_of_mem_numberLetters hletter] at h
    obtain ⟨rfl, -⟩ := h.eq_takeWhile (p := LexState.isWordPart) fun _ => rfl
    exact TokenKind.ofWord_eq_name_or_isKeyword _

end Lexeme.Leads

theorem Lexes.luaJIT (h : Lexes .lua55 opensText cs ls)
    (hrest : ∀ earlier l later, ls = earlier ++ l :: later → l.kind = .int ∨ l.kind = .float →
      ∀ c ∈ (later.flatMap Lexeme.chars).head?, c ∉ numberLetters) :
    Lexes .luaJIT opensText cs ls := by
  induction h with
  | nil => exact .nil
  | @cons _ l rest ls head tail ih =>
    refine .cons (head.luaJIT ?_) (ih fun earlier l' later hsplit => ?_)
    · rw [← tail.flatMap_chars]
      exact hrest [] l ls rfl
    · exact hrest (l :: earlier) l' later (congrArg (l :: ·) hsplit)

theorem Lexes.of_step_eq {d' : Dialect} (hstep : LexState.step d = LexState.step d')
    (h : Lexes d opensText cs ls) : Lexes d' opensText cs ls := by
  induction h with
  | nil => exact .nil
  | cons head _ ih =>
    refine .cons ?_ ih
    cases head with
    | intro h => exact .intro (hstep ▸ h)

/-! ### Tokens -/

/-- A number among the lexemes, with one of the letters after it, is one among the tokens. -/
theorem hasLetteredNumber_of_lexes {text : String} {earlier later : List Lexeme} {c : Char}
    (h : Lexes d true text.toList (earlier ++ l :: later)) (hkind : l.kind = .int ∨ l.kind = .float)
    (hc : c ∈ (later.flatMap Lexeme.chars).head?) (hletter : c ∈ numberLetters) :
    HasLetteredNumber d text := by
  cases later with
  | nil => cases hc
  | cons word later =>
    let t : Token := ⟨l.kind, sizes earlier, l.size⟩
    let t' : Token := ⟨word.kind, sizes earlier + l.size, word.size⟩
    have hlex : lex d text = (layOut 0 earlier ++ t :: t' :: layOut t'.span.stop later).toArray := by
      rw [lex_of_lexes h, layOut_append, Nat.zero_add]
      rfl
    have hwhole : Lexes d true text.toList ((earlier ++ [l]) ++ word :: later) := by
      rwa [List.append_assoc]
    obtain ⟨_, hleads⟩ := hwhole.leads
    have hfirst : c ∈ word.chars.head? := by
      rwa [List.flatMap_cons, List.head?_append_of_ne_nil _ hleads.chars_ne_nil] at hc
    have hchars : text.toList = (earlier ++ [l]).flatMap Lexeme.chars ++
        (word.chars ++ later.flatMap Lexeme.chars) := by
      rw [← hwhole.flatMap_chars, List.flatMap_append, List.flatMap_cons]
    have hplace : sizes earlier + l.size = String.utf8Len ((earlier ++ [l]).flatMap Lexeme.chars) := by
      rw [← sizes, sizes_append, sizes_cons]
      rfl
    have hslice : Text.slice? text t'.span = some (String.ofList word.chars) := by
      show Text.slice? text ⟨sizes earlier + l.size, word.size⟩ = _
      rw [hplace]
      exact Text.slice?_of_toList_eq hchars
    refine ⟨t, by simp [hlex], t', by simp [hlex], hkind, rfl,
      hleads.word_of_mem_numberLetters hfirst hletter, _, hslice, ?_⟩
    rw [String.toList_ofList, Option.mem_def.mp hfirst]
    exact decide_eq_true hletter

/-- A text has the same tokens in LuaJIT as in Lua 5.5, unless one of its numbers in Lua 5.5 has a word
right after it that starts with a letter that LuaJIT may take for a part of a number. In Lua 5.4 it has
the same tokens anyway. -/
theorem lex_luaJIT_eq_lex_lua55 (text : String) :
    (¬ HasLetteredNumber .lua55 text → lex .luaJIT text = lex .lua55 text) ∧
      lex .lua54 text = lex .lua55 text := by
  obtain ⟨ls, hls⟩ := exists_lexes .lua55 true text.toList
  constructor
  · intro hnone
    have hjit : Lexes .luaJIT true text.toList ls := by
      refine hls.luaJIT fun earlier l later hsplit hkind c hc hletter => hnone ?_
      exact hasLetteredNumber_of_lexes (hsplit ▸ hls) hkind hc hletter
    rw [lex_of_lexes hjit, lex_of_lexes hls]
  · rw [lex_of_lexes (hls.of_step_eq LexState.step_lua54_eq_step_lua55.symm), lex_of_lexes hls]

/-- Numbers of every form, with all of the letters in words or between spaces. -/
theorem lex_luaJIT_eq_lex_lua55_spaced :
    let text := "u=0xBb+0x.8p1-1e5 i(3.,0)LL"
    ¬ HasLetteredNumber .lua55 text ∧ lex .luaJIT text = lex .lua55 text := by
  intro text
  have hnone : ¬ HasLetteredNumber .lua55 text := by decide +kernel
  exact ⟨hnone, (lex_luaJIT_eq_lex_lua55 text).1 hnone⟩

end LuaFold
