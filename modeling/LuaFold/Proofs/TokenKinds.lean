import LuaFold.Proofs.Lexemes

/-! The kinds of tokens. The lexer makes no token of a kind that stands for the lack of one, and a
shebang line only of the first characters of a text, when they are `#!`. -/

namespace LuaFold

variable {d : Dialect} {opensText : Bool} {l : Lexeme} {rest : List Char}

namespace TokenKind

/-- The kind of a token of some text. -/
def isLexical : TokenKind → Bool
  | absent | eof => false
  | _ => true

/-- The kind of a token that does not have to be the first one of its text. -/
def isInner : TokenKind → Bool
  | absent | eof | shebang => false
  | _ => true

theorem isLexical_iff {kind : TokenKind} :
    kind.isLexical = true ↔ kind ≠ absent ∧ kind ≠ eof := by
  cases kind <;> decide

theorem isInner_iff {kind : TokenKind} :
    kind.isInner = true ↔ kind.isLexical = true ∧ kind ≠ shebang := by
  cases kind <;> decide

theorem isInner_ofWord (word : String) : (ofWord word).isInner = true := by
  rcases ofWord_eq_name_or_isKeyword word with h | h
  · rw [h]
    rfl
  · revert h
    cases ofWord word <;> decide

end TokenKind

/-! ### States -/

namespace LexState

/-- No characters lead from the state into a shebang line, or a token without a kind. -/
def isInner (state : LexState) : Bool :=
  state != hash && state.kind?.all TokenKind.isInner

variable {state state' : LexState} {c : Char}

theorem isInner_of_symbolOf? {kind : TokenKind} (h : symbolOf? c = some kind) :
    (symbol kind).isInner = true := by
  unfold symbolOf? at h
  split at h <;> cases h <;> rfl

theorem isInner_start (h : opensText = false ∨ c ≠ '#') : (start opensText c).isInner = true := by
  have hhash : ¬ (c = '#' ∧ opensText = true) := by
    rintro ⟨rfl, rfl⟩
    simp at h
  cases hsymbol : symbolOf? c with
  | some kind =>
    have hkind := isInner_of_symbolOf? hsymbol
    simp only [start, hsymbol, Bool.and_eq_true, beq_iff_eq, hhash, if_false]
    split_ifs <;> first | rfl | exact hkind
  | none =>
    simp only [start, hsymbol, Bool.and_eq_true, beq_iff_eq, hhash, if_false]
    split_ifs <;> rfl

theorem isInner_extendSymbol {kind : TokenKind} (h : extendSymbol kind c = some state) :
    state.isInner = true := by
  unfold extendSymbol at h
  split at h <;> (try split at h) <;> cases h <;> rfl

theorem isInner_stepQuoted {quote : Char} (h : stepQuoted quote c = some state) :
    state.isInner = true := by
  rcases stepQuoted_eq_some h with rfl | rfl | rfl <;> rfl

theorem isInner_stepBlankEscape {quote : Char} (h : stepBlankEscape quote c = some state) :
    state.isInner = true := by
  unfold stepBlankEscape at h
  split_ifs at h
  · cases h
    rfl
  · cases h
    rfl
  · exact isInner_stepQuoted h

theorem isInner_stepLong {kind : TokenKind} (h : kind.isInner = true) (width : Nat) (c : Char) :
    (stepLong kind width c).isInner = true := by
  unfold stepLong
  split_ifs <;> exact h

theorem isInner_step_newLine {site : BreakSite} {first : Char}
    (h : (newLine site first).isInner = true) (hstep : (newLine site first).step d c = some state') :
    state'.isInner = true := by
  simp only [step] at hstep
  split_ifs at hstep
  · cases hstep
    cases site <;> first | rfl | exact h
  · cases site with
    | token => cases hstep
    | escape quote => exact isInner_stepQuoted hstep
    | blankEscape quote => exact isInner_stepBlankEscape hstep
    | long kind width =>
      cases hstep
      exact isInner_stepLong h width c

/-- One more character does not change that. The states inside a comment and a long bracket carry
their kind along. -/
theorem isInner_step (h : state.isInner = true) (hstep : state.step d c = some state') :
    state'.isInner = true := by
  cases state with
  | finished kind => cases hstep
  | symbol kind => exact isInner_extendSymbol hstep
  | newLine site first => exact isInner_step_newLine h hstep
  | number form =>
    obtain ⟨form', -, rfl⟩ := Option.map_eq_some_iff.mp hstep
    cases form' <;> rfl
  | hash => cases h
  | bracket comment width =>
    simp only [step] at hstep
    split_ifs at hstep <;> cases hstep <;> cases comment <;> rfl
  | quoted quote => exact isInner_stepQuoted hstep
  | blankEscape quote => exact isInner_stepBlankEscape hstep
  | long kind width =>
    cases hstep
    exact isInner_stepLong h width c
  | longClosing kind width seen =>
    simp only [step, Option.some.injEq] at hstep
    split_ifs at hstep
    · exact hstep ▸ h
    · exact hstep ▸ h
    · exact hstep ▸ isInner_stepLong h width c
  | _ =>
    simp only [step] at hstep
    split_ifs at hstep <;> cases hstep <;> first | rfl | exact h

end LexState

/-! ### Lexemes -/

namespace Lexeme

theorem isInner_of_munches {state : LexState} {c : Char} {taken : List Char}
    (h : Munches (LexState.step d) (.start opensText c) taken rest state)
    (hstart : opensText = false ∨ c ≠ '#') :
    (state.kind?.getD (TokenKind.ofWord (String.ofList (c :: taken)))).isInner = true := by
  have hstate : state.isInner = true :=
    h.invariant (P := fun _ state => state.isInner = true) (LexState.isInner_start hstart)
      LexState.isInner_step
  rw [LexState.isInner, Bool.and_eq_true] at hstate
  cases hkind : state.kind? with
  | none => exact TokenKind.isInner_ofWord _
  | some kind =>
    rw [hkind] at hstate
    exact hstate.2

/-- A `#` at the start of a text is on its own without a `!` after it. -/
theorem Leads.isInner_kind (h : l.Leads d opensText rest)
    (hshebang : opensText = true → ¬ ['#', '!'] <+: l.chars ++ rest) : l.kind.isInner = true := by
  cases h with
  | @intro c taken _ state h =>
    by_cases hstart : opensText = false ∨ c ≠ '#'
    · exact isInner_of_munches h hstart
    · obtain ⟨hopens, rfl⟩ : opensText = true ∧ c = '#' := by simpa using hstart
      subst hopens
      have hstops : ∀ c ∈ (taken ++ rest).head?, LexState.step d .hash c = none := by
        intro c hc
        obtain ⟨tail, htail⟩ := List.head?_eq_some_iff.mp hc
        have hne : c ≠ '!' := by
          rintro rfl
          exact hshebang rfl ⟨tail, by simp [htail]⟩
        simp [LexState.step, hne]
      have hhash : LexState.start true '#' = .hash := by decide
      rw [hhash] at h
      obtain ⟨-, rfl⟩ := h.eq_nil_of_stops hstops
      rfl

/-- A text that starts with `#!` has a shebang line. -/
theorem Leads.shebang (h : l.Leads d true rest) (hshebang : ['#', '!'] <+: l.chars ++ rest) :
    l.kind = .shebang ∧ l.chars = (l.chars ++ rest).takeWhile fun c => !Text.isLineBreak c := by
  obtain ⟨tail, hsplit⟩ := hshebang
  cases h with
  | @intro c taken _ state h =>
    obtain ⟨rfl, htail⟩ : '#' = c ∧ '!' :: tail = taken ++ rest := List.cons.inj hsplit
    have hmark : ['!'].foldlM (LexState.step d) (.start true '#') = some (.restOfLine .shebang) := by
      cases d <;> decide
    obtain ⟨more, rfl, -, h'⟩ := h.exists_append_of_accepts hmark htail.symm
    have hloop : ∀ c, LexState.step d (.restOfLine .shebang) c =
        if !Text.isLineBreak c then some (.restOfLine .shebang) else none := by
      intro c
      cases hc : Text.isLineBreak c <;> simp [LexState.step, hc]
    obtain ⟨rfl, hmore⟩ := h'.eq_takeWhile hloop
    refine ⟨rfl, ?_⟩
    show '#' :: '!' :: more = List.takeWhile _ ('#' :: '!' :: (more ++ rest))
    rw [List.takeWhile_cons_of_pos rfl, List.takeWhile_cons_of_pos rfl, ← hmore]

theorem Leads.isLexical_kind (h : l.Leads d opensText rest) : l.kind.isLexical = true := by
  by_cases hshebang : opensText = true ∧ ['#', '!'] <+: l.chars ++ rest
  · obtain ⟨rfl, hshebang⟩ := hshebang
    rw [(h.shebang hshebang).1]
    rfl
  · have hinner := h.isInner_kind fun hopens hstart => hshebang ⟨hopens, hstart⟩
    exact (TokenKind.isInner_iff.mp hinner).1

end Lexeme

end LuaFold
