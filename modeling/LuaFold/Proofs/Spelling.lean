import LuaFold.Proofs.QuotedStrings
import LuaFold.Proofs.Relexing

/-! The spelling of words and symbols. Each reserved word and each symbol has one spelling, which
the lexer reads as a token of the same kind wherever it stands. So kinds that are written one after
another, with blanks or line breaks between them, are read back. -/

namespace LuaFold

/-- A kind whose tokens all have the same text: a reserved word or a symbol. -/
def TokenKind.isSpelled (kind : TokenKind) : Bool :=
  kind.isKeyword || (plus.index ≤ kind.index && kind.index ≤ rightBrace.index)

/-- A run of blanks and line breaks. -/
def IsGap (cs : List Char) : Prop :=
  ∀ c ∈ cs, isSkipped c = true

instance (cs : List Char) : Decidable (IsGap cs) :=
  decidable_of_iff (cs.all isSkipped = true) List.all_eq_true

/-- A reserved word or a symbol to write, with the gap before it. -/
structure SpacedKind where
  gap : List Char
  kind : TokenKind
  isGap : IsGap gap := by decide
  isSpelled : kind.isSpelled = true := by decide

def SpacedKind.chars (k : SpacedKind) : List Char :=
  k.gap ++ k.kind.label.toList

/-- The text of the kinds, each in its spelling, and the gap at its end. -/
def spell (ks : List SpacedKind) (last : List Char) : String :=
  String.ofList (ks.flatMap SpacedKind.chars ++ last)

variable {d : Dialect} {opensText : Bool} {l : Lexeme} {ls : List Lexeme} {kind : TokenKind}
  {gap rest : List Char}

/-! ### Gaps -/

/-- The characters of gaps. -/
def gapChars : List Char :=
  [' ', '\t', '\x0b', '\x0c', '\n', '\r']

theorem isSkipped_iff {c : Char} : isSkipped c = true ↔ c ∈ gapChars := by
  simp [isSkipped, LexState.isBlank, Text.isLineBreak, gapChars, or_assoc]

namespace LexState

/-- The states after characters of a gap. -/
inductive Spacing : LexState → Prop
  | lineBreak (first : Char) : Spacing (newLine .token first)
  | past : Spacing (finished .endOfLine)
  | blanks : Spacing blanks

variable {state : LexState} {c : Char}

theorem spacing_start (hc : isSkipped c = true) : (start opensText c).Spacing := by
  by_cases hbreak : Text.isLineBreak c = true
  · rw [start, if_pos hbreak]
    exact .lineBreak c
  · have hblank : isBlank c = true := by simpa [isSkipped, hbreak] using hc
    rw [start, if_neg hbreak, if_pos hblank]
    exact .blanks

namespace Spacing

theorem step {state' : LexState} (h : state.Spacing) (hstep : state.step d c = some state') :
    state'.Spacing := by
  cases h with
  | lineBreak first =>
    by_cases hjoins : c = Text.lineBreakPartner first
    · rw [hjoins, step_newLine_partner] at hstep
      exact Option.some.inj hstep ▸ .past
    · rw [step_newLine_of_ne d hjoins] at hstep
      cases hstep
  | past => cases hstep
  | blanks =>
    simp only [LexState.step, Option.ite_none_right_eq_some, Option.some.injEq] at hstep
    exact hstep.2 ▸ .blanks

theorem of_munches {taken : List Char}
    (h : Munches (LexState.step d) (start opensText c) taken rest state)
    (hc : isSkipped c = true) : state.Spacing :=
  h.invariant (P := fun _ state => state.Spacing) (spacing_start hc) step

theorem stop (h : state.Spacing) (hc : isSkipped c = false) : state.step d c = none := by
  cases h with
  | lineBreak first =>
    have hjoins : c ≠ Text.lineBreakPartner first := by
      rintro rfl
      simp [isSkipped, Text.isLineBreak_lineBreakPartner] at hc
    exact step_newLine_of_ne d hjoins
  | past => rfl
  | blanks =>
    rw [isSkipped, Bool.or_eq_false_iff] at hc
    simp [LexState.step, hc.1]

theorem exists_kind? (h : state.Spacing) :
    ∃ kind, state.kind? = some kind ∧ kind.isTrivia = true := by
  cases h <;> exact ⟨_, rfl, rfl⟩

end Spacing

end LexState

namespace Lexeme.Leads

theorem isTrivia_of_isSkipped (h : l.Leads d opensText rest) {c : Char} (hc : c ∈ l.chars.head?)
    (hskipped : isSkipped c = true) : l.kind.isTrivia = true := by
  cases h with
  | @intro c' taken _ state h =>
    obtain rfl : c' = c := Option.some.inj hc
    obtain ⟨kind, hkind, htrivia⟩ :=
      (LexState.Spacing.of_munches h hskipped).exists_kind?
    rw [hkind]
    exact htrivia

/-- A lexeme of a gap does not go on after the gap. -/
theorem append_of_gap (h : l.Leads d opensText gap) (hgap : IsGap l.chars)
    (hrest : ∀ c ∈ rest.head?, isSkipped c = false) : l.Leads d opensText (gap ++ rest) := by
  cases gap with
  | cons c gap => exact h.extend (List.cons_ne_nil c gap) rest
  | nil =>
    cases h with
    | @intro c taken _ state h =>
      have hspacing := LexState.Spacing.of_munches h (hgap c List.mem_cons_self)
      exact .intro ⟨h.accepts, fun c' hc' => hspacing.stop (hrest c' hc')⟩

end Lexeme.Leads

namespace Lexes

theorem isTrivia_of_gap (h : Lexes d opensText gap ls) (hgap : IsGap gap) :
    ∀ l ∈ ls, l.kind.isTrivia = true := by
  induction h with
  | nil => exact List.forall_mem_nil _
  | cons head _ ih =>
    obtain ⟨hl, hrest⟩ := List.forall_mem_append.mp hgap
    have hfirst := List.head?_eq_some_head head.chars_ne_nil
    exact List.forall_mem_cons.mpr
      ⟨head.isTrivia_of_isSkipped hfirst (hl _ (List.mem_of_mem_head? hfirst)), ih hrest⟩

/-- What comes after a gap has the lexemes that it has on its own. -/
theorem append_of_gap {gapLexemes : List Lexeme} (h : Lexes d opensText gap gapLexemes)
    (hgap : IsGap gap) (hrest : ∀ c ∈ rest.head?, isSkipped c = false)
    (hls : ∀ opensText, Lexes d opensText rest ls) :
    Lexes d opensText (gap ++ rest) (gapLexemes ++ ls) := by
  induction h with
  | nil => exact hls _
  | cons head _ ih =>
    obtain ⟨hl, hgap⟩ := List.forall_mem_append.mp hgap
    rw [List.append_assoc]
    exact .cons (head.append_of_gap hl hrest) (ih hgap)

end Lexes

/-! ### Spellings -/

/-- Whether the lexer reads the spelling of the kind as one token of the kind, which ends before any
gap. -/
def TokenKind.isReadBack (d : Dialect) (opensText : Bool) (kind : TokenKind) : Bool :=
  match kind.label.toList with
  | [] => false
  | c :: cs =>
    (cs.foldlM (LexState.step d) (LexState.start opensText c)).any fun state =>
      state.kind?.getD (ofWord kind.label) == kind &&
        gapChars.all fun c => (state.step d c).isNone

/-- The table of spellings and the steps of the lexer agree on every such kind. -/
theorem TokenKind.isReadBack_of_isSpelled (d : Dialect) (opensText : Bool)
    (h : kind.isSpelled = true) : kind.isReadBack d opensText = true := by
  have hall : ∀ kind ∈ TokenKind.all, kind.isSpelled = true →
      ∀ d ∈ Dialect.all, ∀ opensText, kind.isReadBack d opensText = true := by
    decide +kernel
  exact hall kind kind.mem_all h d (by cases d <;> decide) opensText

/-- The spelling of a kind is a lexeme of that kind, wherever it stands, when the text ends or a gap
starts after it. -/
theorem leads_label (hkind : kind.isSpelled = true) (hrest : ∀ c ∈ rest.head?, isSkipped c = true) :
    Lexeme.Leads d opensText ⟨kind, kind.label.toList⟩ rest := by
  have hread := kind.isReadBack_of_isSpelled d opensText hkind
  rw [TokenKind.isReadBack] at hread
  split at hread
  · cases hread
  · rename_i c cs hlabel
    obtain ⟨state, haccepts, hstate⟩ := (Option.any_eq_true _ _).mp hread
    rw [Bool.and_eq_true, beq_iff_eq, List.all_eq_true] at hstate
    obtain ⟨hstatekind, hstops⟩ := hstate
    have hmunches : Munches (LexState.step d) (LexState.start opensText c) cs rest state := by
      refine ⟨haccepts, fun c' hc' => ?_⟩
      exact Option.isNone_iff_eq_none.mp (hstops c' (isSkipped_iff.mp (hrest c' hc')))
    have hleads := Lexeme.Leads.intro hmunches
    rw [← hlabel, String.ofList_toList, hstatekind] at hleads
    exact hleads

theorem TokenKind.isTrivia_of_isSpelled (h : kind.isSpelled = true) : kind.isTrivia = false := by
  revert h
  cases kind <;> decide

/-- A spelling is not a part of the gap before it. -/
theorem isSkipped_of_mem_head?_label (hkind : kind.isSpelled = true) {c : Char}
    (hc : c ∈ (kind.label.toList ++ rest).head?) : isSkipped c = false := by
  have hleads : Lexeme.Leads .lua55 false ⟨kind, kind.label.toList⟩ [] :=
    leads_label hkind fun _ h => by cases h
  rw [List.head?_append_of_ne_nil _ hleads.chars_ne_nil] at hc
  by_contra hskipped
  have htrivia := hleads.isTrivia_of_isSkipped hc (by simpa using hskipped)
  rw [TokenKind.isTrivia_of_isSpelled hkind] at htrivia
  cases htrivia

/-! ### Texts -/

/-- The lexemes of the kinds written one after another, with the trivia of their gaps. -/
theorem exists_lexes_spell {ks : List SpacedKind} {last : List Char} (hlast : IsGap last)
    (hgaps : ∀ k ∈ ks.tail, k.gap ≠ []) (d : Dialect) (opensText : Bool) :
    ∃ ls, Lexes d opensText (ks.flatMap SpacedKind.chars ++ last) ls ∧
      ls.filter (fun l => !l.kind.isTrivia) = ks.map fun k => ⟨k.kind, k.kind.label.toList⟩ := by
  induction ks generalizing opensText with
  | nil =>
    obtain ⟨ls, hls⟩ := exists_lexes d opensText last
    exact ⟨ls, hls, by simpa using hls.isTrivia_of_gap hlast⟩
  | cons k ks ih =>
    obtain ⟨ls, hls, hfilter⟩ := ih (fun k' hk' => hgaps k' (List.mem_of_mem_tail hk')) false
    have hafter : ∀ c ∈ (ks.flatMap SpacedKind.chars ++ last).head?, isSkipped c = true := by
      intro c hc
      cases ks with
      | nil => exact hlast c (List.mem_of_mem_head? hc)
      | cons k' ks =>
        rw [List.flatMap_cons, SpacedKind.chars, List.append_assoc, List.append_assoc,
          List.head?_append_of_ne_nil _ (hgaps k' List.mem_cons_self)] at hc
        exact k'.isGap c (List.mem_of_mem_head? hc)
    have hkind : ∀ opensText, Lexes d opensText (k.kind.label.toList ++ _)
        (⟨k.kind, k.kind.label.toList⟩ :: ls) := fun _ =>
      .cons (leads_label k.isSpelled hafter) hls
    obtain ⟨trivia, htrivia⟩ := exists_lexes d opensText k.gap
    refine ⟨trivia ++ ⟨k.kind, k.kind.label.toList⟩ :: ls, ?_, ?_⟩
    · rw [List.flatMap_cons, SpacedKind.chars, List.append_assoc, List.append_assoc]
      exact htrivia.append_of_gap k.isGap (fun _ => isSkipped_of_mem_head?_label k.isSpelled) hkind
    · have hnone : trivia.filter (fun l => !l.kind.isTrivia) = [] := by
        simpa using htrivia.isTrivia_of_gap k.isGap
      simp [hnone, hfilter, TokenKind.isTrivia_of_isSpelled k.isSpelled]

/-- The kinds and the texts of the tokens are those of the lexemes. -/
theorem map_lex {text : String} (h : Lexes d true text.toList ls) :
    (lex d text).toList.map (fun t => (t.kind, Text.slice? text t.span)) =
      ls.map fun l => (l.kind, some (String.ofList l.chars)) := by
  refine List.ext_getElem? fun i => ?_
  rw [List.getElem?_map, List.getElem?_map, Array.getElem?_toList]
  by_cases hi : i < ls.length
  · obtain ⟨t, ht, hkind, hslice⟩ := exists_getElem?_lex h (List.getElem?_eq_getElem hi)
    rw [ht, List.getElem?_eq_getElem hi]
    simp [hkind, hslice]
  · rw [Nat.not_lt] at hi
    rw [List.getElem?_eq_none hi, Array.getElem?_eq_none (by rwa [size_lex h])]
    rfl

/-- Reserved words and symbols, in any order and number, are read back from a text in which they are
written with blanks or line breaks between any two of them. The tokens that are not trivia are of
these kinds, and the text of each is the spelling of its kind. -/
theorem lex_spell (d : Dialect) {ks : List SpacedKind} {last : List Char} (hlast : IsGap last)
    (hgaps : ∀ k ∈ ks.tail, k.gap ≠ []) :
    ((lex d (spell ks last)).toList.filter fun t => !t.isTrivia).map
        (fun t => (t.kind, Text.slice? (spell ks last) t.span)) =
      ks.map fun k => (k.kind, some k.kind.label) := by
  obtain ⟨ls, hls, hfilter⟩ := exists_lexes_spell hlast hgaps d true
  rw [← String.toList_ofList (l := ks.flatMap SpacedKind.chars ++ last)] at hls
  have hmap := congrArg (List.filter fun p => !p.1.isTrivia) (map_lex hls)
  rw [List.filter_map, List.filter_map] at hmap
  calc
    _ = (ls.filter fun l => !l.kind.isTrivia).map
          (fun l => (l.kind, some (String.ofList l.chars))) := hmap
    _ = ks.map fun k => (k.kind, some k.kind.label) := by
      rw [hfilter, List.map_map]
      simp

/-- Symbols that would be others without the gaps between them. -/
theorem lex_spell_symbols :
    let ks : List SpacedKind := [.mk [] .len, .mk ['\n', '\r'] .minus, .mk [' '] .minus,
      .mk ['\t', '\n'] .leftBracket, .mk ['\r'] .assign, .mk ['\x0b'] .kwElse, .mk ['\n'] .kwIf]
    IsGap [' '] ∧ (∀ k ∈ ks.tail, k.gap ≠ []) ∧ spell ks [' '] = "#\n\r- -\t\n[\r=\x0belse\nif " ∧
      ((lex .lua54 (spell ks [' '])).toList.filter fun t => !t.isTrivia).map
          (fun t => (t.kind, Text.slice? (spell ks [' ']) t.span)) =
        [(.len, some "#"), (.minus, some "-"), (.minus, some "-"), (.leftBracket, some "["),
          (.assign, some "="), (.kwElse, some "else"), (.kwIf, some "if")] := by
  intro ks
  have hlast : IsGap [' '] := by decide
  have hgaps : ∀ k ∈ ks.tail, k.gap ≠ [] := by simp [ks]
  exact ⟨hlast, hgaps, by decide +kernel, lex_spell .lua54 hlast hgaps⟩

end LuaFold
