import LuaFold.Proofs.Lexemes

/-! Line endings. A text whose line breaks are line feeds has the same tokens when all of them are
written in another way, and the text of each token is rewritten along with it. The lexer that reads the
rewritten text follows the one that reads the text: the two are in the same state between any two
characters of the text, but for what they remember of a line break. -/

namespace LuaFold

/-- A way to write a line break, other than as a line feed. -/
inductive LineEnding
  | cr
  | crLF
  | lfCR
deriving DecidableEq

namespace LineEnding

def chars : LineEnding → List Char
  | cr => ['\r']
  | crLF => ['\r', '\n']
  | lfCR => ['\n', '\r']

/-- What is written for a character of the text. -/
def write (e : LineEnding) (c : Char) : List Char :=
  if c = '\n' then e.chars else [c]

/-- The characters with every line feed written as the line ending. -/
def rewrite (e : LineEnding) (cs : List Char) : List Char :=
  cs.flatMap e.write

def rewriteText (e : LineEnding) (text : String) : String :=
  String.ofList (e.rewrite text.toList)

/-- The state after a line break at the site. -/
def broken (e : LineEnding) (site : BreakSite) : LexState :=
  match e with
  | cr => .newLine site '\r'
  | crLF | lfCR => site.past

variable {e : LineEnding} {c : Char} {cs cs' : List Char}

theorem write_of_ne (h : c ≠ '\n') : e.write c = [c] := if_neg h

theorem rewrite_cons (e : LineEnding) (c : Char) (cs : List Char) :
    e.rewrite (c :: cs) = e.write c ++ e.rewrite cs := rfl

theorem rewrite_append (e : LineEnding) (cs cs' : List Char) :
    e.rewrite (cs ++ cs') = e.rewrite cs ++ e.rewrite cs' :=
  List.flatMap_append ..

theorem head?_rewrite_cons (e : LineEnding) (c : Char) (cs : List Char) :
    (e.rewrite (c :: cs)).head? = (e.write c).head? := by
  rw [rewrite_cons, write]
  split
  · cases e <;> rfl
  · rfl

theorem rewrite_of_not_mem (h : '\n' ∉ cs) : e.rewrite cs = cs := by
  induction cs with
  | nil => rfl
  | cons c cs ih =>
    rw [List.mem_cons, not_or] at h
    rw [rewrite_cons, write_of_ne (Ne.symm h.1), ih h.2]
    rfl

/-- A line ending on its own is one token. -/
theorem exists_chars_eq_cons (e : LineEnding) (d : Dialect) :
    ∃ first more, e.chars = first :: more ∧ Text.isLineBreak first = true ∧
      more.foldlM (LexState.step d) (.newLine .token first) = some (e.broken .token) := by
  cases e <;> exact ⟨_, _, rfl, rfl, rfl⟩

end LineEnding

/-! ### States -/

/-- `Follows e state state'` says that the rewritten characters lead to `state'` where the characters of
the text lead to `state`. -/
inductive Follows (e : LineEnding) : LexState → LexState → Prop
  | settled {state : LexState} (h : state.isSettled = true) : Follows e state state
  | newLine {site : BreakSite} (h : site.past.isSettled = true) :
    Follows e (.newLine site '\n') (e.broken site)

namespace Follows

variable {d : Dialect} {e : LineEnding} {state state' next : LexState} {site : BreakSite} {c : Char}

/-- A settled state reads any line ending at the site where it reads a line feed. -/
theorem foldlM_chars (h : state.isSettled = true) :
    e.chars.foldlM (LexState.step d) state = state.breakSite?.map e.broken := by
  have hfeed := LexState.step_of_isLineBreak (d := d) h (show Text.isLineBreak '\n' from rfl)
  have hreturn := LexState.step_of_isLineBreak (d := d) h (show Text.isLineBreak '\r' from rfl)
  cases hsite : state.breakSite? with
  | none =>
    rw [hsite] at hfeed hreturn
    cases e <;> simp [LineEnding.chars, hfeed, hreturn]
  | some site =>
    rw [hsite] at hfeed hreturn
    have hfeedJoins : (LexState.newLine site '\r').step d '\n' = some site.past :=
      LexState.step_newLine_partner d site '\r'
    have hreturnJoins : (LexState.newLine site '\n').step d '\r' = some site.past :=
      LexState.step_newLine_partner d site '\n'
    cases e <;> simp [LineEnding.chars, LineEnding.broken, hfeed, hreturn, hfeedJoins, hreturnJoins]

/-- After a line ending, one more line ending starts a line break of its own. -/
theorem foldlM_chars_broken (h : site.past.isSettled = true) :
    e.chars.foldlM (LexState.step d) (e.broken site) = site.past.breakSite?.map e.broken := by
  cases e with
  | cr =>
    have hreturn : (LexState.newLine site '\r').step d '\r' = site.past.step d '\r' := by
      rw [LexState.step_newLine_of_ne d (by decide), LexState.step_past]
    rw [← foldlM_chars (d := d) h, LineEnding.chars, LineEnding.broken, List.foldlM_cons, hreturn]
    rfl
  | crLF | lfCR => exact foldlM_chars h

theorem step_broken (hc : c ≠ '\n') : (e.broken site).step d c = LexState.stepPast site c := by
  cases e with
  | cr => exact LexState.step_newLine_of_ne d hc
  | crLF | lfCR => exact LexState.step_past d site c

theorem step_newLine (hc : c ≠ '\r') :
    (LexState.newLine site '\n').step d c = LexState.stepPast site c :=
  LexState.step_newLine_of_ne d hc

/-- From a settled state, a line feed and what is written for it lead to states that go together. -/
theorem of_feed (h : state.isSettled = true) (hstep : state.step d '\n' = some next) :
    ∃ next', state.breakSite?.map e.broken = some next' ∧ Follows e next next' := by
  rw [LexState.step_of_isLineBreak h rfl] at hstep
  obtain ⟨site, hsite, rfl⟩ := Option.map_eq_some_iff.mp hstep
  exact ⟨e.broken site, by rw [hsite]; rfl, .newLine (LexState.isSettled_past_of_breakSite? h hsite)⟩

/-- Over one character of the text and what is written for it, a state and one that follows it go
together. -/
theorem step (h : Follows e state state') (hc : c ≠ '\r') (hstep : state.step d c = some next) :
    ∃ next', (e.write c).foldlM (LexState.step d) state' = some next' ∧ Follows e next next' := by
  by_cases hfeed : c = '\n'
  · subst hfeed
    rw [LineEnding.write, if_pos rfl]
    cases h with
    | settled h =>
      rw [foldlM_chars h]
      exact of_feed h hstep
    | newLine h =>
      rw [step_newLine hc, ← LexState.step_past d] at hstep
      rw [foldlM_chars_broken h]
      exact of_feed h hstep
  · simp only [LineEnding.write_of_ne hfeed, List.foldlM_cons, List.foldlM_nil, bind_pure]
    have hbreak : Text.isLineBreak c = false := Text.isLineBreak_eq_false hfeed hc
    cases h with
    | settled h => exact ⟨next, hstep, .settled (LexState.isSettled_step h hbreak hstep)⟩
    | newLine h =>
      rw [step_newLine hc] at hstep
      refine ⟨next, (step_broken hfeed).trans hstep, .settled ?_⟩
      rw [← LexState.step_past d] at hstep
      exact LexState.isSettled_step h hbreak hstep

/-- A settled state that stops at a line feed stops at every line ending. -/
theorem stop_of_feed (h : state.isSettled = true) (hstop : state.step d '\n' = none) :
    ∀ c ∈ e.chars.head?, state.step d c = none := by
  have hreturn : state.step d '\r' = none := by
    rw [LexState.step_of_isLineBreak h rfl, Option.map_eq_none_iff] at hstop ⊢
    exact hstop
  cases e <;> simp [LineEnding.chars, hreturn, hstop]

/-- Where a state stops, one that follows it stops at what is written for the character. -/
theorem stop (h : Follows e state state') (hc : c ≠ '\r') (hstop : state.step d c = none) :
    ∀ c' ∈ (e.write c).head?, state'.step d c' = none := by
  by_cases hfeed : c = '\n'
  · subst hfeed
    rw [LineEnding.write, if_pos rfl]
    cases h with
    | settled h => exact stop_of_feed h hstop
    | @newLine site h =>
      rw [step_newLine hc, ← LexState.step_past d] at hstop
      have hstops := stop_of_feed (e := e) h hstop
      cases e with
      | cr =>
        have hreturn : (LexState.newLine site '\r').step d '\r' = none := by
          rw [LexState.step_newLine_of_ne d (by decide), ← LexState.step_past d]
          exact hstops '\r' rfl
        simpa [LineEnding.chars, LineEnding.broken] using hreturn
      | crLF | lfCR => exact hstops
  · simp only [LineEnding.write_of_ne hfeed, List.head?_cons, Option.mem_some_iff, forall_eq']
    cases h with
    | settled h => exact hstop
    | newLine h =>
      rw [step_newLine hc] at hstop
      exact (step_broken hfeed).trans hstop

theorem kind?_eq (h : Follows e state state') : state'.kind? = state.kind? := by
  cases h with
  | settled _ => rfl
  | @newLine site _ => cases e <;> cases site <;> rfl

end Follows

/-! ### Lexemes -/

theorem Munches.rewrite {d : Dialect} {e : LineEnding} {state state' final : LexState}
    {taken rest : List Char} (h : Munches (LexState.step d) state taken rest final)
    (hfollows : Follows e state state') (hreturn : '\r' ∉ taken ++ rest) :
    ∃ final', Munches (LexState.step d) state' (e.rewrite taken) (e.rewrite rest) final' ∧
      Follows e final final' := by
  obtain ⟨haccepts, hstops⟩ := h
  induction taken generalizing state state' with
  | nil =>
    obtain rfl : state = final := Option.some.inj haccepts
    refine ⟨state', ⟨rfl, ?_⟩, hfollows⟩
    cases rest with
    | nil => simp [LineEnding.rewrite]
    | cons c rest =>
      have hc : c ≠ '\r' := by
        rintro rfl
        simp at hreturn
      rw [LineEnding.head?_rewrite_cons]
      exact hfollows.stop hc (hstops c rfl)
  | cons c taken ih =>
    rw [List.foldlM_cons, Option.bind_eq_bind, Option.bind_eq_some_iff] at haccepts
    obtain ⟨next, hstep, haccepts⟩ := haccepts
    rw [List.cons_append, List.mem_cons, not_or] at hreturn
    obtain ⟨next', hnext, hfollows⟩ := hfollows.step (Ne.symm hreturn.1) hstep
    obtain ⟨final', hfinal, hend⟩ := ih hfollows hreturn.2 haccepts
    refine ⟨final', ⟨?_, hfinal.stops⟩, hend⟩
    rw [LineEnding.rewrite_cons, List.foldlM_append, hnext]
    exact hfinal.accepts

theorem LexState.eq_word_of_step {d : Dialect} {state : LexState} {c : Char}
    (h : state.step d c = some .word) : state = .word ∧ isWordPart c = true := by
  have hquoted {quote : Char} : stepQuoted quote c ≠ some .word := by
    intro h
    rcases stepQuoted_eq_some h with h | h | h <;> cases h
  have hblanks {quote : Char} : stepBlankEscape quote c ≠ some .word := by
    unfold stepBlankEscape
    split_ifs <;> first | exact hquoted | simp
  have hlong {kind : TokenKind} {width : Nat} : stepLong kind width c ≠ .word := by
    unfold stepLong
    split_ifs <;> simp
  cases state with
  | word => simpa [step] using h
  | finished kind => cases h
  | symbol kind => rcases extendSymbol_eq_some h with h | ⟨_, h⟩ | ⟨_, h⟩ <;> cases h
  | number form =>
    obtain ⟨_, _, h⟩ := Option.map_eq_some_iff.mp h
    cases h
  | quoted quote => exact absurd h hquoted
  | blankEscape quote => exact absurd h hblanks
  | long kind width => exact absurd (Option.some.inj h) hlong
  | newLine site first =>
    simp only [step] at h
    split_ifs at h
    · cases site <;> cases h
    · cases site with
      | token => cases h
      | escape quote => exact absurd h hquoted
      | blankEscape quote => exact absurd h hblanks
      | long kind width => exact absurd (Option.some.inj h) hlong
  | longClosing kind width seen =>
    simp only [step, Option.some.injEq] at h
    split_ifs at h
    exact absurd h hlong
  | _ =>
    simp only [step] at h
    split_ifs at h <;> cases h

/-- A word has no line break in it. -/
theorem feed_not_mem_of_word {d : Dialect} {state : LexState} {taken : List Char}
    (h : taken.foldlM (LexState.step d) state = some .word) :
    state = .word ∧ '\n' ∉ taken := by
  induction taken generalizing state with
  | nil => exact ⟨Option.some.inj h, List.not_mem_nil⟩
  | cons c taken ih =>
    rw [List.foldlM_cons, Option.bind_eq_bind, Option.bind_eq_some_iff] at h
    obtain ⟨next, hstep, h⟩ := h
    obtain ⟨rfl, htaken⟩ := ih h
    obtain ⟨hstate, hpart⟩ := LexState.eq_word_of_step hstep
    refine ⟨hstate, ?_⟩
    rw [List.mem_cons, not_or]
    refine ⟨?_, htaken⟩
    rintro rfl
    revert hpart
    decide

namespace Lexeme

/-- The lexeme with its characters rewritten. -/
def rewrite (e : LineEnding) (l : Lexeme) : Lexeme :=
  ⟨l.kind, e.rewrite l.chars⟩

theorem rewrite_of_kind?_eq_none {d : Dialect} {opensText : Bool} {c : Char} {taken rest : List Char}
    {state : LexState} (e : LineEnding)
    (h : Munches (LexState.step d) (.start opensText c) taken rest state)
    (hkind : state.kind? = none) : e.rewrite (c :: taken) = c :: taken := by
  obtain rfl : state = .word := by
    cases state with
    | word => rfl
    | bracket comment width => cases comment <;> cases width <;> cases hkind
    | newLine site first => cases site <;> cases hkind
    | _ => cases hkind
  obtain ⟨hstart, htaken⟩ := feed_not_mem_of_word h.accepts
  refine LineEnding.rewrite_of_not_mem ?_
  rw [List.mem_cons, not_or]
  refine ⟨?_, htaken⟩
  rintro rfl
  cases hstart

/-- The first character of a lexeme has no state before it. So if it is a line break, the rest of its
line ending is read by the lexeme too. -/
theorem exists_munches_rewrite {d : Dialect} {opensText : Bool} {c : Char} {taken rest : List Char}
    {state : LexState} (e : LineEnding)
    (h : Munches (LexState.step d) (.start opensText c) taken rest state)
    (hreturn : '\r' ∉ c :: (taken ++ rest)) :
    ∃ first more final, e.rewrite (c :: taken) = first :: more ∧
      Munches (LexState.step d) (.start opensText first) more (e.rewrite rest) final ∧
      Follows e state final := by
  rw [List.mem_cons, not_or] at hreturn
  obtain ⟨hc, hreturn⟩ := hreturn
  by_cases hfeed : c = '\n'
  · subst hfeed
    obtain ⟨first, more, hchars, hbreak, hmore⟩ := e.exists_chars_eq_cons d
    have hstart : LexState.start opensText first = .newLine .token first := by
      rw [LexState.start, if_pos hbreak]
    obtain ⟨final, hfinal, hfollows⟩ := h.rewrite (.newLine rfl) hreturn
    refine ⟨first, more ++ e.rewrite taken, final, ?_, ⟨?_, hfinal.stops⟩, hfollows⟩
    · rw [LineEnding.rewrite_cons, LineEnding.write, if_pos rfl, hchars, List.cons_append]
    · rw [hstart, List.foldlM_append, hmore]
      exact hfinal.accepts
  · have hstart : Follows e (.start opensText c) (.start opensText c) :=
      .settled (LexState.isSettled_start (Text.isLineBreak_eq_false hfeed (Ne.symm hc)))
    obtain ⟨final, hfinal, hfollows⟩ := h.rewrite hstart hreturn
    refine ⟨c, e.rewrite taken, final, ?_, hfinal, hfollows⟩
    rw [LineEnding.rewrite_cons, LineEnding.write_of_ne hfeed, List.singleton_append]

theorem Leads.rewrite {d : Dialect} {opensText : Bool} {l : Lexeme} {rest : List Char}
    (e : LineEnding) (h : l.Leads d opensText rest) (hreturn : '\r' ∉ l.chars ++ rest) :
    (l.rewrite e).Leads d opensText (e.rewrite rest) := by
  cases h with
  | @intro c taken _ state h =>
    obtain ⟨first, more, final, hchars, hmunches, hfollows⟩ := exists_munches_rewrite e h hreturn
    have hkind : state.kind?.getD (TokenKind.ofWord (String.ofList (c :: taken))) =
        final.kind?.getD (TokenKind.ofWord (String.ofList (first :: more))) := by
      rw [hfollows.kind?_eq]
      cases hkind : state.kind? with
      | some kind => rfl
      | none => rw [← hchars, rewrite_of_kind?_eq_none e h hkind]
    rw [Lexeme.rewrite, hkind, hchars]
    exact .intro hmunches

end Lexeme

theorem Lexes.rewrite {d : Dialect} {opensText : Bool} {cs : List Char} {ls : List Lexeme}
    (e : LineEnding) (h : Lexes d opensText cs ls) (hreturn : '\r' ∉ cs) :
    Lexes d opensText (e.rewrite cs) (ls.map (Lexeme.rewrite e)) := by
  induction h with
  | nil => exact .nil
  | cons head _ ih =>
    rw [LineEnding.rewrite_append]
    exact .cons (head.rewrite e hreturn) (ih fun h => hreturn (List.mem_append_right _ h))

/-- A text without a carriage return has the same tokens when its line breaks are written in another
way: as many, of the same kinds, each with its text rewritten. -/
theorem lex_rewriteText (d : Dialect) (e : LineEnding) {text : String} (h : '\r' ∉ text.toList) :
    (lex d (e.rewriteText text)).size = (lex d text).size ∧
      ∀ (i : Nat) (t : Token), (lex d text)[i]? = some t →
        ∃ t' part, (lex d (e.rewriteText text))[i]? = some t' ∧ t'.kind = t.kind ∧
          Text.slice? text t.span = some part ∧
          Text.slice? (e.rewriteText text) t'.span = some (e.rewriteText part) := by
  obtain ⟨ls, hls⟩ := exists_lexes d true text.toList
  have hrewritten : Lexes d true (e.rewriteText text).toList (ls.map (Lexeme.rewrite e)) := by
    rw [LineEnding.rewriteText, String.toList_ofList]
    exact hls.rewrite e h
  refine ⟨by rw [size_lex hrewritten, size_lex hls, List.length_map], fun i t ht => ?_⟩
  have hi : i < ls.length := by
    rw [← size_lex hls]
    exact (Array.getElem?_eq_some_iff.mp ht).1
  have hl := List.getElem?_eq_getElem hi
  have hl' : (ls.map (Lexeme.rewrite e))[i]? = some (ls[i].rewrite e) := by
    rw [List.getElem?_map, hl]
    rfl
  obtain ⟨t₁, ht₁, hkind, hpart⟩ := exists_getElem?_lex hls hl
  obtain rfl : t₁ = t := Option.some.inj (ht₁.symm.trans ht)
  obtain ⟨t', ht', hkind', hpart'⟩ := exists_getElem?_lex hrewritten hl'
  refine ⟨t', _, ht', hkind'.trans hkind.symm, hpart, ?_⟩
  rw [hpart', LineEnding.rewriteText, String.toList_ofList]
  rfl

/-- A string with line breaks in it that a backslash leads in, and a comment that a line break ends. -/
theorem lex_rewriteText_string :
    let text := "a='\\\n\\z\n\n.'--\n"
    let text' := LineEnding.crLF.rewriteText text
    let t : Token := ⟨.string, 2, 9⟩
    '\r' ∉ text.toList ∧ text' = "a='\\\r\n\\z\r\n\r\n.'--\r\n" ∧
      (lex .lua54 text)[2]? = some t ∧ (lex .lua54 text').size = (lex .lua54 text).size ∧
      ∃ t' part, (lex .lua54 text')[2]? = some t' ∧ t'.kind = .string ∧
        Text.slice? text t.span = some part ∧
        Text.slice? text' t'.span = some (LineEnding.crLF.rewriteText part) := by
  intro text text' t
  have hreturn : '\r' ∉ text.toList := by decide +kernel
  have ht : (lex .lua54 text)[2]? = some t := by decide +kernel
  obtain ⟨hsize, htokens⟩ := lex_rewriteText .lua54 .crLF hreturn
  obtain ⟨t', part, ht', hkind, hpart, hpart'⟩ := htokens 2 t ht
  exact ⟨hreturn, by decide +kernel, ht, hsize, t', part, ht', hkind, hpart, hpart'⟩

end LuaFold
