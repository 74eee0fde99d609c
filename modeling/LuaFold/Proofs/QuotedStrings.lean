import LuaFold.Proofs.Lexemes

/-! Quoted strings. What comes after an opening quote is read in units: an escape, which is a backslash
with all that it leads in, or any other character. The string ends with the first unit that is its
quote, or before the first one that is a line break. So no escape closes it, and a line break is in it
only as a part of an escape. -/

namespace LuaFold

/-- The blanks and line breaks that a backslash and a `z` skip. -/
def isSkipped (c : Char) : Bool :=
  LexState.isBlank c || Text.isLineBreak c

/-- What a backslash leads in, and what comes after it: a `z` with all that it skips, a line break of
one character or two, or any other character. -/
def splitEscape : List Char → List Char × List Char
  | [] => ([], [])
  | c :: cs =>
    if c = 'z' then (c :: cs.takeWhile isSkipped, cs.dropWhile isSkipped)
    else if Text.isLineBreak c ∧ cs.head? = some (Text.lineBreakPartner c) then
      ([c, Text.lineBreakPartner c], cs.tail)
    else ([c], cs)

/-- A unit of the text after an opening quote. -/
inductive QuotedUnit
  /-- A character that is not a backslash. -/
  | plain (c : Char)
  /-- A backslash, with all that it leads in. -/
  | escape (led : List Char)
deriving DecidableEq

def QuotedUnit.chars : QuotedUnit → List Char
  | plain c => [c]
  | escape led => '\\' :: led

theorem splitEscape_append (cs : List Char) : (splitEscape cs).1 ++ (splitEscape cs).2 = cs := by
  cases cs with
  | nil => rfl
  | cons c cs =>
    rw [splitEscape]
    split
    · exact congrArg (c :: ·) List.takeWhile_append_dropWhile
    split
    · rename_i hpair
      obtain ⟨tail, rfl⟩ := List.head?_eq_some_iff.mp hpair.2
      rfl
    · rfl

theorem length_splitEscape_le (cs : List Char) : (splitEscape cs).2.length ≤ cs.length := by
  conv_rhs => rw [← splitEscape_append cs, List.length_append]
  exact Nat.le_add_left _ _

/-- The units of the text after an opening quote, to the end of the text. -/
def quotedUnits : List Char → List QuotedUnit
  | [] => []
  | c :: cs =>
    if c = '\\' then .escape (splitEscape cs).1 :: quotedUnits (splitEscape cs).2
    else .plain c :: quotedUnits cs
termination_by cs => cs.length
decreasing_by
  · exact Nat.lt_succ_of_le (length_splitEscape_le cs)
  · exact Nat.lt_succ_self _

/-- Of the units `us` after an opening quote, the string takes in the characters `body`. They end with
the first unit that is the quote again, or before the first one that is a line break, whichever comes
first, and with the last unit if there is neither. -/
def StringBody (quote : Char) (us : List QuotedUnit) (body : List Char) : Prop :=
  ∃ inside after, us = inside ++ after ∧
    (∀ c, .plain c ∈ inside → c ≠ quote ∧ Text.isLineBreak c = false) ∧
    (after.head? = some (.plain quote) ∧ body = inside.flatMap QuotedUnit.chars ++ [quote] ∨
      (∃ c, Text.isLineBreak c = true ∧ after.head? = some (.plain c)) ∧
        body = inside.flatMap QuotedUnit.chars ∨
      after = [] ∧ body = inside.flatMap QuotedUnit.chars)

variable {d : Dialect} {quote : Char} {us : List QuotedUnit} {body cs : List Char}

/-! ### Units -/

/-- The units are the whole text. -/
theorem flatMap_chars_quotedUnits (cs : List Char) :
    (quotedUnits cs).flatMap QuotedUnit.chars = cs := by
  fun_induction quotedUnits cs with
  | case1 => rfl
  | case2 cs ih =>
    rw [List.flatMap_cons, ih]
    exact congrArg ('\\' :: ·) (splitEscape_append cs)
  | case3 c cs hc ih =>
    rw [List.flatMap_cons, ih]
    rfl

namespace StringBody

theorem closed (quote : Char) (us : List QuotedUnit) :
    StringBody quote (.plain quote :: us) [quote] :=
  ⟨[], _, rfl, by simp, .inl ⟨rfl, rfl⟩⟩

theorem broken {c : Char} (hc : Text.isLineBreak c = true) (us : List QuotedUnit) :
    StringBody quote (.plain c :: us) [] :=
  ⟨[], _, rfl, by simp, .inr (.inl ⟨⟨c, hc, rfl⟩, rfl⟩)⟩

theorem ended (quote : Char) : StringBody quote [] [] :=
  ⟨[], [], rfl, by simp, .inr (.inr ⟨rfl, rfl⟩)⟩

theorem cons {u : QuotedUnit} (h : StringBody quote us body)
    (hu : ∀ c, u = .plain c → c ≠ quote ∧ Text.isLineBreak c = false) :
    StringBody quote (u :: us) (u.chars ++ body) := by
  obtain ⟨inside, after, rfl, hinside, hbody⟩ := h
  refine ⟨u :: inside, after, rfl, fun c hc => ?_, ?_⟩
  · rcases List.mem_cons.mp hc with rfl | hc
    · exact hu c rfl
    · exact hinside c hc
  · rw [List.flatMap_cons]
    rcases hbody with ⟨hafter, rfl⟩ | ⟨hafter, rfl⟩ | ⟨hafter, rfl⟩
    · exact .inl ⟨hafter, (List.append_assoc ..).symm⟩
    · exact .inr (.inl ⟨hafter, rfl⟩)
    · exact .inr (.inr ⟨hafter, rfl⟩)

end StringBody

/-! ### The states inside quotes -/

/-- In `state`, with the characters `cs` to come, the lexer is inside quotes between two units. -/
structure BetweenUnits (d : Dialect) (quote : Char) (state : LexState) (cs : List Char) : Prop where
  kind : state.kind? = some .string
  step : ∀ c ∈ cs.head?, state.step d c = LexState.stepQuoted quote c

namespace LexState

theorem betweenUnits_quoted (d : Dialect) (quote : Char) (cs : List Char) :
    BetweenUnits d quote (quoted quote) cs :=
  ⟨rfl, fun _ _ => rfl⟩

/-- The lexer skips blanks and line breaks, after a backslash and a `z`. -/
inductive Skips (quote : Char) : LexState → Prop
  | blanks : Skips quote (blankEscape quote)
  | lineBreak (first : Char) : Skips quote (newLine (.blankEscape quote) first)

theorem exists_stepBlankEscape_of_isSkipped {c : Char} (h : isSkipped c = true) :
    ∃ state, stepBlankEscape quote c = some state ∧ Skips quote state := by
  unfold stepBlankEscape
  by_cases hblank : isBlank c = true
  · exact ⟨_, if_pos hblank, .blanks⟩
  · have hbreak : Text.isLineBreak c = true := by simpa [isSkipped, hblank] using h
    rw [if_neg hblank, if_pos hbreak]
    exact ⟨_, rfl, .lineBreak c⟩

theorem stepBlankEscape_of_isSkipped_eq_false {c : Char} (h : isSkipped c = false) :
    stepBlankEscape quote c = stepQuoted quote c := by
  obtain ⟨hblank, hbreak⟩ : isBlank c = false ∧ Text.isLineBreak c = false := by
    simpa [isSkipped] using h
  simp [stepBlankEscape, hblank, hbreak]

namespace Skips

theorem exists_step {state : LexState} {c : Char} (hstate : Skips quote state)
    (h : isSkipped c = true) : ∃ next, step d state c = some next ∧ Skips quote next := by
  cases hstate with
  | blanks => exact exists_stepBlankEscape_of_isSkipped h
  | lineBreak first =>
    by_cases hjoins : c = Text.lineBreakPartner first
    · rw [hjoins, step_newLine_partner]
      exact ⟨_, rfl, .blanks⟩
    · rw [step_newLine_of_ne d hjoins]
      exact exists_stepBlankEscape_of_isSkipped h

theorem step_of_isSkipped_eq_false {state : LexState} {c : Char} (hstate : Skips quote state)
    (h : isSkipped c = false) : step d state c = stepQuoted quote c := by
  cases hstate with
  | blanks => exact stepBlankEscape_of_isSkipped_eq_false h
  | lineBreak first =>
    have hjoins : c ≠ Text.lineBreakPartner first := by
      rintro rfl
      simp [isSkipped, Text.isLineBreak_lineBreakPartner] at h
    rw [step_newLine_of_ne d hjoins]
    exact stepBlankEscape_of_isSkipped_eq_false h

theorem exists_foldlM {state : LexState} {skipped : List Char} (hstate : Skips quote state)
    (h : ∀ c ∈ skipped, isSkipped c = true) :
    ∃ next, skipped.foldlM (step d) state = some next ∧ Skips quote next := by
  induction skipped generalizing state with
  | nil => exact ⟨state, rfl, hstate⟩
  | cons c skipped ih =>
    rw [List.forall_mem_cons] at h
    obtain ⟨next, hstep, hnext⟩ := hstate.exists_step h.1
    rw [List.foldlM_cons, hstep]
    exact ih hnext h.2

theorem kind?_eq {state : LexState} (h : Skips quote state) : state.kind? = some .string := by
  cases h <;> rfl

end Skips

/-- After a backslash the lexer reads what the backslash leads in, and no more. -/
theorem exists_foldlM_escape (d : Dialect) (quote : Char) (cs : List Char) :
    ∃ state, (splitEscape cs).1.foldlM (step d) (escape quote) = some state ∧
      BetweenUnits d quote state (splitEscape cs).2 := by
  cases cs with
  | nil => exact ⟨escape quote, rfl, rfl, by simp [splitEscape]⟩
  | cons c cs =>
    rw [splitEscape]
    by_cases hz : c = 'z'
    · subst hz
      have hskipped := List.all_eq_true.mp (List.all_takeWhile (p := isSkipped) (l := cs))
      have hblanks : Skips quote (.blankEscape quote) := .blanks
      obtain ⟨state, hled, hstate⟩ := hblanks.exists_foldlM hskipped
      refine ⟨state, hled, hstate.kind?_eq, fun c hc => ?_⟩
      have hstop := List.head?_dropWhile_not isSkipped cs
      rw [show (cs.dropWhile isSkipped).head? = some c from hc] at hstop
      exact hstate.step_of_isSkipped_eq_false hstop
    by_cases hbreak : Text.isLineBreak c = true
    · by_cases hpair : cs.head? = some (Text.lineBreakPartner c)
      · refine ⟨quoted quote, ?_, betweenUnits_quoted d quote _⟩
        simp [hz, hbreak, hpair, step, BreakSite.past]
      · -- the state waits for the other character of a line break, which does not come
        refine ⟨newLine (.escape quote) c, ?_, rfl, fun c' hc' => ?_⟩
        · simp [hz, hbreak, hpair, step]
        · have hne : c' ≠ Text.lineBreakPartner c := by
            rintro rfl
            simp [hz, hpair] at hc'
          exact step_newLine_of_ne d hne
    · refine ⟨quoted quote, ?_, betweenUnits_quoted d quote _⟩
      simp [hz, hbreak, step]

end LexState

/-! ### Tokens -/

/-- From between two units, the lexer reads on to the end of the string. A unit that does not end it
leads to between two units again. -/
theorem Munches.stringBody {state final : LexState} {taken rest : List Char}
    (h : Munches (LexState.step d) state taken rest final)
    (hstate : BetweenUnits d quote state (taken ++ rest))
    (hquote : quote = '"' ∨ quote = '\x27') :
    final.kind? = some .string ∧ StringBody quote (quotedUnits (taken ++ rest)) taken := by
  generalize hcs : taken ++ rest = cs at hstate
  fun_induction quotedUnits cs generalizing state taken with
  | case1 =>
    obtain ⟨rfl, rfl⟩ := List.append_eq_nil_iff.mp hcs
    obtain rfl : state = final := Option.some.inj h.accepts
    exact ⟨hstate.kind, .ended quote⟩
  | case2 cs ih =>
    have hstep : state.step d '\\' = some (.escape quote) := by
      rw [hstate.step '\\' rfl]
      rcases hquote with rfl | rfl <;> rfl
    obtain ⟨state', hled, hstate'⟩ := LexState.exists_foldlM_escape d quote cs
    have hunit : ('\\' :: (splitEscape cs).1).foldlM (LexState.step d) state = some state' := by
      rw [List.foldlM_cons, hstep]
      exact hled
    have hsplit : taken ++ rest = '\\' :: (splitEscape cs).1 ++ (splitEscape cs).2 := by
      rw [hcs, List.cons_append, splitEscape_append]
    obtain ⟨more, rfl, hmore, h'⟩ := h.exists_append_of_accepts hunit hsplit
    obtain ⟨hfinal, hbody⟩ := ih h' hmore.symm hstate'
    exact ⟨hfinal, hbody.cons (u := .escape _) (by simp)⟩
  | case3 c cs hc ih =>
    have hstep := hstate.step c rfl
    by_cases hclose : c = quote
    · subst hclose
      have hunit : [c].foldlM (LexState.step d) state = some (.finished .string) := by
        simp [hstep, LexState.stepQuoted]
      obtain ⟨more, rfl, -, h'⟩ := h.exists_append_of_accepts hunit hcs
      obtain ⟨rfl, rfl⟩ := h'.eq_nil_of_stops fun _ _ => rfl
      exact ⟨rfl, .closed c _⟩
    by_cases hbreak : Text.isLineBreak c = true
    · have hstop : state.step d c = none := by
        simp [hstep, LexState.stepQuoted, hclose, hbreak]
      obtain ⟨rfl, rfl⟩ := h.eq_nil_of_stops (by simpa [hcs] using hstop)
      exact ⟨hstate.kind, .broken hbreak _⟩
    · have hunit : [c].foldlM (LexState.step d) state = some (.quoted quote) := by
        simp [hstep, LexState.stepQuoted, hclose, hbreak, hc]
      obtain ⟨more, rfl, hmore, h'⟩ := h.exists_append_of_accepts hunit hcs
      obtain ⟨hfinal, hbody⟩ := ih h' hmore.symm (LexState.betweenUnits_quoted d quote cs)
      refine ⟨hfinal, hbody.cons fun c' hc' => ?_⟩
      cases hc'
      exact ⟨hclose, by simpa using hbreak⟩

/-- A token that starts with a quote is a string. It ends with the first unit after that quote that is
the quote again, or before the first one that is a line break, whichever is first, and with the text if
there is neither. -/
theorem lex_quotedString {text : String} {t : Token} {before : List Char} (ht : t ∈ lex d text)
    (hquote : quote = '"' ∨ quote = '\x27') (htext : text.toList = before ++ quote :: cs)
    (hstart : t.span.start = String.utf8Len before) :
    t.kind = .string ∧ ∃ body rest, cs = body ++ rest ∧ StringBody quote (quotedUnits cs) body ∧
      t.span.length = String.utf8Len (quote :: body) := by
  obtain ⟨opensText, l, rest, hsplit, hleads, hkind, hlength⟩ :=
    exists_leads_of_mem_lex ht htext hstart
  rw [hkind, hlength]
  cases hleads with
  | @intro c taken _ state h =>
    obtain ⟨rfl, rfl⟩ : quote = c ∧ cs = taken ++ rest := List.cons.inj hsplit
    have hopen : LexState.start opensText quote = .quoted quote := by
      rcases hquote with rfl | rfl <;> cases opensText <;> decide
    rw [hopen] at h
    obtain ⟨hfinal, hbody⟩ := h.stringBody (LexState.betweenUnits_quoted d quote _) hquote
    exact ⟨by rw [hfinal]; rfl, taken, rest, rfl, hbody, rfl⟩

/-- A string with the other quote, a skipped line break, its own quote after a backslash, and a line
break after a backslash in it, that a second line break ends. -/
theorem lex_quotedString_broken :
    let text := "x='a\"\\z \r\n\\'\\\n\n'"
    let t : Token := ⟨.string, 2, 12⟩
    let cs := "a\"\\z \r\n\\'\\\n\n'".toList
    let body := "a\"\\z \r\n\\'\\\n".toList
    t ∈ lex .lua55 text ∧ text.toList = "x=".toList ++ '\x27' :: cs ∧
      t.span.start = String.utf8Len "x=".toList ∧ StringBody '\x27' (quotedUnits cs) body := by
  intro text t cs body
  have ht : t ∈ lex .lua55 text := by decide +kernel
  have htext : text.toList = "x=".toList ++ '\x27' :: cs := by decide +kernel
  have hstart : t.span.start = String.utf8Len "x=".toList := by decide
  obtain ⟨-, body', rest, hsplit, hbody, hlength⟩ := lex_quotedString ht (.inr rfl) htext hstart
  have hparts : '\x27' :: body ++ "\n'".toList = '\x27' :: body' ++ rest := by
    rw [List.cons_append, List.cons_append, ← hsplit]
    decide +kernel
  have hsize : String.utf8Len ('\x27' :: body) = String.utf8Len ('\x27' :: body') := by
    rw [← hlength]
    decide +kernel
  obtain ⟨hsame, -⟩ := Text.append_inj_of_utf8Len hparts hsize
  obtain rfl : body = body' := (List.cons.inj hsame).2
  exact ⟨ht, htext, hstart, hbody⟩

end LuaFold
