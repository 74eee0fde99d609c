import LuaFold.Lexer.State
import LuaFold.Proofs.Munch

/-! Where the lexer counts line breaks. A line break is in a token of its own, in quotes or in a long
bracket, and each of these places has a state for it, so no place is forgotten: the count is that of
the line breaks among the characters read. -/

namespace LuaFold

namespace Text

/-- The line break that one more character may join, after the character `c`. -/
def pendingAfter (pending : Option Char) (c : Char) : Option Char :=
  if isLineBreak c ∧ pending ≠ some (lineBreakPartner c) then some c else none

/-- The last character, if it is a line break that one more character may join. -/
def pendingBreak (cs : List Char) : Option Char :=
  cs.foldl pendingAfter none

/-- The number of line breaks that start in `cs`. A character that joins `pending` starts none. -/
def lineBreaksAfter (pending : Option Char) : List Char → Nat
  | [] => 0
  | c :: cs =>
    let next := pendingAfter pending c
    lineBreaksAfter next cs + if next.isSome then 1 else 0

/-- The number of line breaks in `cs`, where a line feed and a carriage return side by side are one,
the earliest two first. -/
def lineBreaks (cs : List Char) : Nat :=
  lineBreaksAfter none cs

variable {c : Char} {cs : List Char} {pending : Option Char}

theorem lineBreakPartner_lineBreakPartner (hc : isLineBreak c = true) :
    lineBreakPartner (lineBreakPartner c) = c := by
  rcases isLineBreak_iff.mp hc with rfl | rfl <;> rfl

theorem isLineBreak_lineBreakPartner (c : Char) : isLineBreak (lineBreakPartner c) = true := by
  unfold lineBreakPartner
  split <;> rfl

theorem pendingAfter_of_isLineBreak (hc : isLineBreak c = true)
    (h : pending ≠ some (lineBreakPartner c)) : pendingAfter pending c = some c :=
  if_pos ⟨hc, h⟩

theorem pendingAfter_partner (hc : isLineBreak c = true) :
    pendingAfter (some c) (lineBreakPartner c) = none := by
  rw [pendingAfter, lineBreakPartner_lineBreakPartner hc, if_neg (by simp)]

theorem pendingAfter_other (hc : isLineBreak c = false) (pending : Option Char) :
    pendingAfter pending c = none :=
  if_neg (by simp [hc])

/-- A line break that the next character does not join is over. -/
theorem pendingAfter_eq (h : ∀ c' ∈ pending, c ≠ lineBreakPartner c') :
    pendingAfter pending c = pendingAfter none c := by
  cases hc : isLineBreak c with
  | false => rw [pendingAfter_other hc, pendingAfter_other hc]
  | true =>
    have hne : pending ≠ some (lineBreakPartner c) := by
      rintro rfl
      exact h _ rfl (lineBreakPartner_lineBreakPartner hc).symm
    rw [pendingAfter_of_isLineBreak hc hne, pendingAfter_of_isLineBreak hc (by simp)]

theorem lineBreaksAfter_cons (pending : Option Char) (c : Char) (cs : List Char) :
    lineBreaksAfter pending (c :: cs) = lineBreaksAfter (pendingAfter pending c) cs +
      if (pendingAfter pending c).isSome then 1 else 0 := rfl

theorem lineBreaksAfter_eq (h : ∀ c' ∈ pending, cs.head? ≠ some (lineBreakPartner c')) :
    lineBreaksAfter pending cs = lineBreaks cs := by
  cases cs with
  | nil => rfl
  | cons c cs =>
    have hfirst : pendingAfter pending c = pendingAfter none c :=
      pendingAfter_eq fun c' hc' heq => h c' hc' (congrArg some heq)
    rw [lineBreaks, lineBreaksAfter_cons, lineBreaksAfter_cons, hfirst]

theorem lineBreaks_pair (hc : isLineBreak c = true) (cs : List Char) :
    lineBreaks (c :: lineBreakPartner c :: cs) = lineBreaks cs + 1 := by
  rw [lineBreaks, lineBreaksAfter_cons, pendingAfter_of_isLineBreak hc (by simp),
    lineBreaksAfter_cons, pendingAfter_partner hc]
  rfl

theorem lineBreaks_single (hc : isLineBreak c = true)
    (hcs : cs.head? ≠ some (lineBreakPartner c)) : lineBreaks (c :: cs) = lineBreaks cs + 1 := by
  rw [lineBreaks, lineBreaksAfter_cons, pendingAfter_of_isLineBreak hc (by simp),
    lineBreaksAfter_eq (by simpa using hcs)]
  rfl

theorem lineBreaks_other (hc : isLineBreak c = false) (cs : List Char) :
    lineBreaks (c :: cs) = lineBreaks cs := by
  rw [lineBreaks, lineBreaksAfter_cons, pendingAfter_other hc]
  rfl

theorem lineBreaks_eq_zero_iff : lineBreaks cs = 0 ↔ ∀ c ∈ cs, isLineBreak c = false := by
  induction cs with
  | nil => simp [lineBreaks, lineBreaksAfter]
  | cons c cs ih =>
    rw [List.forall_mem_cons, ← ih]
    cases hc : isLineBreak c with
    | false => simp [lineBreaks_other hc]
    | true => simp [lineBreaks, lineBreaksAfter_cons, pendingAfter_of_isLineBreak hc]

theorem lineBreaks_pos (hc : c ∈ cs) (hbreak : isLineBreak c = true) : 0 < lineBreaks cs := by
  rw [Nat.pos_iff_ne_zero]
  intro hzero
  rw [lineBreaks_eq_zero_iff.mp hzero c hc] at hbreak
  cases hbreak

end Text

theorem Numeral.step_of_isLineBreak (d : Dialect) (form : Numeral) {c : Char}
    (hc : Text.isLineBreak c = true) : form.step d c = none := by
  rcases Text.isLineBreak_iff.mp hc with rfl | rfl <;> cases form <;> cases d <;> rfl

namespace LexState

variable {d : Dialect} {state next : LexState} {c : Char}

/-! ### Line breaks in a state -/

/-- The state is not inside a line break, and has no line break for a quote. -/
def isSettled : LexState → Bool
  | newLine _ _ => false
  | quoted quote | escape quote | blankEscape quote => !Text.isLineBreak quote
  | _ => true

/-- The site of a line break that the state reads. -/
def breakSite? : LexState → Option BreakSite
  | escape quote => some (.escape quote)
  | blankEscape quote => some (.blankEscape quote)
  | long kind width | longClosing kind width _ => some (.long kind width)
  | _ => none

/-- The character of a line break that the state has read the first one of. -/
def openBreak : LexState → Option Char
  | newLine _ first => some first
  | _ => none

/-- The state is settled, or inside a line break that leads to a settled state. -/
inductive Sound : LexState → Prop
  | settled {state : LexState} (h : state.isSettled = true) : Sound state
  | newLine {site : BreakSite} {first : Char} (hfirst : Text.isLineBreak first = true)
    (hpast : site.past.isSettled = true) : Sound (newLine site first)

theorem stepQuoted_of_isLineBreak {quote : Char} (hquote : Text.isLineBreak quote = false)
    (hc : Text.isLineBreak c = true) : stepQuoted quote c = none := by
  have hne : c ≠ quote := by
    rintro rfl
    rw [hc] at hquote
    cases hquote
  simp [stepQuoted, hne, hc]

theorem stepBlankEscape_of_isLineBreak {quote : Char} (hc : Text.isLineBreak c = true) :
    stepBlankEscape quote c = some (newLine (.blankEscape quote) c) := by
  have hblank : isBlank c = false := by
    rcases Text.isLineBreak_iff.mp hc with rfl | rfl <;> rfl
  simp [stepBlankEscape, hblank, hc]

theorem stepLong_of_isLineBreak (kind : TokenKind) (width : Nat) (hc : Text.isLineBreak c = true) :
    stepLong kind width c = newLine (.long kind width) c := by
  rcases Text.isLineBreak_iff.mp hc with rfl | rfl <;> rfl

/-- A settled state that reads a line break goes on in one of the states for that, and all the others
stop at it. -/
theorem step_of_isLineBreak (h : state.isSettled = true) (hc : Text.isLineBreak c = true) :
    state.step d c = state.breakSite?.map (newLine · c) := by
  cases state with
  | number form =>
    rw [step, Numeral.step_of_isLineBreak d form hc]
    rfl
  | quoted quote => exact stepQuoted_of_isLineBreak (by simpa [isSettled] using h) hc
  | blankEscape quote => exact stepBlankEscape_of_isLineBreak hc
  | long kind width => exact congrArg some (stepLong_of_isLineBreak kind width hc)
  | symbol kind => rcases Text.isLineBreak_iff.mp hc with rfl | rfl <;> cases kind <;> rfl
  | bracket comment width =>
    rcases Text.isLineBreak_iff.mp hc with rfl | rfl <;> cases comment <;> rfl
  | newLine site first => cases h
  | _ => rcases Text.isLineBreak_iff.mp hc with rfl | rfl <;> rfl

theorem isSettled_stepQuoted {quote : Char} (hquote : Text.isLineBreak quote = false)
    (hstep : stepQuoted quote c = some next) : next.isSettled = true := by
  rcases stepQuoted_eq_some hstep with rfl | rfl | rfl
  · rfl
  · simp [isSettled, hquote]
  · simp [isSettled, hquote]

/-- Other characters lead from settled states to settled states. -/
theorem isSettled_step (h : state.isSettled = true) (hc : Text.isLineBreak c = false)
    (hstep : state.step d c = some next) : next.isSettled = true := by
  cases state with
  | newLine site first => cases h
  | finished kind => cases hstep
  | symbol kind => rcases extendSymbol_eq_some hstep with rfl | ⟨_, rfl⟩ | ⟨_, rfl⟩ <;> rfl
  | number form =>
    obtain ⟨form', -, rfl⟩ := Option.map_eq_some_iff.mp hstep
    rfl
  | quoted quote => exact isSettled_stepQuoted (by simpa [isSettled] using h) hstep
  | escape quote =>
    simp only [step, hc, Bool.false_eq_true, if_false, Option.some.injEq] at hstep
    split_ifs at hstep <;> exact hstep ▸ h
  | blankEscape quote =>
    have hquote : Text.isLineBreak quote = false := by simpa [isSettled] using h
    simp only [step, stepBlankEscape, hc, Bool.false_eq_true, if_false] at hstep
    split_ifs at hstep
    · exact Option.some.inj hstep ▸ h
    · exact isSettled_stepQuoted hquote hstep
  | long kind width =>
    simp only [step, stepLong, hc, Bool.false_eq_true, if_false, Option.some.injEq] at hstep
    split_ifs at hstep <;> exact hstep ▸ rfl
  | longClosing kind width seen =>
    simp only [step, stepLong, hc, Bool.false_eq_true, if_false, Option.some.injEq] at hstep
    split_ifs at hstep <;> exact hstep ▸ rfl
  | _ =>
    simp only [step] at hstep
    split_ifs at hstep <;> cases hstep <;> rfl

theorem isSettled_past_of_breakSite? {site : BreakSite} (h : state.isSettled = true)
    (hsite : state.breakSite? = some site) : site.past.isSettled = true := by
  cases state with
  | escape quote | blankEscape quote =>
    cases hsite
    exact h
  | long kind width | longClosing kind width seen =>
    cases hsite
    rfl
  | _ => cases hsite

theorem isSettled_start {opensText : Bool} (hc : Text.isLineBreak c = false) :
    (start opensText c).isSettled = true := by
  unfold start
  rw [if_neg (by simp [hc])]
  cases symbolOf? c with
  | some kind => split_ifs <;> simp [isSettled, hc]
  | none => split_ifs <;> simp [isSettled, hc]

theorem eq_newLine_of_openBreak {first : Char} (h : state.openBreak = some first) :
    ∃ site, state = newLine site first := by
  cases state with
  | newLine site first' =>
    cases h
    exact ⟨site, rfl⟩
  | _ => cases h

theorem openBreak_of_isSettled (h : state.isSettled = true) : state.openBreak = none := by
  cases state with
  | newLine site first => cases h
  | _ => rfl

/-- The first character of a token starts a line break if it is one. -/
theorem openBreak_start (opensText : Bool) (c : Char) :
    (start opensText c).openBreak = Text.pendingAfter none c ∧ (start opensText c).Sound := by
  cases hc : Text.isLineBreak c with
  | true =>
    rw [start, if_pos hc, Text.pendingAfter_of_isLineBreak hc (by simp)]
    exact ⟨rfl, .newLine hc rfl⟩
  | false =>
    have h : (start opensText c).isSettled = true := isSettled_start hc
    rw [openBreak_of_isSettled h, Text.pendingAfter_other hc]
    exact ⟨rfl, .settled h⟩

theorem openBreak_step_of_isSettled (h : state.isSettled = true)
    (hstep : state.step d c = some next) :
    next.openBreak = Text.pendingAfter none c ∧ next.Sound := by
  cases hc : Text.isLineBreak c with
  | true =>
    rw [step_of_isLineBreak h hc] at hstep
    obtain ⟨site, hsite, rfl⟩ := Option.map_eq_some_iff.mp hstep
    rw [Text.pendingAfter_of_isLineBreak hc (by simp)]
    exact ⟨rfl, .newLine hc (isSettled_past_of_breakSite? h hsite)⟩
  | false =>
    have hnext := isSettled_step h hc hstep
    rw [openBreak_of_isSettled hnext, Text.pendingAfter_other hc]
    exact ⟨rfl, .settled hnext⟩

/-- A character starts a line break, or joins one, in every state that reads it. -/
theorem openBreak_step (h : state.Sound) (hstep : state.step d c = some next) :
    next.openBreak = Text.pendingAfter state.openBreak c ∧ next.Sound := by
  cases h with
  | settled h =>
    rw [openBreak_of_isSettled h]
    exact openBreak_step_of_isSettled h hstep
  | @newLine site first hfirst hpast =>
    by_cases hjoins : c = Text.lineBreakPartner first
    · subst hjoins
      rw [step_newLine_partner] at hstep
      cases hstep
      rw [openBreak, Text.pendingAfter_partner hfirst]
      exact ⟨openBreak_of_isSettled hpast, .settled hpast⟩
    · rw [step_newLine_of_ne d hjoins, ← step_past d] at hstep
      rw [openBreak, Text.pendingAfter_eq (by simpa using hjoins)]
      exact openBreak_step_of_isSettled hpast hstep

theorem countLine_eq (line : Nat) (state : LexState) :
    state.countLine line = line + if state.openBreak.isSome then 1 else 0 := by
  cases state <;> rfl

end LexState

/-! ### The line of the lexer -/

variable {d : Dialect} {state final : LexState} {taken rest : List Char}

/-- The number of the line goes up by the number of line breaks in what is read. -/
theorem Munches.stepLine (h : Munches (LexState.step d) state taken rest final)
    (hstate : state.Sound) (line : Nat) :
    Munches (LexState.stepLine d) (state, line) taken rest
      (final, line + Text.lineBreaksAfter state.openBreak taken) := by
  refine ⟨?_, fun c hc => by rw [LexState.stepLine, h.stops c hc]; rfl⟩
  have haccepts := h.accepts
  clear h
  induction taken generalizing state line with
  | nil =>
    obtain rfl : state = final := Option.some.inj haccepts
    rfl
  | cons c taken ih =>
    rw [List.foldlM_cons, Option.bind_eq_bind, Option.bind_eq_some_iff] at haccepts
    obtain ⟨next, hstep, haccepts⟩ := haccepts
    obtain ⟨hopen, hnext⟩ := LexState.openBreak_step hstate hstep
    have hline : next.countLine line + Text.lineBreaksAfter next.openBreak taken =
        line + Text.lineBreaksAfter state.openBreak (c :: taken) := by
      rw [LexState.countLine_eq, Text.lineBreaksAfter_cons, hopen]
      omega
    rw [List.foldlM_cons, LexState.stepLine, hstep, ← hline]
    exact ih hnext (next.countLine line) haccepts

/-- The lexer counts the line breaks of a token. -/
theorem Munches.stepLine_start {opensText : Bool} {c : Char}
    (h : Munches (LexState.step d) (LexState.start opensText c) taken rest final) (line : Nat) :
    Munches (LexState.stepLine d)
      (LexState.start opensText c, (LexState.start opensText c).countLine line) taken rest
      (final, line + Text.lineBreaks (c :: taken)) := by
  obtain ⟨hopen, hsound⟩ := LexState.openBreak_start opensText c
  have hline : (LexState.start opensText c).countLine line +
      Text.lineBreaksAfter (LexState.start opensText c).openBreak taken =
        line + Text.lineBreaks (c :: taken) := by
    rw [LexState.countLine_eq, Text.lineBreaks, Text.lineBreaksAfter_cons, hopen]
    omega
  rw [← hline]
  exact h.stepLine hsound _

end LuaFold
