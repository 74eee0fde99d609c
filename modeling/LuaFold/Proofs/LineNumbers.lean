import LuaFold.Proofs.LineEndings
import LuaFold.Proofs.ShebangLine

/-! The lines of a text. A line break is a line feed, a carriage return, or one of each in either
order, and the line of an offset is one more than the number of line breaks before it. No token ends
inside a line break, so the lexer is in that line before each of its tokens. -/

namespace LuaFold

namespace Text

/-- A line break in a text: its characters, and the byte offset just past it. -/
structure LineBreak where
  chars : List Char
  stop : Nat
deriving DecidableEq

/-- The line breaks of characters that start at the byte offset. Two characters side by side are one
line break, the earliest two first. -/
def lineBreaksFrom (offset : Nat) : List Char → List LineBreak
  | '\n' :: '\r' :: cs => ⟨['\n', '\r'], offset + 2⟩ :: lineBreaksFrom (offset + 2) cs
  | '\r' :: '\n' :: cs => ⟨['\r', '\n'], offset + 2⟩ :: lineBreaksFrom (offset + 2) cs
  | c :: cs =>
    if isLineBreak c then ⟨[c], offset + 1⟩ :: lineBreaksFrom (offset + 1) cs
    else lineBreaksFrom (offset + c.utf8Size) cs
  | [] => []

def lineBreaksOf (text : String) : List LineBreak :=
  lineBreaksFrom 0 text.toList

/-- The line of the offset, counted from 1. A line break ends the line when it is wholly before the
offset. -/
def lineAt (text : String) (offset : Nat) : Nat :=
  (lineBreaksOf text).countP (·.stop ≤ offset) + 1

/-- No line break goes from the characters `before` on into the characters `after`. -/
def Divides (before after : List Char) : Prop :=
  ∀ c ∈ pendingBreak before, after.head? ≠ some (lineBreakPartner c)

variable {text : String} {offset : Nat} {cs cs' before after : List Char} {c : Char} {b : LineBreak}

/-! ### Line breaks one by one -/

theorem lineBreaksFrom_pair (hc : isLineBreak c = true) (offset : Nat) (cs : List Char) :
    lineBreaksFrom offset (c :: lineBreakPartner c :: cs) =
      ⟨[c, lineBreakPartner c], offset + 2⟩ :: lineBreaksFrom (offset + 2) cs := by
  rcases isLineBreak_iff.mp hc with rfl | rfl <;> rfl

theorem lineBreaksFrom_single (hc : isLineBreak c = true)
    (hcs : cs.head? ≠ some (lineBreakPartner c)) (offset : Nat) :
    lineBreaksFrom offset (c :: cs) = ⟨[c], offset + 1⟩ :: lineBreaksFrom (offset + 1) cs := by
  rw [lineBreaksFrom, if_pos hc]
  · rintro _ rfl rfl
    exact hcs rfl
  · rintro _ rfl rfl
    exact hcs rfl

theorem lineBreaksFrom_other (hc : isLineBreak c = false) (offset : Nat) (cs : List Char) :
    lineBreaksFrom offset (c :: cs) = lineBreaksFrom (offset + c.utf8Size) cs := by
  rw [lineBreaksFrom, if_neg (by simp [hc])]
  · rintro _ rfl
    cases hc
  · rintro _ rfl
    cases hc

/-- Induction over the line breaks of the characters and the other characters between them. -/
@[elab_as_elim]
theorem lineBreaks_induction {P : List Char → Prop} (nil : P [])
    (pair : ∀ c cs, isLineBreak c = true → P cs → P (c :: lineBreakPartner c :: cs))
    (single : ∀ c cs, isLineBreak c = true → cs.head? ≠ some (lineBreakPartner c) →
      P cs → P (c :: cs))
    (other : ∀ c cs, isLineBreak c = false → P cs → P (c :: cs)) (cs : List Char) : P cs := by
  induction hn : cs.length using Nat.strongRecOn generalizing cs with
  | ind n ih =>
    subst hn
    cases cs with
    | nil => exact nil
    | cons c cs =>
      have htail : P cs := ih cs.length (Nat.lt_succ_self _) cs rfl
      cases hc : isLineBreak c with
      | false => exact other c cs hc htail
      | true =>
        by_cases hpair : cs.head? = some (lineBreakPartner c)
        · obtain ⟨cs, rfl⟩ := List.head?_eq_some_iff.mp hpair
          exact pair c cs hc (ih cs.length (Nat.lt_add_of_pos_right Nat.two_pos) cs rfl)
        · exact single c cs hc hpair htail

theorem utf8Size_of_isLineBreak (hc : isLineBreak c = true) : c.utf8Size = 1 := by
  rcases isLineBreak_iff.mp hc with rfl | rfl <;> rfl

/-- A line break lies within the characters that it is one of. -/
theorem bounds_of_mem_lineBreaksFrom (h : b ∈ lineBreaksFrom offset cs) :
    offset + b.chars.length ≤ b.stop ∧ 0 < b.chars.length ∧
      b.stop ≤ offset + String.utf8Len cs := by
  induction cs using lineBreaks_induction generalizing offset with
  | nil => cases h
  | pair c cs hc ih =>
    have hc' := isLineBreak_lineBreakPartner c
    rw [String.utf8Len_cons, String.utf8Len_cons, utf8Size_of_isLineBreak hc,
      utf8Size_of_isLineBreak hc']
    rw [lineBreaksFrom_pair hc, List.mem_cons] at h
    rcases h with rfl | h
    · simp
    · have := ih h
      omega
  | single c cs hc hcs ih =>
    rw [String.utf8Len_cons, utf8Size_of_isLineBreak hc]
    rw [lineBreaksFrom_single hc hcs, List.mem_cons] at h
    rcases h with rfl | h
    · simp
    · have := ih h
      omega
  | other c cs hc ih =>
    rw [String.utf8Len_cons]
    rw [lineBreaksFrom_other hc] at h
    have := ih h
    omega

theorem length_lineBreaksFrom (offset : Nat) (cs : List Char) :
    (lineBreaksFrom offset cs).length = lineBreaks cs := by
  induction cs using lineBreaks_induction generalizing offset with
  | nil => rfl
  | pair c cs hc ih => rw [lineBreaksFrom_pair hc, lineBreaks_pair hc, List.length_cons, ih]
  | single c cs hc hcs ih =>
    rw [lineBreaksFrom_single hc hcs, lineBreaks_single hc hcs, List.length_cons, ih]
  | other c cs hc ih => rw [lineBreaksFrom_other hc, lineBreaks_other hc, ih]

/-! ### Cuts -/

theorem pendingBreak_concat (cs : List Char) (c : Char) :
    pendingBreak (cs ++ [c]) = pendingAfter (pendingBreak cs) c :=
  List.foldl_concat ..

theorem pendingBreak_singleton (hc : isLineBreak c = true) : pendingBreak [c] = some c :=
  pendingAfter_of_isLineBreak hc (by simp)

namespace Divides

theorem of_pendingBreak_eq_none (h : pendingBreak before = none) : Divides before after := by
  intro c hc
  rw [h] at hc
  cases hc

/-- After a cut, what is pending is so on account of the characters after it. -/
theorem pendingBreak_append (h : Divides before after) (hafter : after ≠ []) :
    pendingBreak (before ++ after) = pendingBreak after := by
  obtain ⟨c, after, rfl⟩ := List.exists_cons_of_ne_nil hafter
  have hfirst : pendingAfter (pendingBreak before) c = pendingAfter none c :=
    pendingAfter_eq fun c' hc' heq => h c' hc' (congrArg some heq)
  rw [pendingBreak, List.foldl_append, List.foldl_cons, ← pendingBreak, hfirst]
  rfl

theorem left (h : Divides before (cs ++ after)) (hne : cs ≠ []) : Divides before cs := by
  intro c hc hhead
  exact h c hc (by rw [List.head?_append_of_ne_nil _ hne, hhead])

theorem append (h : Divides before (cs ++ after)) (hcs : Divides cs after) (hne : cs ≠ []) :
    Divides (before ++ cs) after := by
  rwa [Divides, (h.left hne).pendingBreak_append hne]

theorem of_append (hbefore : Divides before cs) (h : Divides (before ++ cs) after) :
    Divides cs after := by
  by_cases hne : cs = []
  · subst hne
    exact of_pendingBreak_eq_none rfl
  · rwa [Divides, hbefore.pendingBreak_append hne] at h

end Divides

/-- The line breaks of characters with a cut between line breaks are those of the two parts. -/
theorem lineBreaksFrom_append (h : Divides cs after) (offset : Nat) :
    lineBreaksFrom offset (cs ++ after) =
      lineBreaksFrom offset cs ++ lineBreaksFrom (offset + String.utf8Len cs) after := by
  induction cs using lineBreaks_induction generalizing offset with
  | nil => rfl
  | pair c cs hc ih =>
    have hpair : pendingBreak [c, lineBreakPartner c] = none := by
      rw [← List.singleton_append, pendingBreak_concat, pendingBreak_singleton hc,
        pendingAfter_partner hc]
    have hcs : Divides cs after := (Divides.of_pendingBreak_eq_none hpair).of_append h
    have hoffset : offset + String.utf8Len (c :: lineBreakPartner c :: cs) =
        offset + 2 + String.utf8Len cs := by
      rw [String.utf8Len_cons, String.utf8Len_cons, utf8Size_of_isLineBreak hc,
        utf8Size_of_isLineBreak (isLineBreak_lineBreakPartner c)]
      omega
    rw [List.cons_append, List.cons_append, lineBreaksFrom_pair hc, lineBreaksFrom_pair hc, ih hcs,
      hoffset, List.cons_append]
  | single c cs hc hcs ih =>
    have hsingle := pendingBreak_singleton hc
    have hdivides : Divides [c] cs := by
      intro c' hc'
      obtain rfl : c = c' := Option.some.inj (hsingle.symm.trans hc')
      exact hcs
    have hhead : (cs ++ after).head? ≠ some (lineBreakPartner c) := by
      cases cs with
      | nil => exact h c hsingle
      | cons c' cs => exact hcs
    have hoffset : offset + String.utf8Len (c :: cs) = offset + 1 + String.utf8Len cs := by
      rw [String.utf8Len_cons, utf8Size_of_isLineBreak hc]
      omega
    rw [List.cons_append, lineBreaksFrom_single hc hcs, lineBreaksFrom_single hc hhead,
      ih (hdivides.of_append h), hoffset, List.cons_append]
  | other c cs hc ih =>
    have hother : Divides [c] cs := .of_pendingBreak_eq_none (pendingAfter_other hc none)
    have hoffset : offset + String.utf8Len (c :: cs) = offset + c.utf8Size + String.utf8Len cs := by
      rw [String.utf8Len_cons]
      omega
    rw [List.cons_append, lineBreaksFrom_other hc, lineBreaksFrom_other hc,
      ih (hother.of_append h), hoffset]

theorem lineBreaks_append (h : Divides before after) :
    lineBreaks (before ++ after) = lineBreaks before + lineBreaks after := by
  rw [← length_lineBreaksFrom 0, lineBreaksFrom_append h, List.length_append,
    length_lineBreaksFrom, length_lineBreaksFrom]

/-- The line of a cut between line breaks is one more than the number of line breaks before it. -/
theorem lineAt_of_divides (htext : text.toList = before ++ after) (h : Divides before after) :
    lineAt text (String.utf8Len before) = lineBreaks before + 1 := by
  have hbefore : (lineBreaksFrom 0 before).countP (·.stop ≤ String.utf8Len before) =
      (lineBreaksFrom 0 before).length := by
    rw [List.countP_eq_length]
    intro b hb
    have := bounds_of_mem_lineBreaksFrom hb
    simp only [decide_eq_true_eq]
    omega
  have hafter : (lineBreaksFrom (0 + String.utf8Len before) after).countP
      (·.stop ≤ String.utf8Len before) = 0 := by
    rw [List.countP_eq_zero]
    intro b hb
    have := bounds_of_mem_lineBreaksFrom hb
    simp only [decide_eq_true_eq]
    omega
  rw [lineAt, lineBreaksOf, htext, lineBreaksFrom_append h, List.countP_append, hbefore, hafter,
    length_lineBreaksFrom, Nat.add_zero]

end Text

/-! ### The lexer -/

variable {d : Dialect} {opensText : Bool} {l : Lexeme} {ls ls' : List Lexeme} {rest cs : List Char}

/-- A lexeme does not end inside a line break: the state there would go on over the rest of it. -/
theorem Lexeme.Leads.divides (h : l.Leads d opensText rest) : Text.Divides l.chars rest := by
  cases h with
  | @intro c taken _ state h =>
    obtain ⟨hopen, -⟩ := h.invariant
      (P := fun read state => state.openBreak = Text.pendingBreak (c :: read) ∧ state.Sound)
      (LexState.openBreak_start opensText c) fun h hstep => by
        rw [← List.cons_append, Text.pendingBreak_concat, ← h.1]
        exact LexState.openBreak_step h.2 hstep
    intro first hfirst hjoins
    obtain ⟨site, rfl⟩ := LexState.eq_newLine_of_openBreak (hopen.trans hfirst)
    have hstop := h.stops _ hjoins
    rw [LexState.step_newLine_partner] at hstop
    cases hstop

theorem Lexes.divides (h : Lexes d opensText cs (ls ++ ls')) :
    Text.Divides (ls.flatMap Lexeme.chars) (ls'.flatMap Lexeme.chars) := by
  induction ls using List.reverseRecOn generalizing ls' with
  | nil => exact .of_pendingBreak_eq_none rfl
  | append_singleton ls l ih =>
    rw [List.append_assoc] at h
    obtain ⟨_, hleads⟩ := h.leads
    have hbefore := ih h
    rw [List.singleton_append, List.flatMap_cons] at hbefore
    rw [List.flatMap_append, List.flatMap_singleton]
    exact hbefore.append hleads.divides hleads.chars_ne_nil

namespace Lexer.Reaches

variable {text : String} {done : Array Token} {lx : Lexer}

/-- The lexer has not read a part of a line break, and has counted those that it has read. -/
theorem exists_divides (h : Reaches d text done lx) :
    ∃ consumed, text.toList = consumed ++ lx.scanner.rest ∧
      lx.scanner.offset = String.utf8Len consumed ∧ Text.Divides consumed lx.scanner.rest ∧
      lx.line = Text.lineBreaks consumed + 1 := by
  induction h with
  | start => exact ⟨[], rfl, rfl, .of_pendingBreak_eq_none rfl, rfl⟩
  | @next _ lx _ _ _ hnext ih =>
    obtain ⟨consumed, htext, hoffset, hdivides, hline⟩ := ih
    obtain ⟨l, rest, hsplit, hleads, rfl⟩ := exists_past_of_next? hnext
    rw [hsplit] at htext hdivides
    have hbefore := hdivides.left hleads.chars_ne_nil
    refine ⟨consumed ++ l.chars, ?_, ?_, hdivides.append hleads.divides hleads.chars_ne_nil, ?_⟩
    · rw [htext, List.append_assoc]
      rfl
    · rw [String.utf8Len_append, ← hoffset]
      rfl
    · rw [Text.lineBreaks_append hbefore]
      show lx.line + _ = _
      rw [hline]
      omega

/-- The lexer is in the line of the next token. -/
theorem line_eq_lineAt (h : Reaches d text done lx) :
    lx.line = Text.lineAt text lx.scanner.offset := by
  obtain ⟨consumed, htext, hoffset, hdivides, hline⟩ := h.exists_divides
  rw [hline, hoffset, Text.lineAt_of_divides htext hdivides]

end Lexer.Reaches

end LuaFold
