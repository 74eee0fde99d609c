import LuaFold.Proofs.Lexemes

/-! Long brackets. The lexer has read a closing bracket and some equals signs before it knows whether
they close the literal. It keeps their number, so no closing bracket that overlaps them is missed: the
literal ends with the first one of its own width. -/

namespace LuaFold

/-- What opens a long string or, with `comment`, a long comment. -/
def longOpener (comment : Bool) (width : Nat) : List Char :=
  (if comment then ['-', '-'] else []) ++ '[' :: (List.replicate width '=' ++ ['['])

/-- A closing bracket and `seen` equals signs, which may go on to close a literal. -/
def closingRun (seen : Nat) : List Char :=
  ']' :: List.replicate seen '='

/-- What closes a long string or a long comment. -/
def longCloser (width : Nat) : List Char :=
  closingRun width ++ [']']

variable {d : Dialect} {kind : TokenKind} {width seen : Nat} {read : List Char} {c : Char}

/-! ### The end of what is read -/

theorem closingRun_succ (seen : Nat) : closingRun (seen + 1) = closingRun seen ++ ['='] := by
  rw [closingRun, List.replicate_succ', closingRun, List.cons_append]

theorem concat_suffix_concat {last : Char} {part : List Char} :
    part ++ [last] <:+ read ++ [c] ↔ part <:+ read ∧ c = last := by
  rw [List.suffix_append_inj_of_length_eq (show [last].length = [c].length from rfl)]
  simp [eq_comm]

theorem closingRun_zero_suffix_concat : closingRun 0 <:+ read ++ [c] ↔ c = ']' := by
  rw [show closingRun 0 = [] ++ [']'] from rfl, concat_suffix_concat]
  simp

theorem closingRun_succ_suffix_concat :
    closingRun (seen + 1) <:+ read ++ [c] ↔ closingRun seen <:+ read ∧ c = '=' := by
  rw [closingRun_succ, concat_suffix_concat]

theorem eq_of_closingRun_suffix {before : List Char}
    (h : closingRun width <:+ before ++ closingRun seen) : width = seen := by
  induction seen generalizing width with
  | zero =>
    cases width with
    | zero => rfl
    | succ width =>
      obtain ⟨-, hsign⟩ := closingRun_succ_suffix_concat.mp h
      cases hsign
  | succ seen ih =>
    rw [closingRun_succ, ← List.append_assoc] at h
    cases width with
    | zero => cases closingRun_zero_suffix_concat.mp h
    | succ width => rw [ih (closingRun_succ_suffix_concat.mp h).1]

theorem longCloser_infix_concat : longCloser width <:+: read ++ [c] ↔
    longCloser width <:+: read ∨ closingRun width <:+ read ∧ c = ']' := by
  rw [List.infix_concat_iff, or_comm, longCloser, concat_suffix_concat]

/-! ### The states of a long bracket -/

/-- `Scanned kind width read state` says what the lexer knows in `state` of the characters `read` after
the opening bracket. They have no closing bracket of the width in them, or end with the only one. -/
inductive Scanned (kind : TokenKind) (width : Nat) : List Char → LexState → Prop
  | inside {read : List Char} (hopen : ¬ longCloser width <:+: read)
    (hend : ∀ seen, ¬ closingRun seen <:+ read) : Scanned kind width read (.long kind width)
  | lineBreak {read : List Char} (first : Char) (hopen : ¬ longCloser width <:+: read)
    (hend : ∀ seen, ¬ closingRun seen <:+ read) :
    Scanned kind width read (.newLine (.long kind width) first)
  | closing {before : List Char} {seen : Nat}
    (hopen : ¬ longCloser width <:+: before ++ closingRun seen) :
    Scanned kind width (before ++ closingRun seen) (.longClosing kind width seen)
  | closed {before : List Char} (hopen : ¬ longCloser width <:+: before ++ closingRun width) :
    Scanned kind width (before ++ longCloser width) (.finished kind)

namespace Scanned

variable {state state' : LexState}

theorem start (kind : TokenKind) (width : Nat) : Scanned kind width [] (.long kind width) := by
  refine .inside ?_ fun seen => ?_
  · rw [List.infix_nil]
    exact List.append_ne_nil_of_right_ne_nil _ (List.cons_ne_nil _ _)
  · rw [List.suffix_nil]
    exact List.cons_ne_nil _ _

/-- After a closing bracket the lexer waits for equals signs. -/
theorem of_bracket (hopen : ¬ longCloser width <:+: read) (hend : ¬ closingRun width <:+ read) :
    Scanned kind width (read ++ [']']) (.longClosing kind width 0) := by
  have hrun : ¬ longCloser width <:+: read ++ closingRun 0 := by
    rw [show closingRun 0 = [']'] from rfl, longCloser_infix_concat]
    exact fun h => h.elim hopen fun h => hend h.1
  exact .closing hrun

/-- After a character that is in no closing bracket, what came before it does not count. -/
theorem not_closing_concat (hopen : ¬ longCloser width <:+: read) (hbracket : c ≠ ']')
    (hend : c = '=' → ∀ seen, ¬ closingRun seen <:+ read) :
    ¬ longCloser width <:+: read ++ [c] ∧ ∀ seen, ¬ closingRun seen <:+ read ++ [c] := by
  refine ⟨?_, fun seen => ?_⟩
  · rw [longCloser_infix_concat]
    exact fun h => h.elim hopen fun h => hbracket h.2
  · cases seen with
    | zero =>
      rw [closingRun_zero_suffix_concat]
      exact hbracket
    | succ seen =>
      rw [closingRun_succ_suffix_concat]
      exact fun h => hend h.2 seen h.1

theorem of_stepLong (hopen : ¬ longCloser width <:+: read)
    (hrun : c = ']' → ¬ closingRun width <:+ read)
    (hend : c = '=' → ∀ seen, ¬ closingRun seen <:+ read) :
    Scanned kind width (read ++ [c]) (LexState.stepLong kind width c) := by
  by_cases hbracket : c = ']'
  · subst hbracket
    exact of_bracket hopen (hrun rfl)
  · obtain ⟨hopen, hend⟩ := not_closing_concat hopen hbracket hend
    rw [LexState.stepLong, if_neg (by simpa using hbracket)]
    split
    · exact .lineBreak c hopen hend
    · exact .inside hopen hend

theorem step (h : Scanned kind width read state) (hstep : state.step d c = some state') :
    Scanned kind width (read ++ [c]) state' := by
  cases h with
  | inside hopen hend =>
    obtain rfl := Option.some.inj hstep
    exact of_stepLong hopen (fun _ => hend width) fun _ => hend
  | lineBreak first hopen hend =>
    by_cases hjoins : c = Text.lineBreakPartner first
    · subst hjoins
      rw [LexState.step_newLine_partner] at hstep
      obtain rfl := Option.some.inj hstep
      have hbracket : Text.lineBreakPartner first ≠ ']' := by
        unfold Text.lineBreakPartner
        split <;> decide
      obtain ⟨hopen, hend⟩ := not_closing_concat hopen hbracket fun _ => hend
      exact .inside hopen hend
    · rw [LexState.step_newLine_of_ne d hjoins] at hstep
      obtain rfl := Option.some.inj hstep
      exact of_stepLong hopen (fun _ => hend width) fun _ => hend
  | @closing before seen hopen =>
    rw [LexState.step, Option.some.injEq] at hstep
    by_cases hsign : c = '='
    · obtain rfl : LexState.longClosing kind width (seen + 1) = state' := by
        simpa [hsign] using hstep
      rw [List.append_assoc, hsign, ← closingRun_succ]
      refine .closing ?_
      rw [closingRun_succ, ← List.append_assoc, longCloser_infix_concat]
      exact fun h => h.elim hopen fun h => absurd h.2 (by decide)
    · by_cases hcloses : c = ']' ∧ seen = width
      · obtain ⟨rfl, rfl⟩ := hcloses
        obtain rfl : LexState.finished kind = state' := by simpa using hstep
        rw [List.append_assoc]
        exact .closed hopen
      · -- a bracket here is the last one of no closing bracket, and may be the first one of another
        obtain rfl : LexState.stepLong kind width c = state' := by
          simpa [hsign, hcloses] using hstep
        refine of_stepLong hopen (fun hbracket hrun => ?_) fun h => absurd h hsign
        exact hcloses ⟨hbracket, (eq_of_closingRun_suffix hrun).symm⟩
  | closed _ => cases hstep

theorem kind?_eq (h : Scanned kind width read state) : state.kind? = some kind := by
  cases h <;> rfl

end Scanned

/-! ### Tokens -/

namespace LexState

theorem foldlM_signs (d : Dialect) (comment : Bool) (width count : Nat) :
    (List.replicate count '=').foldlM (step d) (bracket comment width) =
      some (bracket comment (width + count)) := by
  induction count generalizing width with
  | zero => rfl
  | succ count ih =>
    rw [List.replicate_succ, List.foldlM_cons, Nat.add_comm count, ← Nat.add_assoc]
    exact ih (width + 1)

/-- The kind of a literal in long brackets. -/
def longKind (comment : Bool) : TokenKind :=
  if comment then .longComment else .longString

theorem foldlM_bracket (d : Dialect) (comment : Bool) (width : Nat) :
    (List.replicate width '=' ++ ['[']).foldlM (step d) (bracket comment 0) =
      some (long (longKind comment) width) := by
  rw [List.foldlM_append, foldlM_signs, Nat.zero_add]
  rfl

/-- The opening bracket leads into the literal. -/
theorem exists_foldlM_longOpener (d : Dialect) (opensText comment : Bool) (width : Nat) :
    ∃ first more, longOpener comment width = first :: more ∧
      more.foldlM (step d) (start opensText first) = some (long (longKind comment) width) := by
  cases comment with
  | true =>
    refine ⟨'-', '-' :: '[' :: (List.replicate width '=' ++ ['[']), rfl, ?_⟩
    have hstart : start opensText '-' = symbol .minus := by cases opensText <;> decide
    rw [hstart]
    exact foldlM_bracket d true width
  | false =>
    refine ⟨'[', List.replicate width '=' ++ ['['], rfl, ?_⟩
    have hstart : start opensText '[' = bracket false 0 := by cases opensText <;> decide
    rw [hstart]
    exact foldlM_bracket d false width

end LexState

/-- `part` is what comes before the first `mark` in `cs`. -/
def UpToFirst (mark part cs : List Char) : Prop :=
  (∃ rest, cs = part ++ (mark ++ rest)) ∧
    ∀ part' rest', cs = part' ++ (mark ++ rest') → part.length ≤ part'.length

theorem upToFirst_of_not_infix {before rest : List Char}
    (hopen : ¬ longCloser width <:+: before ++ closingRun width) :
    UpToFirst (longCloser width) before (before ++ (longCloser width ++ rest)) := by
  refine ⟨⟨rest, rfl⟩, fun part' rest' hsplit => ?_⟩
  by_contra hlt
  have hinitial : part' ++ longCloser width <+: before ++ (longCloser width ++ rest) :=
    ⟨rest', by rw [hsplit, List.append_assoc]⟩
  have hrun : before ++ closingRun width <+: before ++ (longCloser width ++ rest) :=
    ⟨']' :: rest, by simp [longCloser]⟩
  have hlength : (part' ++ longCloser width).length ≤ (before ++ closingRun width).length := by
    simp only [longCloser, List.length_append, List.length_singleton]
    omega
  have hearlier := List.prefix_of_prefix_length_le hinitial hrun hlength
  exact hopen ((List.suffix_append _ _).isInfix.trans hearlier.isInfix)

/-- A literal in long brackets takes in the characters up to its first closing bracket, or all of
them. -/
theorem Munches.long {taken rest : List Char} {final : LexState}
    (h : Munches (LexState.step d) (.long kind width) taken rest final) :
    final.kind? = some kind ∧
      ((∃ inside, UpToFirst (longCloser width) inside (taken ++ rest) ∧
          taken = inside ++ longCloser width) ∨
        ¬ longCloser width <:+: taken ∧ rest = []) := by
  have hscanned : Scanned kind width taken final := h.invariant (.start kind width) .step
  refine ⟨hscanned.kind?_eq, ?_⟩
  cases hscanned with
  | closed hopen =>
    refine .inl ⟨_, ?_, rfl⟩
    rw [List.append_assoc]
    exact upToFirst_of_not_infix hopen
  | inside hopen _ => exact .inr ⟨hopen, h.rest_eq_nil fun _ => Option.some_ne_none _⟩
  | lineBreak first hopen _ =>
    refine .inr ⟨hopen, h.rest_eq_nil fun c => ?_⟩
    rw [LexState.step]
    split <;> exact Option.some_ne_none _
  | closing hopen => exact .inr ⟨hopen, h.rest_eq_nil fun _ => Option.some_ne_none _⟩

/-- A token that starts like a long string or a long comment is one. It ends with the first closing
bracket of its width after its opening bracket, and with the text if there is none. -/
theorem lex_longBracket {text : String} {t : Token} {before cs : List Char} (comment : Bool)
    (width : Nat) (ht : t ∈ lex d text)
    (htext : text.toList = before ++ (longOpener comment width ++ cs))
    (hstart : t.span.start = String.utf8Len before) :
    t.kind = (if comment then .longComment else .longString) ∧
      ((∃ inside, UpToFirst (longCloser width) inside cs ∧
          t.span.length =
            String.utf8Len (longOpener comment width ++ (inside ++ longCloser width))) ∨
        ¬ longCloser width <:+: cs ∧
          t.span.length = String.utf8Len (longOpener comment width ++ cs)) := by
  obtain ⟨opensText, l, rest, hsplit, hleads, hkind, hlength⟩ :=
    exists_leads_of_mem_lex ht htext hstart
  obtain ⟨first, more, hopener, hmore⟩ :=
    LexState.exists_foldlM_longOpener d opensText comment width
  rw [hkind, hlength]
  cases hleads with
  | @intro c taken _ state h =>
    rw [hopener] at hsplit ⊢
    obtain ⟨rfl, htail⟩ : first = c ∧ more ++ cs = taken ++ rest := List.cons.inj hsplit
    obtain ⟨read, rfl, rfl, hread⟩ := h.exists_append_of_accepts hmore htail.symm
    obtain ⟨hfinal, hends⟩ := hread.long
    refine ⟨by rw [hfinal]; rfl, ?_⟩
    rcases hends with ⟨inside, hfirst, rfl⟩ | ⟨hopen, rfl⟩
    · exact .inl ⟨inside, hfirst, rfl⟩
    · rw [List.append_nil]
      exact .inr ⟨hopen, rfl⟩

/-- A comment where the bracket that ends one closing bracket, of another width, starts the one that
closes it. -/
theorem lex_longBracket_overlap :
    let text := "x--[=[a]==]=]\n]=]"
    let t : Token := ⟨.longComment, 1, 12⟩
    let cs := "a]==]=]\n]=]".toList
    t ∈ lex .lua55 text ∧ text.toList = ['x'] ++ (longOpener true 1 ++ cs) ∧
      t.span.start = String.utf8Len ['x'] ∧ UpToFirst (longCloser 1) "a]==".toList cs := by
  intro text t cs
  have ht : t ∈ lex .lua55 text := by decide +kernel
  have htext : text.toList = ['x'] ++ (longOpener true 1 ++ cs) := by decide +kernel
  have hcloses : longCloser 1 <:+: cs := by decide +kernel
  obtain ⟨-, ⟨inside, hfirst, hlength⟩ | ⟨hopen, -⟩⟩ := lex_longBracket true 1 ht htext rfl
  · obtain ⟨rest, hsplit⟩ := hfirst.1
    have hsize : String.utf8Len "a]==".toList = String.utf8Len inside := by
      rw [String.utf8Len_append, String.utf8Len_append] at hlength
      have hopener : String.utf8Len (longOpener true 1) = 5 := by decide
      have hcloser : String.utf8Len (longCloser 1) = 3 := by decide
      have htotal : t.span.length = 12 := rfl
      have hfour : String.utf8Len "a]==".toList = 4 := by decide
      omega
    have hstarts : "a]==".toList ++ "]=]\n]=]".toList = inside ++ (longCloser 1 ++ rest) := by
      rw [← hsplit]
      decide
    obtain ⟨rfl, -⟩ := Text.append_inj_of_utf8Len hstarts hsize
    exact ⟨ht, htext, rfl, hfirst⟩
  · exact absurd hcloses hopen

end LuaFold
