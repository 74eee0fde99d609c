import LuaFold.Lexer.Basic
import LuaFold.Proofs.RunInvariants

/-! Balanced delimiters by counts. The look ahead for the token that closes a delimiter succeeds if
some of the tokens from the delimiter on have as many closers as openers among them, and it leaves
the cursor as it was. -/

namespace LuaFold

/-! ### Counts -/

/-- In some of the first `kinds`, `depth` open delimiters and all that are opened there are closed.
-/
def Settles (opener closer : TokenKind) (depth : Nat) (kinds : List TokenKind) : Prop :=
  ∃ n, depth + (kinds.take n).count opener = (kinds.take n).count closer

/-- Some of the first `kinds`, one at least, have as many closers as openers among them. -/
def ClosesFirst (opener closer : TokenKind) (kinds : List TokenKind) : Prop :=
  ∃ j < kinds.length, (kinds.take (j + 1)).count opener = (kinds.take (j + 1)).count closer

instance (opener closer : TokenKind) (kinds : List TokenKind) :
    Decidable (ClosesFirst opener closer kinds) :=
  inferInstanceAs (Decidable (∃ j, j < kinds.length ∧ _))

/-- The number of open delimiters after a token. -/
def depthAfter (opener closer : TokenKind) (depth : Nat) (kind : TokenKind) : Nat :=
  if kind = opener then depth + 1 else if kind = closer then depth - 1 else depth

section

variable {opener closer : TokenKind} {depth : Nat} {kind : TokenKind} {kinds : List TokenKind}

theorem settles_zero (opener closer : TokenKind) (kinds : List TokenKind) :
    Settles opener closer 0 kinds :=
  ⟨0, rfl⟩

theorem not_settles_nil (hdepth : depth ≠ 0) : ¬Settles opener closer depth [] := by
  rintro ⟨n, hn⟩
  simp only [List.take_nil, List.count_nil] at hn
  omega

theorem add_count_cons (hne : opener ≠ closer) (hdepth : depth ≠ 0) :
    depth + (kind :: kinds).count opener = (kind :: kinds).count closer ↔
      depthAfter opener closer depth kind + kinds.count opener = kinds.count closer := by
  rw [depthAfter]
  by_cases hopen : kind = opener
  · subst hopen
    rw [List.count_cons_self, List.count_cons_of_ne hne, if_pos rfl]
    omega
  · by_cases hclose : kind = closer
    · subst hclose
      rw [List.count_cons_self, List.count_cons_of_ne hopen, if_neg hopen, if_pos rfl]
      omega
    · rw [List.count_cons_of_ne hopen, List.count_cons_of_ne hclose, if_neg hopen, if_neg hclose]

theorem settles_cons (hne : opener ≠ closer) (hdepth : depth ≠ 0) :
    Settles opener closer depth (kind :: kinds) ↔
      Settles opener closer (depthAfter opener closer depth kind) kinds := by
  constructor
  · rintro ⟨n, hn⟩
    cases n with
    | zero =>
      -- nothing closes the delimiters that are open already
      simp only [List.take_zero, List.count_nil] at hn
      omega
    | succ n => exact ⟨n, (add_count_cons hne hdepth).mp hn⟩
  · rintro ⟨n, hn⟩
    exact ⟨n + 1, (add_count_cons hne hdepth).mpr hn⟩

/-- Only the two kinds of delimiters have a part in it. -/
theorem settles_filter (hne : opener ≠ closer) :
    Settles opener closer depth (kinds.filter fun kind => kind = opener ∨ kind = closer) ↔
      Settles opener closer depth kinds := by
  induction kinds generalizing depth with
  | nil => exact Iff.rfl
  | cons kind kinds ih =>
    by_cases hdepth : depth = 0
    · subst hdepth
      exact iff_of_true (settles_zero ..) (settles_zero ..)
    · rw [settles_cons hne hdepth]
      by_cases hkind : kind = opener ∨ kind = closer
      · rw [List.filter_cons_of_pos (by simpa using hkind), settles_cons hne hdepth]
        exact ih
      · obtain ⟨hopen, hclose⟩ := not_or.mp hkind
        rw [List.filter_cons_of_neg (by simpa using hkind), depthAfter, if_neg hopen, if_neg hclose]
        exact ih

theorem not_closesFirst_nil : ¬ClosesFirst opener closer [] := by
  rintro ⟨j, hj, -⟩
  exact Nat.not_lt_zero j hj

theorem closesFirst_cons (hne : opener ≠ closer) :
    ClosesFirst opener closer (opener :: kinds) ↔ Settles opener closer 1 kinds := by
  have hcount (n : Nat) :
      ((opener :: kinds).take (n + 1)).count opener =
          ((opener :: kinds).take (n + 1)).count closer ↔
        1 + (kinds.take n).count opener = (kinds.take n).count closer := by
    rw [List.take_succ_cons, List.count_cons_self, List.count_cons_of_ne hne, Nat.add_comm]
  constructor
  · rintro ⟨j, -, hj⟩
    exact ⟨j, (hcount j).mp hj⟩
  · rintro ⟨n, hn⟩
    rw [List.take_eq_take_min] at hn
    refine ⟨min n kinds.length, ?_, (hcount _).mpr hn⟩
    rw [List.length_cons]
    omega

theorem closesFirst_filter (hne : opener ≠ closer) :
    ClosesFirst opener closer
        ((opener :: kinds).filter fun kind => kind = opener ∨ kind = closer) ↔
      ClosesFirst opener closer (opener :: kinds) := by
  rw [List.filter_cons_of_pos (by simp), closesFirst_cons hne, closesFirst_cons hne,
    settles_filter hne]

end

/-! ### The look ahead -/

theorem TokenStream.seekBalance_eq_true_iff {opener closer : TokenKind} (hne : opener ≠ closer)
    (s : TokenStream) (depth : Nat) (p : Place) :
    (s.seekBalance opener closer depth p).1 = true ↔
      Settles opener closer depth (s.ahead (s.advance p)) := by
  fun_induction seekBalance s opener closer depth p with
  | case1 p => exact iff_of_true rfl (settles_zero ..)
  | case2 depth p hdepth hend =>
    rw [ahead_of_atEnd hend]
    exact iff_of_false Bool.false_ne_true (not_settles_nil hdepth)
  | case3 depth p hdepth hend _ _ _ _ ih =>
    rw [ahead_of_not_atEnd (by simpa using hend), settles_cons hne hdepth]
    exact ih

namespace Cursor

/-- A delimiter is balanced if it is closed within the tokens ahead, the delimiter included. -/
theorem balanced_fst {opener closer : TokenKind} (hne : opener ≠ closer) (c : Cursor) :
    (c.balanced opener closer).1 =
      if c.current = opener then
        if ClosesFirst opener closer (c.stream.ahead c.place) then .ok ()
        else .error (.unbalanced opener closer)
      else .error (.unknownOpener c.current) := by
  unfold balanced
  by_cases hcurrent : c.current = opener
  · have hiff : (c.stream.seekBalance opener closer 1 c.place).1 = true ↔
        ClosesFirst opener closer (c.stream.ahead c.place) := by
      rw [TokenStream.seekBalance_eq_true_iff hne]
      cases hend : c.stream.atEnd c.place with
      | true =>
        -- an opener of the kind that stands for the end is never closed
        rw [TokenStream.advance_of_atEnd hend, TokenStream.ahead_of_atEnd hend]
        exact iff_of_false (not_settles_nil Nat.one_ne_zero) not_closesFirst_nil
      | false =>
        have hopener : c.stream.current c.place = opener := hcurrent
        rw [TokenStream.ahead_of_not_atEnd hend, hopener, closesFirst_cons hne]
    rw [if_pos hcurrent, if_pos hcurrent]
    show (if (c.stream.seekBalance opener closer 1 c.place).1 then _ else _) = _
    simp only [hiff]
  · rw [if_neg hcurrent, if_neg hcurrent]

/-- The look ahead takes a marker, and goes back to it. -/
theorem balanced_snd {opener : TokenKind} (closer : TokenKind) {c : Cursor}
    (hcurrent : c.current = opener) :
    (c.balanced opener closer).2 = c.mark.2.release c.mark.1 := by
  simp [balanced, hcurrent, mark, rollback, release]

end Cursor

/-! ### Clients -/

namespace Client

/-- What the look ahead answers and leaves behind, for a cursor in any state that a client can bring
it to. It is decided by the first tokens from the cursor on, trivia apart, that have as many closers
as openers among them, and other kinds have no part in it. Nothing changes but the number of the
next marker, unless numbers have run out. -/
theorem balanced_effect {s : TokenStream} {history : List Act} {c : Cursor} {held : List Marker}
    {n : Nat} (hrun : Run (.ofStream s) history ⟨c, held, n⟩) {opener closer : TokenKind}
    (hne : opener ≠ closer) :
    let kinds := (s.significantFrom c.place.index).map (·.1.kind)
    let current := kinds.headD .eof
    let after := (c.balanced opener closer).2
    (c.balanced opener closer).1 =
        (if current = opener then
          if ClosesFirst opener closer kinds then .ok () else .error (.unbalanced opener closer)
        else .error (.unknownOpener current)) ∧
      (current = opener →
        (ClosesFirst opener closer (kinds.filter fun kind => kind = opener ∨ kind = closer) ↔
          ClosesFirst opener closer kinds)) ∧
      after.stream = s ∧ after.place = c.place ∧ after.nodes = c.nodes ∧ after.log = c.log ∧
      (n < UInt32.size → after.openMarkers = c.openMarkers) := by
  intro kinds current after
  have hplaced : Placed s ⟨c, held, n⟩ := (Placed.ofStream s).moves hrun.moves
  obtain rfl : c.stream = s := hplaced.stream
  have hplace : c.stream.IsPlace c.place := hplaced.place
  have hkinds : c.stream.ahead c.place = kinds := hplace.map_significantFrom.symm
  have hcurrent : c.current = current := by
    rw [Cursor.current, TokenStream.current_eq_headD, hkinds]
  refine ⟨?_, ?_, ?_⟩
  · rw [Cursor.balanced_fst hne, hkinds, hcurrent]
  · intro hopener
    cases hcons : kinds with
    | nil => exact Iff.rfl
    | cons first rest =>
      obtain rfl : first = opener := by simpa [current, hcons] using hopener
      exact closesFirst_filter hne
  · -- the look ahead leaves the cursor alone, or has taken a marker and released it
    have hsame : after.stream = c.stream ∧ after.place = c.place ∧ after.nodes = c.nodes ∧
        after.log = c.log := by
      by_cases hopener : c.current = opener
      · simp only [after, Cursor.balanced_snd closer hopener]
        exact ⟨rfl, rfl, rfl, rfl⟩
      · simp [after, Cursor.balanced, hopener]
    refine ⟨hsame.1, hsame.2.1, hsame.2.2.1, hsame.2.2.2, fun htaken => ?_⟩
    have hnumbered : Numbered ⟨c, held, n⟩ :=
      (Numbered.ofStream c.stream).moves hrun.moves (Nat.le_of_lt htaken)
    have hleft : (if c.current = opener then n + 1 else n) ≤ UInt32.size := by
      split <;> omega
    have hafter := hnumbered.moves (moves_balanced c held n opener closer) hleft
    exact hafter.stack.trans hnumbered.stack.symm

/-- The delimiter is closed by the last token of all, after a bracket that is not closed. A marker
is open. -/
theorem balanced_effect_last_token :
    let s : TokenStream := ⟨"f([()x)", lex .lua55 "f([()x)"⟩
    let c := (Cursor.ofStream s).mark.2.advance
    let kinds : List TokenKind :=
      [.leftParen, .leftBracket, .leftParen, .rightParen, .name, .rightParen]
    Run (.ofStream s) [.mark, .advance] ⟨c, [(Cursor.ofStream s).mark.1], 1⟩ ∧
      (s.significantFrom c.place.index).map (·.1.kind) = kinds ∧
      (c.balanced .leftParen .rightParen).1 = .ok () ∧
      (c.balanced .leftParen .rightParen).2.place = c.place ∧
      (c.balanced .leftParen .rightParen).2.nodes = c.nodes ∧
      (c.balanced .leftParen .rightParen).2.openMarkers = c.openMarkers := by
  intro s c kinds
  let c₀ := Cursor.ofStream s
  have hrun : Run (.ofStream s) [.mark, .advance] ⟨c, [c₀.mark.1], 1⟩ :=
    .cons (.mark c₀ [] 0) <| .cons (.advance c₀.mark.2 [c₀.mark.1] 1) <| .nil _
  have hkinds : (s.significantFrom c.place.index).map (·.1.kind) = kinds := by decide +kernel
  have hne : TokenKind.leftParen ≠ .rightParen := by decide
  obtain ⟨hresult, -, -, hplace, hnodes, -, hopen⟩ := balanced_effect hrun hne
  rw [hkinds, if_pos (by decide), if_pos (by decide)] at hresult
  exact ⟨hrun, hkinds, hresult, hplace, hnodes, hopen (by decide)⟩

end Client

end LuaFold
