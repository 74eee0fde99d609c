import LuaFold.Token.Stream

/-! The places of a token stream, seen as positions in the list of its tokens that are not trivia:
`ahead` is the part of that list from a place on, and `skip` passes over some of it. The places that
a cursor comes to are the ones with `IsPlace`. -/

namespace LuaFold

namespace TokenStream

variable {s : TokenStream}

/-- Induction towards the end of the tokens: a property holds at a place if it holds at all later
places, as long as the place is not at the end. -/
theorem forward_induction (s : TokenStream) {motive : Place → Prop}
    (step : ∀ p, (s.atEnd p = false → ∀ q, p.index < q.index → motive q) → motive p)
    (p : Place) : motive p := by
  induction hn : s.tokens.size - p.index using Nat.strongRecOn generalizing p with
  | ind n ih =>
    refine step p fun hp q hq => ih _ ?_ q rfl
    have := index_lt_size hp
    omega

theorem current_of_getElem? {p : Place} {t : Token} (h : s.tokens[p.index]? = some t) :
    s.current p = t.kind := by
  simp [current, kindAt?, h]

theorem not_atEnd_of_index_le {p q : Place} (hle : p.index ≤ q.index) {t : Token}
    (ht : s.tokens[q.index]? = some t) : s.atEnd p = false := by
  have hsize := (Array.getElem?_eq_some_iff.mp ht).1
  simp only [atEnd, decide_eq_false_iff_not]
  omega

theorem advance_of_atEnd {p : Place} (h : s.atEnd p = true) : s.advance p = p := by
  simp [advance, h]

theorem advance_of_not_atEnd {p : Place} (h : s.atEnd p = false) :
    s.advance p = ⟨s.skipTrivia (p.index + 1), p.index + 1⟩ := by
  simp [advance, h]

/-- The number of tokens from the place on, trivia included. -/
def remaining (s : TokenStream) (p : Place) : Nat :=
  s.tokens.size - p.index

theorem remaining_lt_iff {p q : Place} :
    s.remaining q < s.remaining p ↔ s.atEnd p = false ∧ p.index < q.index := by
  simp only [remaining, atEnd, decide_eq_false_iff_not]
  omega

/-! ### The tokens ahead -/

/-- The kinds of the tokens that the cursor consumes from `p` to the end, one after another. -/
def ahead (s : TokenStream) (p : Place) : List TokenKind :=
  if h : s.atEnd p then []
  else
    have hlt : p.index < (s.advance p).index := index_lt_advance (by simpa using h)
    have hsize : p.index < s.tokens.size := index_lt_size (by simpa using h)
    s.current p :: s.ahead (s.advance p)
termination_by s.tokens.size - p.index
decreasing_by omega

/-- The place after `n` more tokens that are not trivia. -/
def skip (s : TokenStream) : Nat → Place → Place
  | 0, p => p
  | n + 1, p => s.skip n (s.advance p)

theorem ahead_of_atEnd {p : Place} (h : s.atEnd p = true) : s.ahead p = [] := by
  rw [ahead, dif_pos h]

theorem ahead_of_not_atEnd {p : Place} (h : s.atEnd p = false) :
    s.ahead p = s.current p :: s.ahead (s.advance p) := by
  rw [ahead, dif_neg (by simp [h])]

theorem ahead_eq_nil {p : Place} : s.ahead p = [] ↔ s.atEnd p = true := by
  cases h : s.atEnd p with
  | true => simp [ahead_of_atEnd h]
  | false => simp [ahead_of_not_atEnd h]

theorem ahead_eq_cons {p : Place} {k : TokenKind} {ks : List TokenKind} :
    s.ahead p = k :: ks ↔
      s.atEnd p = false ∧ s.current p = k ∧ s.ahead (s.advance p) = ks := by
  cases h : s.atEnd p with
  | true => simp [ahead_of_atEnd h]
  | false => simp [ahead_of_not_atEnd h]

@[simp] theorem skip_zero (p : Place) : s.skip 0 p = p := rfl

theorem skip_succ (n : Nat) (p : Place) : s.skip (n + 1) p = s.skip n (s.advance p) := rfl

theorem skip_add (m n : Nat) (p : Place) : s.skip (m + n) p = s.skip n (s.skip m p) := by
  induction m generalizing p with
  | zero => rw [Nat.zero_add, skip_zero]
  | succ m ih => rw [Nat.succ_add, skip_succ, skip_succ, ih]

theorem advance_skip (n : Nat) (p : Place) : s.advance (s.skip n p) = s.skip (n + 1) p := by
  rw [skip_add, skip_succ, skip_zero]

theorem skip_eq_or_lt_consumed (n : Nat) (p : Place) :
    s.skip n p = p ∨ p.index < (s.skip n p).consumed := by
  induction n generalizing p with
  | zero => exact Or.inl rfl
  | succ n ih =>
    rw [skip_succ]
    cases hp : s.atEnd p with
    | true =>
      rw [advance_of_atEnd hp]
      exact ih p
    | false =>
      right
      rcases ih (s.advance p) with h | h
      · rw [h, advance_of_not_atEnd hp]
        exact Nat.lt_succ_self _
      · exact Nat.lt_trans (index_lt_advance hp) h

theorem index_le_skip (n : Nat) (p : Place) : p.index ≤ (s.skip n p).index := by
  induction n generalizing p with
  | zero => exact Nat.le_refl _
  | succ n ih => exact Nat.le_trans (s.index_le_advance p) (ih _)

theorem ahead_skip (n : Nat) (p : Place) : s.ahead (s.skip n p) = (s.ahead p).drop n := by
  induction n generalizing p with
  | zero => rfl
  | succ n ih =>
    rw [skip_succ, ih]
    cases h : s.atEnd p with
    | true => rw [advance_of_atEnd h, ahead_of_atEnd h, List.drop_nil, List.drop_nil]
    | false => rw [ahead_of_not_atEnd h, List.drop_succ_cons]

theorem current_eq_headD (s : TokenStream) (p : Place) : s.current p = (s.ahead p).headD .eof := by
  cases hp : s.atEnd p with
  | true =>
    have hsize : s.tokens.size ≤ p.index := by simpa [atEnd] using hp
    simp [ahead_of_atEnd hp, current, kindAt?, hsize]
  | false => rw [ahead_of_not_atEnd hp, List.headD_cons]

theorem ahead_advance (s : TokenStream) (p : Place) : s.ahead (s.advance p) = (s.ahead p).tail := by
  rw [← List.drop_one, ← ahead_skip, skip_succ, skip_zero]

theorem ahead_skip_length {p : Place} {ks rest : List TokenKind} (h : s.ahead p = ks ++ rest) :
    s.ahead (s.skip ks.length p) = rest := by
  rw [ahead_skip, h, List.drop_left]

/-! ### Trivia -/

theorem skipTrivia_le_size {i : Nat} (h : i ≤ s.tokens.size) :
    s.skipTrivia i ≤ s.tokens.size := by
  fun_induction skipTrivia s i with
  | case1 i hi _ ih => exact ih hi
  | case2 => exact h
  | case3 => exact h

theorem isTrivia_of_lt_skipTrivia {i j : Nat} (hij : i ≤ j) (hj : j < s.skipTrivia i) :
    ∃ t, s.tokens[j]? = some t ∧ t.isTrivia = true := by
  fun_induction skipTrivia s i with
  | case1 i hi ht ih =>
    rcases Nat.eq_or_lt_of_le hij with rfl | hlt
    · exact ⟨_, Array.getElem?_eq_getElem hi, ht⟩
    · exact ih hlt hj
  | case2 => omega
  | case3 => omega

theorem not_isTrivia_skipTrivia {i : Nat} {t : Token} (h : s.tokens[s.skipTrivia i]? = some t) :
    t.isTrivia = false := by
  fun_induction skipTrivia s i with
  | case1 i _ _ ih => exact ih h
  | case2 i hi ht =>
    rw [Array.getElem?_eq_getElem hi] at h
    cases h
    simpa using ht
  | case3 i hi =>
    rw [Array.getElem?_eq_none (Nat.not_lt.mp hi)] at h
    cases h

theorem triviaStart_of_not_isTrivia {i : Nat} {t : Token} (h : s.tokens[i]? = some t)
    (ht : t.isTrivia = false) : s.triviaStart (i + 1) = i + 1 := by
  simp [triviaStart, h, ht]

theorem triviaStart_skipTrivia (s : TokenStream) (i : Nat) :
    s.triviaStart (s.skipTrivia i) = s.triviaStart i := by
  fun_induction skipTrivia s i with
  | case1 i hi ht ih =>
    rw [ih]
    simp [triviaStart, Array.getElem?_eq_getElem hi, ht]
  | case2 => rfl
  | case3 => rfl

theorem kindBefore?_of_not_isTrivia {i : Nat} {t : Token} (h : s.tokens[i]? = some t)
    (ht : t.isTrivia = false) : s.kindBefore? (i + 1) = some t.kind := by
  rw [Token.isTrivia] at ht
  simp [kindBefore?, kindAt?, h, ht]

theorem kindBefore?_skipTrivia (s : TokenStream) (i : Nat) :
    s.kindBefore? (s.skipTrivia i) = s.kindBefore? i := by
  fun_induction skipTrivia s i with
  | case1 i hi ht ih =>
    rw [Token.isTrivia] at ht
    rw [ih]
    simp [kindBefore?, kindAt?, Array.getElem?_eq_getElem hi, ht]
  | case2 => rfl
  | case3 => rfl

/-! ### The places of a cursor -/

/-- A cursor can come to the place: the token just before `consumed`, if there is one, is not
trivia, and `index` is where the trivia after it ends. -/
structure IsPlace (s : TokenStream) (p : Place) : Prop where
  index_eq : p.index = s.skipTrivia p.consumed
  consumed : ∀ i, p.consumed = i + 1 → ∃ t, s.tokens[i]? = some t ∧ t.isTrivia = false

theorem isPlace_first (s : TokenStream) : s.IsPlace s.first :=
  ⟨rfl, fun _ h => nomatch h⟩

namespace IsPlace

variable {p : Place}

theorem consumed_le_size (h : s.IsPlace p) : p.consumed ≤ s.tokens.size := by
  cases hc : p.consumed with
  | zero => exact Nat.zero_le _
  | succ i =>
    obtain ⟨t, ht, -⟩ := h.consumed i hc
    exact (Array.getElem?_eq_some_iff.mp ht).1

theorem consumed_le_index (h : s.IsPlace p) : p.consumed ≤ p.index := by
  rw [h.index_eq]
  exact s.le_skipTrivia _

theorem index_le_size (h : s.IsPlace p) : p.index ≤ s.tokens.size := by
  rw [h.index_eq]
  exact skipTrivia_le_size h.consumed_le_size

theorem not_isTrivia (h : s.IsPlace p) {t : Token} (ht : s.tokens[p.index]? = some t) :
    t.isTrivia = false := by
  rw [h.index_eq] at ht
  exact not_isTrivia_skipTrivia ht

theorem advance (h : s.IsPlace p) : s.IsPlace (s.advance p) := by
  cases hp : s.atEnd p with
  | true => rwa [advance_of_atEnd hp]
  | false =>
    rw [advance_of_not_atEnd hp]
    refine ⟨rfl, fun i hi => ?_⟩
    obtain rfl : p.index = i := by simpa using hi
    have ht := Array.getElem?_eq_getElem (index_lt_size hp)
    exact ⟨_, ht, h.not_isTrivia ht⟩

theorem skip (h : s.IsPlace p) (n : Nat) : s.IsPlace (s.skip n p) := by
  induction n generalizing p with
  | zero => exact h
  | succ n ih => exact ih h.advance

end IsPlace

/-! ### The list of the tokens that are not trivia -/

/-- The tokens from `i` on that are not trivia, each with its index. -/
def significantFrom (s : TokenStream) (i : Nat) : List (Token × Nat) :=
  (s.tokens.toList.zipIdx.drop i).filter fun x => !x.1.isTrivia

/-- The tokens that are not trivia, each with its index. -/
def significant (s : TokenStream) : List (Token × Nat) :=
  s.tokens.toList.zipIdx.filter fun x => !x.1.isTrivia

theorem drop_zipIdx_eq_cons {i : Nat} {t : Token} (h : s.tokens[i]? = some t) :
    s.tokens.toList.zipIdx.drop i = (t, i) :: s.tokens.toList.zipIdx.drop (i + 1) := by
  obtain ⟨hi, rfl⟩ := Array.getElem?_eq_some_iff.mp h
  rw [List.drop_eq_getElem_cons (by simpa using hi)]
  simp

theorem significantFrom_of_isTrivia {i : Nat} {t : Token} (h : s.tokens[i]? = some t)
    (ht : t.isTrivia = true) : s.significantFrom i = s.significantFrom (i + 1) := by
  simp [significantFrom, drop_zipIdx_eq_cons h, ht]

theorem significantFrom_of_not_isTrivia {i : Nat} {t : Token} (h : s.tokens[i]? = some t)
    (ht : t.isTrivia = false) : s.significantFrom i = (t, i) :: s.significantFrom (i + 1) := by
  simp [significantFrom, drop_zipIdx_eq_cons h, ht]

theorem significantFrom_of_size_le {i : Nat} (h : s.tokens.size ≤ i) :
    s.significantFrom i = [] := by
  rw [significantFrom, List.drop_of_length_le (by simpa using h), List.filter_nil]

theorem significantFrom_skipTrivia (s : TokenStream) (i : Nat) :
    s.significantFrom (s.skipTrivia i) = s.significantFrom i := by
  fun_induction skipTrivia s i with
  | case1 i hi ht ih => rw [ih, significantFrom_of_isTrivia (Array.getElem?_eq_getElem hi) ht]
  | case2 => rfl
  | case3 => rfl

theorem significantFrom_first (s : TokenStream) :
    s.significantFrom s.first.index = s.significant := by
  rw [first, significantFrom_skipTrivia, significantFrom, List.drop_zero, significant]

theorem IsPlace.significantFrom_eq_cons {p : Place} (h : s.IsPlace p) {t : Token}
    (ht : s.tokens[p.index]? = some t) :
    s.significantFrom p.index = (t, p.index) :: s.significantFrom (s.advance p).index := by
  have hp : s.atEnd p = false := by
    simpa [atEnd] using (Array.getElem?_eq_some_iff.mp ht).1
  rw [significantFrom_of_not_isTrivia ht (h.not_isTrivia ht), advance_of_not_atEnd hp,
    significantFrom_skipTrivia]

/-- The tokens ahead are those from the place on that are not trivia. -/
theorem IsPlace.map_significantFrom {p : Place} (h : s.IsPlace p) :
    (s.significantFrom p.index).map (·.1.kind) = s.ahead p := by
  induction p using s.forward_induction with
  | step p ih =>
    cases hp : s.atEnd p with
    | true =>
      rw [ahead_of_atEnd hp, significantFrom_of_size_le (by simpa [atEnd] using hp), List.map_nil]
    | false =>
      have ht := Array.getElem?_eq_getElem (index_lt_size hp)
      rw [ahead_of_not_atEnd hp, h.significantFrom_eq_cons ht, List.map_cons,
        ih hp _ (index_lt_advance hp) h.advance, current_of_getElem? ht]

theorem ahead_first (s : TokenStream) : s.ahead s.first = s.significant.map (·.1.kind) := by
  rw [← s.isPlace_first.map_significantFrom, significantFrom_first]

theorem IsPlace.getElem?_significantFrom {p : Place} (h : s.IsPlace p) (n : Nat) :
    (s.significantFrom p.index)[n]? =
      s.tokens[(s.skip n p).index]?.map (·, (s.skip n p).index) := by
  induction n generalizing p with
  | zero =>
    cases ht : s.tokens[p.index]? with
    | none =>
      rw [significantFrom_of_size_le (Array.getElem?_eq_none_iff.mp ht), skip_zero, ht]
      rfl
    | some t => rw [h.significantFrom_eq_cons ht, skip_zero, ht]; rfl
  | succ n ih =>
    cases ht : s.tokens[p.index]? with
    | none =>
      have hp : s.atEnd p = true := by simpa [atEnd] using Array.getElem?_eq_none_iff.mp ht
      rw [skip_succ, advance_of_atEnd hp, ← ih h,
        significantFrom_of_size_le (Array.getElem?_eq_none_iff.mp ht)]
      rfl
    | some t => rw [h.significantFrom_eq_cons ht, List.getElem?_cons_succ, ih h.advance, skip_succ]

/-! ### Places by number -/

/-- The place of the `n`-th token that is not trivia. -/
def nth (s : TokenStream) (n : Nat) : Place :=
  s.skip n s.first

theorem isPlace_nth (s : TokenStream) (n : Nat) : s.IsPlace (s.nth n) :=
  s.isPlace_first.skip n

theorem advance_nth (s : TokenStream) (n : Nat) : s.advance (s.nth n) = s.nth (n + 1) :=
  advance_skip n s.first

theorem skip_nth (s : TokenStream) (m n : Nat) : s.skip m (s.nth n) = s.nth (n + m) :=
  (skip_add n m s.first).symm

theorem ahead_nth_succ {n : Nat} {kind : TokenKind} {rest : List TokenKind}
    (h : s.ahead (s.nth n) = kind :: rest) : s.ahead (s.nth (n + 1)) = rest := by
  rw [← advance_nth]
  exact (ahead_eq_cons.mp h).2.2

theorem ahead_nth_add {n : Nat} {ks rest : List TokenKind} (h : s.ahead (s.nth n) = ks ++ rest) :
    s.ahead (s.nth (n + ks.length)) = rest := by
  rw [← skip_nth, ahead_skip_length h]

theorem getElem?_nth_of_ahead {n : Nat} {kind : TokenKind} {rest : List TokenKind}
    (h : s.ahead (s.nth n) = kind :: rest) :
    ∃ t, s.tokens[(s.nth n).index]? = some t ∧ t.kind = kind := by
  obtain ⟨hend, hkind, -⟩ := ahead_eq_cons.mp h
  have ht := Array.getElem?_eq_getElem (index_lt_size hend)
  exact ⟨_, ht, (current_of_getElem? ht).symm.trans hkind⟩

theorem getElem?_significant (s : TokenStream) (n : Nat) :
    s.significant[n]? = s.tokens[(s.nth n).index]?.map (·, (s.nth n).index) := by
  rw [← significantFrom_first, s.isPlace_first.getElem?_significantFrom]
  rfl

end TokenStream

end LuaFold
