import LuaFold.Proofs.FoldedBody

/-! How the fold of a body can end: on the token that ends the body, at the end of the tokens, or where
it began if there is no body to fold. -/

namespace LuaFold

namespace TokenStream

variable {s : TokenStream} {p q : Place}

/-- The last token before `index` that is not trivia is `t`, at the index `i`. -/
structure LastBefore (s : TokenStream) (index i : Nat) (t : Token) : Prop where
  lt : i < index
  token : s.tokens[i]? = some t
  significant : t.isTrivia = false
  trivia : ∀ j t', i < j → j < index → s.tokens[j]? = some t' → t'.isTrivia = true

/-- How the search from `p` for the end of the body that `opener` opens can end at `q`. -/
inductive FoldOutcome (s : TokenStream) (opener : TokenKind) (p q : Place) : SearchResult → Prop
  | matched {construct : Construct} {t : Token}
    (opens : Construct.ofOpener? opener 0 = some construct) (current : s.tokens[q.index]? = some t)
    (closes : t.kind ∈ construct.closers) : FoldOutcome s opener p q (.ok ())
  | unterminated {construct : Construct} (opens : Construct.ofOpener? opener 0 = some construct)
    (index : q.index = s.tokens.size) (offset : s.offsetAt q.index = s.text.utf8ByteSize) :
    FoldOutcome s opener p q (.error (.unterminated opener))
  | refused (opens : Construct.ofOpener? opener 0 = none) (place : q = p) :
    FoldOutcome s opener p q (.error (.unknownOpener opener))

theorem Tiled.span_foldedBlock (h : s.Tiled) {i stop : Nat} {t : Token}
    (ht : s.tokens[i]? = some t) (hstop : i + 1 ≤ stop) :
    (s.foldedBlock (i + 1) stop).span.start = t.span.stop ∧
      (s.foldedBlock (i + 1) stop).span.stop = s.offsetAt stop := by
  exact ⟨h.offsetAt_succ ht, Span.stop_ofOffsets (h.offsetAt_mono hstop)⟩

theorem IsPlace.isTrivia_of_lt (h : s.IsPlace p) {j : Nat} {t : Token} (hj : p.consumed ≤ j)
    (hlt : j < p.index) (ht : s.tokens[j]? = some t) : t.isTrivia = true := by
  rw [h.index_eq] at hlt
  obtain ⟨t', ht', htrivia⟩ := isTrivia_of_lt_skipTrivia hj hlt
  obtain rfl : t' = t := Option.some.inj (ht'.symm.trans ht)
  exact htrivia

theorem IsPlace.lastBefore (h : s.IsPlace p) {i : Nat} (hi : p.consumed = i + 1) :
    ∃ t, s.LastBefore p.index i t := by
  obtain ⟨t, ht, hsignificant⟩ := h.consumed i hi
  have hle := h.consumed_le_index
  refine ⟨t, by omega, ht, hsignificant, ?_⟩
  intro j t' hij hj ht'
  exact h.isTrivia_of_lt (by omega) hj ht'

end TokenStream

/-! ### The search -/

theorem Construct.opener_of_ofOpener? {opener : TokenKind} {level : Nat} {construct : Construct}
    (h : ofOpener? opener level = some construct) : construct.opener = opener := by
  unfold ofOpener? at h
  split at h <;> cases h
  case h_4 => split <;> rfl
  all_goals rfl

namespace BlockStack

variable {s : TokenStream} {st : BlockStack} {p q : Place}

theorem step_eq_none {kind : TokenKind} (h : st.step kind = none) :
    kind ∈ st.bottom.closers := by
  unfold step at h
  split at h
  · cases h
  split at h
  · rename_i hc
    have hnested := pop?_eq_none.mp h
    rwa [top, hnested] at hc
  · split at h <;> cases h

theorem bottom_of_step_eq_some {st' : BlockStack} {kind : TokenKind} (h : st.step kind = some st') :
    st'.bottom = st.bottom := by
  unfold step at h
  split at h
  · cases h
    rfl
  split at h
  · unfold pop? at h
    split at h <;> cases h
    rfl
  · split at h <;> cases h <;> rfl

/-- At level 0 the machine stops on a token that ends the bottom construct. -/
theorem run_eq_ok (h : run s 0 st p = (.ok (), q)) :
    s.atEnd q = false ∧ s.current q ∈ st.bottom.closers := by
  induction p using s.forward_induction generalizing st with
  | step p ih =>
    have hp := not_atEnd_of_run_eq_ok h
    cases hstep : st.step (s.current p) with
    | none =>
      rw [run_of_step_eq_none hp hstep] at h
      cases h
      exact ⟨hp, step_eq_none hstep⟩
    | some st' =>
      rw [run_of_step_eq_some hp hstep] at h
      rw [← bottom_of_step_eq_some hstep]
      exact ih hp _ (TokenStream.index_lt_advance hp) h

end BlockStack

theorem TokenStream.IsPlace.foldOutcome {s : TokenStream} {p : Place} (h : s.IsPlace p)
    (opener : TokenKind) :
    s.FoldOutcome opener p (s.seekBlockEnd 0 opener true p).2 (s.seekBlockEnd 0 opener true p).1 := by
  obtain ⟨n, hn⟩ := s.seekBlockEnd_eq_skip 0 opener true p
  have hplace := hn ▸ h.skip n
  rw [seekBlockEnd_eq] at hplace ⊢
  cases hopens : Construct.ofOpener? opener 0 with
  | none => exact .refused hopens rfl
  | some construct =>
    rw [hopens] at hplace
    simp only [seekEnd_eq, if_pos] at hplace ⊢
    rcases hsearch : s.search construct 0 p with ⟨e | _, q⟩
    · obtain ⟨rfl, hend⟩ := BlockStack.search_eq_error hsearch
      rw [hsearch] at hplace
      have hsize : s.tokens.size ≤ q.index := by simpa [atEnd] using hend
      rw [Construct.opener_of_ofOpener? hopens]
      exact .unterminated hopens (Nat.le_antisymm hplace.index_le_size hsize)
        (offsetAt_of_size_le hsize)
    · rw [BlockStack.search_eq_run] at hsearch
      obtain ⟨hend, hcloses⟩ := BlockStack.run_eq_ok hsearch
      have ht := Array.getElem?_eq_getElem (index_lt_size hend)
      rw [current_of_getElem? ht] at hcloses
      exact .matched hopens ht hcloses

end LuaFold
