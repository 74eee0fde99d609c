import LuaFold.Proofs.FoldOutcome
import LuaFold.Proofs.Terminator

/-! Blocks do not cross. A search for the end of a block that goes over the opener of another one goes
over the end of that one too, and the search from that opener on its own finds the same end. This holds
of any tokens, also of those that a grammar would refuse. -/

namespace LuaFold

open TokenKind

namespace TokenStream

variable {s : TokenStream} {p q : Place}

theorem advance_congr (h : p.index = q.index) (hp : s.atEnd p = false) :
    s.advance p = s.advance q := by
  have hq : s.atEnd q = false := by rwa [atEnd, ← h]
  rw [advance_of_not_atEnd hp, advance_of_not_atEnd hq, h]

/-- A token that is not trivia is not passed over by one step from before it. -/
theorem index_advance_le (hlt : p.index < q.index) {t : Token}
    (ht : s.tokens[q.index]? = some t) (htrivia : t.isTrivia = false) :
    (s.advance p).index ≤ q.index := by
  refine Nat.not_lt.mp fun hpast => ?_
  rw [advance_of_not_atEnd (not_atEnd_of_index_le (Nat.le_of_lt hlt) ht)] at hpast
  obtain ⟨t', ht', htrivia'⟩ := isTrivia_of_lt_skipTrivia hlt hpast
  obtain rfl : t' = t := Option.some.inj (ht'.symm.trans ht)
  rw [htrivia] at htrivia'
  cases htrivia'

end TokenStream

namespace BlockStack

variable {s : TokenStream} {level : Nat} {st : BlockStack} {p q o : Place} {inner : Construct}

/-- The level has a part in a run only at the token that ends the bottom construct. -/
theorem run_succ_eq_ok (h : run s (level + 1) st p = (.ok (), q)) :
    ∃ r, run s 0 st p = (.ok (), r) ∧ s.atEnd r = false ∧ q = s.advance r := by
  induction p using s.forward_induction generalizing st with
  | step p ih =>
    have hp := not_atEnd_of_run_eq_ok h
    cases hstep : st.step (s.current p) with
    | none =>
      rw [run_of_step_eq_none hp hstep] at h
      cases h
      exact ⟨p, run_of_step_eq_none hp hstep, hp, rfl⟩
    | some st' =>
      rw [run_of_step_eq_some hp hstep] at h ⊢
      exact ih hp _ (TokenStream.index_lt_advance hp) h

theorem index_le_run (s : TokenStream) (level : Nat) (st : BlockStack) (p : Place) :
    p.index ≤ (run s level st p).2.index := by
  obtain ⟨n, hn⟩ := run_eq_skip s level st p
  rw [hn]
  exact TokenStream.index_le_skip n p

/-- The words that open a construct inside every other one. -/
theorem exists_construct_of_mem {kind : TokenKind} (h : kind ∈ [kwDo, kwRepeat, kwIf, kwFunction]) :
    ∃ construct, Construct.ofOpener? kind 0 = some construct ∧
      ∀ st : BlockStack, st.step kind = some (st.push construct) := by
  simp only [List.mem_cons, List.not_mem_nil, or_false] at h
  rcases h with rfl | rfl | rfl | rfl
  all_goals exact ⟨_, rfl, step_of_opens rfl (by decide) (by decide)⟩

/-- A run that ends with a construct on top of the stack has come to the end of that one before. -/
theorem search_of_run_push (h : run s level (st.push inner) p = (.ok (), q)) :
    ∃ r, s.search inner 0 p = (.ok (), r) ∧ r.index < q.index := by
  rw [run_eq_search s level 1 (st.push inner) p (by simp [push]), top_push] at h
  rcases hsearch : s.search inner 1 p with ⟨_ | _, past⟩
  · simp [hsearch] at h
  · simp only [hsearch, pop?_push] at h
    rw [search_eq_run] at hsearch
    obtain ⟨r, hr, hend, rfl⟩ := run_succ_eq_ok hsearch
    refine ⟨r, by rw [search_eq_run, hr], ?_⟩
    have hrest := index_le_run s level st (s.advance r)
    rw [h] at hrest
    exact Nat.lt_of_lt_of_le (TokenStream.index_lt_advance hend) hrest

/-- A run that ends past the opener of a construct has pushed that construct at its opener. -/
theorem search_of_run (h : run s level st p = (.ok (), q)) (hpo : p.index ≤ o.index)
    (hoq : o.index < q.index) {t : Token} (ht : s.tokens[o.index]? = some t)
    (htrivia : t.isTrivia = false) (hopens : ∀ st : BlockStack, st.step t.kind = some (st.push inner)) :
    ∃ r, s.search inner 0 (s.advance o) = (.ok (), r) ∧ r.index < q.index := by
  induction p using s.forward_induction generalizing st with
  | step p ih =>
    have hp := TokenStream.not_atEnd_of_index_le hpo ht
    rcases Nat.eq_or_lt_of_le hpo with heq | hlt
    · have hcurrent : s.current p = t.kind := TokenStream.current_of_getElem? (heq ▸ ht)
      rw [run_of_step_eq_some hp (hcurrent ▸ hopens st), TokenStream.advance_congr heq hp] at h
      exact search_of_run_push h
    · have hnext := TokenStream.index_advance_le hlt ht htrivia
      cases hstep : st.step (s.current p) with
      | none =>
        rw [run_of_step_eq_none hp hstep] at h
        cases h
        split at hoq <;> omega
      | some st' =>
        rw [run_of_step_eq_some hp hstep] at h
        exact ih hp _ (TokenStream.index_lt_advance hp) h hnext

end BlockStack

namespace TokenStream

variable {s : TokenStream} {p q o : Place} {level : Nat} {kind : TokenKind}

theorem exists_token_of_current_mem (h : s.current o ∈ [kwDo, kwRepeat, kwIf, kwFunction]) :
    ∃ t, s.tokens[o.index]? = some t ∧ t.kind = s.current o ∧ t.isTrivia = false := by
  cases ht : s.tokens[o.index]? with
  | none =>
    have heof : s.current o = eof := by simp [current, kindAt?, ht]
    rw [heof] at h
    exact absurd h (by decide)
  | some t =>
    have hkind := current_of_getElem? ht
    refine ⟨t, rfl, hkind.symm, ?_⟩
    rw [hkind] at h
    simp only [List.mem_cons, List.not_mem_nil, or_false] at h
    rw [Token.isTrivia]
    rcases h with hk | hk | hk | hk <;> rw [hk] <;> rfl

/-- The search from a word that another search passes over ends before that one. -/
theorem seekBlockEnd_of_passed (h : s.seekBlockEnd level kind false p = (.ok (), q))
    (hpo : p.index < o.index) (hoq : o.index < q.index)
    (hword : s.current o ∈ [kwDo, kwRepeat, kwIf, kwFunction]) :
    ∃ r, s.seekBlockEnd 0 (s.current o) false o = (.ok (), r) ∧ o.index < r.index ∧
      r.index < q.index := by
  obtain ⟨t, ht, hkind, htrivia⟩ := exists_token_of_current_mem hword
  obtain ⟨inner, hopens, hsteps⟩ := BlockStack.exists_construct_of_mem hword
  have hend := not_atEnd_of_index_le (Nat.le_refl o.index) ht
  have hrun : ∃ outer, BlockStack.run s level ⟨outer, []⟩ (s.advance p) = (.ok (), q) := by
    rw [seekBlockEnd_eq] at h
    split at h
    · rename_i outer _
      exact ⟨outer, by rwa [← BlockStack.search_eq_run]⟩
    · cases h
  obtain ⟨outer, hrun⟩ := hrun
  obtain ⟨r, hr, hlt⟩ := BlockStack.search_of_run hrun (index_advance_le hpo ht htrivia) hoq ht
    htrivia (hkind ▸ hsteps)
  have hafter := s.index_le_search inner 0 (s.advance o)
  rw [hr] at hafter
  refine ⟨r, ?_, Nat.lt_of_lt_of_le (index_lt_advance hend) hafter, hlt⟩
  simp only [seekBlockEnd_eq, hopens]
  exact hr

theorem seekBlockEnd_eq_error {advanced : Bool} {e : SearchError}
    (hopener : kind ∈ [kwDo, kwRepeat, kwIf, kwThen, kwElse, kwFunction])
    (h : s.seekBlockEnd level kind advanced p = (.error e, q)) : e = .unterminated kind := by
  rw [seekBlockEnd_eq] at h
  split at h
  · rename_i construct hopens
    obtain ⟨rfl, -⟩ := BlockStack.search_eq_error h
    rw [Construct.opener_of_ofOpener? hopens]
  · rename_i hopens
    simp only [List.mem_cons, List.not_mem_nil, or_false] at hopener
    rcases hopener with rfl | rfl | rfl | rfl | rfl | rfl <;> cases hopens

end TokenStream

namespace Cursor

/-- Blocks do not cross. If the search from an opener passes over a `do`, `repeat`, `if` or `function`,
then the search from that word succeeds and stops before the first one does. So where that word has no
end, a search from an opener before it has none either, unless it is over before the word. -/
theorem seekBlockEnd_nested {c₁ c₂ : Cursor} (hstream : c₂.stream = c₁.stream)
    (hopener : c₁.current ∈ [kwDo, kwRepeat, kwIf, kwThen, kwElse, kwFunction])
    (hword : c₂.current ∈ [kwDo, kwRepeat, kwIf, kwFunction])
    (hlt : c₁.place.index < c₂.place.index) (level : Nat) :
    let outer := c₁.seekBlockEnd level c₁.current false
    let inner := c₂.seekBlockEnd 0 c₂.current false
    (outer.1 = .ok () → c₂.place.index < outer.2.place.index →
      inner.1 = .ok () ∧ c₂.place.index < inner.2.place.index ∧
        inner.2.place.index < outer.2.place.index) ∧
    (inner.1 = .error (.unterminated c₂.current) →
      outer.1 = .error (.unterminated c₁.current) ∨ outer.2.place.index ≤ c₂.place.index) := by
  intro outer inner
  have hpassed : outer.1 = .ok () → c₂.place.index < outer.2.place.index →
      inner.1 = .ok () ∧ c₂.place.index < inner.2.place.index ∧
        inner.2.place.index < outer.2.place.index := by
    intro hok hover
    have houter : c₂.stream.seekBlockEnd level c₁.current false c₁.place =
        (.ok (), outer.2.place) := by
      rw [hstream]
      exact Prod.ext hok rfl
    obtain ⟨r, hr, hafter, hbefore⟩ :=
      TokenStream.seekBlockEnd_of_passed houter hlt hover hword
    have hresult : inner.1 = .ok () := congrArg Prod.fst hr
    have hplace : inner.2.place = r := congrArg Prod.snd hr
    rw [hplace]
    exact ⟨hresult, hafter, hbefore⟩
  refine ⟨hpassed, fun hinner => ?_⟩
  cases houter : outer.1 with
  | error e =>
    have hsearch : c₁.stream.seekBlockEnd level c₁.current false c₁.place =
        (.error e, outer.2.place) := Prod.ext houter rfl
    rw [TokenStream.seekBlockEnd_eq_error hopener hsearch]
    exact Or.inl rfl
  | ok _ =>
    refine Or.inr (Nat.not_lt.mp fun hover => ?_)
    obtain ⟨hok, -⟩ := hpassed houter hover
    rw [hok] at hinner
    cases hinner

/-- Words that are paired wrongly: the first `until` is in the block of the `else`, and the second one
ends the loop. Without that one the loop has no end, and neither has the branch around it. -/
theorem seekBlockEnd_nested_repeat :
    let before := [kwThen, name, kwRepeat, whitespace, kwElse, kwUntil, kwEnd]
    let c₁ := ofStream ⟨"", ((before ++ [kwUntil, kwElseIf]).map (⟨·, 0, 0⟩)).toArray⟩
    let c₂ := c₁.advance.advance
    let d₁ := ofStream ⟨"", ((before ++ [kwElseIf]).map (⟨·, 0, 0⟩)).toArray⟩
    let d₂ := d₁.advance.advance
    (c₁.current = kwThen ∧ c₂.current = kwRepeat ∧ c₁.place.index < c₂.place.index ∧
      (c₁.seekBlockEnd 0 c₁.current false).1 = .ok () ∧
      (c₁.seekBlockEnd 0 c₁.current false).2.place.index = 8 ∧
      (c₂.seekBlockEnd 0 c₂.current false).1 = .ok () ∧
      (c₂.seekBlockEnd 0 c₂.current false).2.place.index < 8) ∧
    d₁.current = kwThen ∧ d₂.current = kwRepeat ∧ d₁.place.index < d₂.place.index ∧
      (d₂.seekBlockEnd 0 d₂.current false).1 = .error (.unterminated d₂.current) ∧
      ((d₁.seekBlockEnd 0 d₁.current false).1 = .error (.unterminated d₁.current) ∨
        (d₁.seekBlockEnd 0 d₁.current false).2.place.index ≤ d₂.place.index) := by
  intro before c₁ c₂ d₁ d₂
  have hc₁ : c₁.current = kwThen := by decide +kernel
  have hc₂ : c₂.current = kwRepeat := by decide +kernel
  have hd₁ : d₁.current = kwThen := by decide +kernel
  have hd₂ : d₂.current = kwRepeat := by decide +kernel
  have hc : c₁.place.index < c₂.place.index := by decide +kernel
  have hd : d₁.place.index < d₂.place.index := by decide +kernel
  have hend : (c₁.seekBlockEnd 0 c₁.current false).1 = .ok () := by decide +kernel
  have hstop : (c₁.seekBlockEnd 0 c₁.current false).2.place.index = 8 := by decide +kernel
  have hopen : (d₂.seekBlockEnd 0 d₂.current false).1 = .error (.unterminated d₂.current) := by
    decide +kernel
  have hsame : c₂.stream = c₁.stream := rfl
  obtain ⟨hpassed, -⟩ :=
    seekBlockEnd_nested hsame (by rw [hc₁]; decide) (by rw [hc₂]; decide) hc 0
  obtain ⟨hinner, -, hbefore⟩ := hpassed hend (by decide +kernel)
  rw [hstop] at hbefore
  have hsame' : d₂.stream = d₁.stream := rfl
  obtain ⟨-, hspread⟩ :=
    seekBlockEnd_nested hsame' (by rw [hd₁]; decide) (by rw [hd₂]; decide) hd 0
  exact ⟨⟨hc₁, hc₂, hc, hend, hstop, hinner, hbefore⟩, hd₁, hd₂, hd, hopen, hspread hopen⟩

end Cursor

end LuaFold
