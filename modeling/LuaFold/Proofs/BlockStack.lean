import LuaFold.Block.Search
import LuaFold.Proofs.Places

/-! The search for the end of a block as an iterative machine. Its state is the stack of the
constructs that it is inside, and each token that is not trivia changes the stack on its own. -/

namespace LuaFold

/-- The constructs that a search is inside: the one that it was started in, and those opened since,
the innermost one first. -/
structure BlockStack where
  bottom : Construct
  nested : List Construct
deriving DecidableEq

namespace BlockStack

/-- The innermost construct. -/
def top (st : BlockStack) : Construct :=
  st.nested.headD st.bottom

/-- The stack inside one more construct. -/
def push (st : BlockStack) (construct : Construct) : BlockStack :=
  { st with nested := construct :: st.nested }

/-- The stack outside the innermost construct; `none` outside the bottom one. -/
def pop? (st : BlockStack) : Option BlockStack :=
  match st.nested with
  | [] => none
  | _ :: nested => some { st with nested }

/-- The construct that a token opens inside another one, where a `then` runs through all branches
after it. -/
def nestedConstruct? (kind : TokenKind) : Option Construct :=
  Construct.ofOpener? kind 1

/-- The stack after one more token; `none` when the token ends the bottom construct. A joint is
never an opener, and a closer ends the innermost construct only. -/
def step (st : BlockStack) (kind : TokenKind) : Option BlockStack :=
  if kind ∈ st.top.joints then some st
  else if kind ∈ st.top.closers then st.pop?
  else
    match nestedConstruct? kind with
    | some construct => some (st.push construct)
    | none => some st

/-- Runs the machine from `p`. The token that ends the bottom construct is left to the caller at
level 0 and consumed at the others. Without that token the bottom construct is unterminated. -/
def run (s : TokenStream) (level : Nat) (st : BlockStack) (p : Place) : SearchResult × Place :=
  if h : s.atEnd p then (.error (.unterminated st.bottom.opener), p)
  else
    have hlt : p.index < (s.advance p).index := TokenStream.index_lt_advance (by simpa using h)
    have hsize : p.index < s.tokens.size := TokenStream.index_lt_size (by simpa using h)
    match st.step (s.current p) with
    | some st => run s level st (s.advance p)
    | none => (.ok (), if level = 0 then p else s.advance p)
termination_by s.tokens.size - p.index
decreasing_by omega

variable {s : TokenStream} {level : Nat} {st : BlockStack} {p : Place}

theorem run_of_atEnd (h : s.atEnd p = true) :
    run s level st p = (.error (.unterminated st.bottom.opener), p) := by
  rw [run, dif_pos h]

theorem not_atEnd_of_run_eq_ok {q : Place} (h : run s level st p = (.ok (), q)) :
    s.atEnd p = false := by
  cases hp : s.atEnd p with
  | true =>
    rw [run_of_atEnd hp] at h
    cases h
  | false => rfl

theorem run_of_step_eq_some {st' : BlockStack} (h : s.atEnd p = false)
    (hst : st.step (s.current p) = some st') :
    run s level st p = run s level st' (s.advance p) := by
  rw [run, dif_neg (by simp [h])]
  simp only [hst]

theorem run_of_step_eq_none (h : s.atEnd p = false) (hst : st.step (s.current p) = none) :
    run s level st p = (.ok (), if level = 0 then p else s.advance p) := by
  rw [run, dif_neg (by simp [h])]
  simp only [hst]

theorem run_eq_skip (s : TokenStream) (level : Nat) (st : BlockStack) (p : Place) :
    ∃ n, (run s level st p).2 = s.skip n p := by
  induction p using s.forward_induction generalizing st with
  | step p ih =>
    cases hp : s.atEnd p with
    | true => exact ⟨0, by rw [run_of_atEnd hp, TokenStream.skip_zero]⟩
    | false =>
      cases hstep : st.step (s.current p) with
      | none =>
        rw [run_of_step_eq_none hp hstep]
        by_cases hl : level = 0
        · exact ⟨0, by simp [hl]⟩
        · exact ⟨1, by simp [hl, TokenStream.skip_succ]⟩
      | some st' =>
        obtain ⟨n, hn⟩ := ih hp _ (TokenStream.index_lt_advance hp) st'
        exact ⟨n + 1, by rw [run_of_step_eq_some hp hstep, hn, TokenStream.skip_succ]⟩

/-! ### Steps -/

@[simp] theorem top_push (st : BlockStack) (construct : Construct) :
    (st.push construct).top = construct := rfl

@[simp] theorem bottom_push (st : BlockStack) (construct : Construct) :
    (st.push construct).bottom = st.bottom := rfl

@[simp] theorem pop?_push (st : BlockStack) (construct : Construct) :
    (st.push construct).pop? = some st := rfl

theorem pop?_eq_none : st.pop? = none ↔ st.nested = [] := by
  unfold pop?
  split <;> simp [*]

theorem step_of_mem_joints {kind : TokenKind} (h : kind ∈ st.top.joints) :
    st.step kind = some st := by
  rw [step, if_pos h]

theorem step_of_mem_closers {kind : TokenKind} (hj : kind ∉ st.top.joints)
    (hc : kind ∈ st.top.closers) : st.step kind = st.pop? := by
  rw [step, if_neg hj, if_pos hc]

theorem step_of_opener {kind : TokenKind} {construct : Construct} (hj : kind ∉ st.top.joints)
    (hc : kind ∉ st.top.closers) (ho : nestedConstruct? kind = some construct) :
    st.step kind = some (st.push construct) := by
  simp only [step, if_neg hj, if_neg hc, ho]

theorem step_of_other {kind : TokenKind} (hj : kind ∉ st.top.joints)
    (hc : kind ∉ st.top.closers) (ho : nestedConstruct? kind = none) :
    st.step kind = some st := by
  simp only [step, if_neg hj, if_neg hc, ho]

theorem ofOpener?_succ (kind : TokenKind) (level : Nat) :
    Construct.ofOpener? kind (level + 1) = nestedConstruct? kind := by
  cases kind <;> rfl

/-! ### The search is the machine -/

/-- A search that fails has come to the end of the tokens, and reports the construct that it was
started in. -/
theorem search_eq_error {construct : Construct} {e : SearchError} {q : Place}
    (h : s.search construct level p = (.error e, q)) :
    e = .unterminated construct.opener ∧ s.atEnd q = true := by
  induction p using s.forward_induction with
  | step p ih =>
    rw [TokenStream.search_eq] at h
    cases hp : s.atEnd p with
    | true =>
      rw [if_pos hp] at h
      cases h
      exact ⟨rfl, hp⟩
    | false =>
      have hlt := TokenStream.index_lt_advance hp
      rw [if_neg (by simp [hp])] at h
      split at h
      · exact ih hp _ hlt h
      · split at h
        · cases h
        · split at h
          · exact ih hp _ hlt h
          · rename_i inner _
            have hle := s.index_le_search inner (level + 1) (s.advance p)
            have hpast := s.index_le_pastBlock (s.search inner (level + 1) (s.advance p))
            exact ih hp _ (Nat.lt_of_lt_of_le hlt (Nat.le_trans hle hpast)) h

/-- The machine first does the search inside the innermost construct, at any level that is 0 only if
the search was started there, and goes on with the stack outside of it. -/
theorem run_eq_search (s : TokenStream) (level n : Nat) (st : BlockStack) (p : Place)
    (hn : if st.nested = [] then n = level else n ≠ 0) :
    run s level st p =
      match s.search st.top n p with
      | (.ok (), q) =>
        match st.pop? with
        | some outer => run s level outer q
        | none => (.ok (), q)
      | (.error _, q) => (.error (.unterminated st.bottom.opener), q) := by
  induction p using s.forward_induction generalizing st n with
  | step p ih =>
    rw [TokenStream.search_eq]
    cases hp : s.atEnd p with
    | true => rw [run_of_atEnd hp, if_pos rfl]
    | false =>
      have hlt := TokenStream.index_lt_advance hp
      rw [if_neg Bool.false_ne_true]
      by_cases hj : s.current p ∈ st.top.joints
      · rw [if_pos hj, run_of_step_eq_some hp (step_of_mem_joints hj)]
        exact ih hp _ hlt n st hn
      rw [if_neg hj]
      by_cases hc : s.current p ∈ st.top.closers
      · rw [if_pos hc]
        have hstep := step_of_mem_closers hj hc
        cases hpop : st.pop? with
        | none =>
          rw [pop?_eq_none] at hpop
          rw [if_pos hpop] at hn
          rw [run_of_step_eq_none hp (hstep.trans (pop?_eq_none.mpr hpop)), hn]
        | some outer =>
          have hne : st.nested ≠ [] := fun h => by simp [pop?_eq_none.mpr h] at hpop
          rw [if_neg hne] at hn
          rw [run_of_step_eq_some hp (hstep.trans hpop), if_neg hn]
      rw [if_neg hc, ofOpener?_succ]
      cases ho : nestedConstruct? (s.current p) with
      | none =>
        rw [run_of_step_eq_some hp (step_of_other hj hc ho)]
        exact ih hp _ hlt n st hn
      | some inner =>
        rw [run_of_step_eq_some hp (step_of_opener hj hc ho),
          ih hp _ hlt (n + 1) (st.push inner) (by simp [push]), top_push]
        have hle := s.index_le_search inner (n + 1) (s.advance p)
        rcases hr : s.search inner (n + 1) (s.advance p) with ⟨_ | _, q⟩
        · -- a failed search has come to the end, where the enclosing one fails too
          obtain ⟨-, hq⟩ := search_eq_error hr
          simp only [bottom_push, hr, TokenStream.pastBlock]
          rw [TokenStream.advance_of_atEnd hq, TokenStream.search_eq, if_pos hq]
        · rw [hr] at hle
          simp only [pop?_push, hr, TokenStream.pastBlock]
          exact ih hp q (Nat.lt_of_lt_of_le hlt hle) n st hn

/-- The search inside a construct is the machine with only that construct on the stack. -/
theorem search_eq_run (s : TokenStream) (construct : Construct) (level : Nat) (p : Place) :
    s.search construct level p = run s level ⟨construct, []⟩ p := by
  rw [run_eq_search s level level ⟨construct, []⟩ p rfl]
  rcases hr : s.search construct level p with ⟨e | _, q⟩
  · obtain ⟨rfl, -⟩ := search_eq_error hr
    simp [top, hr]
  · simp [top, pop?, hr]

end BlockStack

namespace Cursor

/-- The search for the end of a construct, on every token stream and from every place, is the
machine started with that construct, after one token if the opener is still under the cursor. The
cursor changes in nothing but its place. A search that fails has come to the end of the tokens, and
reports the construct that it was started in. -/
theorem seekEnd_eq_run (c : Cursor) (level : Nat) (construct : Construct) (advanced : Bool) :
    let start := if advanced then c.place else c.stream.advance c.place
    let (result, place) := BlockStack.run c.stream level ⟨construct, []⟩ start
    c.seekEnd level construct advanced = (result, { c with place }) ∧
      (result = .ok () ∨
        result = .error (.unterminated construct.opener) ∧ c.stream.atEnd place = true) := by
  intro start
  rw [← BlockStack.search_eq_run]
  refine ⟨rfl, ?_⟩
  rcases hr : c.stream.search construct level start with ⟨e | _, place⟩
  · obtain ⟨rfl, hq⟩ := BlockStack.search_eq_error hr
    exact Or.inr ⟨congrArg Prod.fst hr, (congrArg (c.stream.atEnd ·.2) hr).trans hq⟩
  · exact Or.inl (congrArg Prod.fst hr)

end Cursor

end LuaFold
