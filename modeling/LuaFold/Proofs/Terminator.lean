import LuaFold.Proofs.Balanced
import LuaFold.Proofs.BlockStack
import LuaFold.Proofs.KindSets

/-! The search for the end of a block finds the token that ends it in the grammar. A balanced body
leaves the stack of open constructs as it is, whatever is on it. -/

namespace LuaFold

open TokenKind

namespace Construct

/-! ### Joints and closers -/

theorem mem_joints {construct : Construct} {kind : TokenKind} (h : kind ∈ construct.joints) :
    kind = kwThen ∨ kind = kwElse ∨ kind = kwElseIf := by
  cases construct with
  | conditional => simpa [joints] using h
  | branches => exact Or.inr (by simpa [joints] using h)
  | _ => simp [joints] at h

theorem mem_closers {construct : Construct} {kind : TokenKind} (h : kind ∈ construct.closers) :
    kind = kwElse ∨ kind = kwElseIf ∨ kind = kwEnd ∨ kind = kwUntil := by
  cases construct with
  | repeatLoop => exact Or.inr (Or.inr (Or.inr (by simpa [closers] using h)))
  | branch =>
    rcases (by simpa [closers] using h : kind = kwElse ∨ kind = kwElseIf ∨ kind = kwEnd) with
      rfl | rfl | rfl <;> simp
  | _ => exact Or.inr (Or.inr (Or.inl (by simpa [closers] using h)))

theorem not_mem_joints_of_isPlain {kind : TokenKind} (h : kind.isPlain = true)
    (construct : Construct) : kind ∉ construct.joints := by
  intro hj
  rcases mem_joints hj with rfl | rfl | rfl <;> cases h

theorem not_mem_closers_of_isPlain {kind : TokenKind} (h : kind.isPlain = true)
    (construct : Construct) : kind ∉ construct.closers := by
  intro hc
  rcases mem_closers hc with rfl | rfl | rfl | rfl <;> cases h

end Construct

namespace BlockStack

variable {s : TokenStream} {level : Nat} {st : BlockStack} {p : Place}

theorem nestedConstruct?_of_isPlain {kind : TokenKind} (h : kind.isPlain = true) :
    nestedConstruct? kind = none := by
  cases kind <;> first | rfl | cases h

/-! ### Steps over a list of kinds -/

/-- The stack after the tokens of a list; `none` when one of them ends the bottom construct. -/
def steps (st : BlockStack) (kinds : List TokenKind) : Option BlockStack :=
  kinds.foldlM step st

@[simp] theorem steps_nil (st : BlockStack) : st.steps [] = some st := rfl

theorem steps_cons (st : BlockStack) (kind : TokenKind) (kinds : List TokenKind) :
    st.steps (kind :: kinds) = (st.step kind).bind (·.steps kinds) := rfl

theorem steps_append (st : BlockStack) (ks ks' : List TokenKind) :
    st.steps (ks ++ ks') = (st.steps ks).bind (·.steps ks') :=
  List.foldlM_append ..

theorem run_of_steps {ks rest : List TokenKind} {st' : BlockStack}
    (h : s.ahead p = ks ++ rest) (hst : st.steps ks = some st') :
    run s level st p = run s level st' (s.skip ks.length p) := by
  induction ks generalizing st p with
  | nil =>
    cases hst
    rfl
  | cons k ks ih =>
    obtain ⟨hp, rfl, hrest⟩ := TokenStream.ahead_eq_cons.mp h
    rw [steps_cons, Option.bind_eq_some_iff] at hst
    obtain ⟨mid, hmid, hst⟩ := hst
    rw [run_of_step_eq_some hp hmid]
    exact ih hrest hst

/-! ### Balanced bodies -/

theorem step_of_isPlain {kind : TokenKind} (h : kind.isPlain = true) (st : BlockStack) :
    st.step kind = some st :=
  step_of_other (Construct.not_mem_joints_of_isPlain h _)
    (Construct.not_mem_closers_of_isPlain h _) (nestedConstruct?_of_isPlain h)

/-- A word that opens a construct inside every other one. -/
theorem not_mem_of_opens {kind : TokenKind} {inner : Construct}
    (h : nestedConstruct? kind = some inner) (hthen : kind ≠ kwThen) (helse : kind ≠ kwElse)
    (construct : Construct) : kind ∉ construct.joints ∧ kind ∉ construct.closers := by
  refine ⟨fun hj => ?_, fun hc => ?_⟩
  · rcases Construct.mem_joints hj with rfl | rfl | rfl
    · exact hthen rfl
    · exact helse rfl
    · cases h
  · rcases Construct.mem_closers hc with rfl | rfl | rfl | rfl
    · exact helse rfl
    all_goals cases h

theorem step_of_opens {kind : TokenKind} {construct : Construct}
    (h : nestedConstruct? kind = some construct) (hthen : kind ≠ kwThen) (helse : kind ≠ kwElse)
    (st : BlockStack) : st.step kind = some (st.push construct) :=
  have ⟨hj, hc⟩ := not_mem_of_opens h hthen helse st.top
  step_of_opener hj hc h

/-- A construct that opens inside any other one, holds a balanced inside and ends leaves the stack
as it is. -/
theorem steps_construct {kind closer : TokenKind} {construct : Construct}
    {ks rest : List TokenKind} (st : BlockStack) (ho : nestedConstruct? kind = some construct)
    (hthen : kind ≠ kwThen) (helse : kind ≠ kwElse) (hj : closer ∉ construct.joints)
    (hc : closer ∈ construct.closers)
    (hks : (st.push construct).steps ks = some (st.push construct)) :
    st.steps (kind :: ks ++ closer :: rest) = st.steps rest := by
  have hclose : (st.push construct).step closer = some st := step_of_mem_closers hj hc
  rw [List.cons_append, steps_cons, step_of_opens ho hthen helse st, Option.bind_some,
    steps_append, hks, Option.bind_some, steps_cons, hclose, Option.bind_some]

theorem step_of_top_conditional {kind : TokenKind} (h : st.top = .conditional)
    (hk : kind = kwThen ∨ kind = kwElse ∨ kind = kwElseIf) : st.step kind = some st :=
  step_of_mem_joints (by rw [h]; simpa [Construct.joints] using hk)

theorem steps_condition {condition body rest : List TokenKind} (h : st.top = .conditional)
    (hcond : st.steps condition = some st) (hbody : st.steps body = some st) :
    st.steps (condition ++ kwThen :: body ++ rest) = st.steps rest := by
  rw [List.append_assoc, List.cons_append, steps_append, hcond, Option.bind_some, steps_cons,
    step_of_top_conditional h (Or.inl rfl), Option.bind_some, steps_append, hbody,
    Option.bind_some]

mutual

/-- A balanced body leaves the stack as it is. -/
theorem steps_body (st : BlockStack) : (body : Body) → st.steps body.kinds = some st
  | .empty => rfl
  | .plain kind rest => by
    rw [Body.kinds, steps_cons, step_of_isPlain kind.2, Option.bind_some]
    exact steps_body st rest
  | .doBlock body rest =>
    calc st.steps (kwDo :: body.kinds ++ kwEnd :: rest.kinds)
      _ = st.steps rest.kinds :=
        steps_construct st rfl (by decide) (by decide) (by decide) (by decide) (steps_body _ body)
      _ = some st := steps_body st rest
  | .repeatLoop body rest =>
    calc st.steps (kwRepeat :: body.kinds ++ kwUntil :: rest.kinds)
      _ = st.steps rest.kinds :=
        steps_construct st rfl (by decide) (by decide) (by decide) (by decide) (steps_body _ body)
      _ = some st := steps_body st rest
  | .function body rest =>
    calc st.steps (kwFunction :: body.kinds ++ kwEnd :: rest.kinds)
      _ = st.steps rest.kinds :=
        steps_construct st rfl (by decide) (by decide) (by decide) (by decide) (steps_body _ body)
      _ = some st := steps_body st rest
  | .conditional condition body more rest =>
    calc
      st.steps (kwIf :: (condition.kinds ++ kwThen :: body.kinds ++ more.kinds) ++
          kwEnd :: rest.kinds)
      _ = st.steps rest.kinds :=
        steps_construct st rfl (by decide) (by decide) (by decide) (by decide)
          ((steps_condition rfl (steps_body _ condition) (steps_body _ body)).trans
            (steps_branches rfl more))
      _ = some st := steps_body st rest

/-- The further branches of a conditional leave the stack inside it as it is. -/
theorem steps_branches {st : BlockStack} (h : st.top = .conditional) :
    (more : Branches) → st.steps more.kinds = some st
  | .none => rfl
  | .otherwise body => by
    rw [Branches.kinds, steps_cons, step_of_top_conditional h (Or.inr (Or.inl rfl)),
      Option.bind_some]
    exact steps_body st body
  | .elseIf condition body more =>
    calc st.steps (kwElseIf :: (condition.kinds ++ kwThen :: body.kinds ++ more.kinds))
      _ = st.steps (condition.kinds ++ kwThen :: body.kinds ++ more.kinds) := by
        rw [steps_cons, step_of_top_conditional h (Or.inr (Or.inr rfl)), Option.bind_some]
      _ = st.steps more.kinds :=
        steps_condition h (steps_body _ condition) (steps_body _ body)
      _ = some st := steps_branches h more

end

end BlockStack

/-! ### The end of a block -/

/-- What is between the opener of a construct and the token that ends it: tokens of the kinds `ks`, and
then one of the kind `closer`. -/
inductive Interior : Construct → List TokenKind → TokenKind → Type
  | doBlock (body : Body) : Interior .doBlock body.kinds kwEnd
  | repeatLoop (body : Body) : Interior .repeatLoop body.kinds kwUntil
  | function (body : Body) : Interior .function body.kinds kwEnd
  | elseBranch (body : Body) : Interior .elseBranch body.kinds kwEnd
  | branch (body : Body) {closer : TokenKind} (h : closer ∈ [kwElseIf, kwElse, kwEnd]) :
    Interior .branch body.kinds closer
  | conditional (condition body : Body) (more : Branches) :
    Interior .conditional (condition.kinds ++ kwThen :: body.kinds ++ more.kinds) kwEnd

namespace Interior

/-- How many levels a search in the interior goes down. -/
def depth {construct : Construct} {ks : List TokenKind} {closer : TokenKind} :
    Interior construct ks closer → Nat
  | doBlock body | repeatLoop body | function body | elseBranch body | branch body _ => body.depth
  | conditional condition body more => max (max condition.depth body.depth) more.depth

variable {construct : Construct} {ks : List TokenKind} {closer : TokenKind}

theorem steps (h : Interior construct ks closer) :
    BlockStack.steps ⟨construct, []⟩ ks = some ⟨construct, []⟩ := by
  cases h with
  | conditional condition body more =>
    rw [BlockStack.steps_condition rfl (BlockStack.steps_body _ condition)
      (BlockStack.steps_body _ body)]
    exact BlockStack.steps_branches rfl more
  | _ body => exact BlockStack.steps_body _ body

theorem not_mem_joints (h : Interior construct ks closer) : closer ∉ construct.joints := by
  cases h with
  | branch => simp [Construct.joints]
  | _ => decide

theorem mem_closers (h : Interior construct ks closer) : closer ∈ construct.closers := by
  cases h with
  | branch body h =>
    simp only [List.mem_cons, List.not_mem_nil, or_false] at h
    rcases h with rfl | rfl | rfl <;> decide
  | _ => decide

theorem step_closer (h : Interior construct ks closer) :
    BlockStack.step ⟨construct, []⟩ closer = none :=
  BlockStack.step_of_mem_closers h.not_mem_joints h.mem_closers

theorem search (h : Interior construct ks closer) {s : TokenStream} {p : Place}
    {rest : List TokenKind} (hahead : s.ahead p = ks ++ closer :: rest) (level : Nat) :
    s.search construct level p =
      (.ok (), s.skip (if level = 0 then ks.length else ks.length + 1) p) := by
  obtain ⟨hp, hkind, -⟩ := TokenStream.ahead_eq_cons.mp (TokenStream.ahead_skip_length hahead)
  rw [BlockStack.search_eq_run, BlockStack.run_of_steps hahead h.steps,
    BlockStack.run_of_step_eq_none hp (by rw [hkind]; exact h.step_closer),
    TokenStream.advance_skip, ← apply_ite (s.skip · p)]

end Interior

end LuaFold
