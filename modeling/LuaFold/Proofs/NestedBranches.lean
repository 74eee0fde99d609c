import LuaFold.Outline
import LuaFold.Proofs.NestedBlocks
import LuaFold.Proofs.Refusals

/-! The search for the end of a `then` below the outermost level. It passes over `else` and
`elseif`, but the `then` of an `elseif` opens the same construct once more. So the search ends at
the `end` of the conditional if no branch starts with an `elseif`, and needs one more `end` for each
that does. -/

namespace LuaFold

open TokenKind

/-- The number of the branches that start with an `elseif`. -/
def Branches.elseIfs : Branches → Nat
  | .none | .otherwise _ => 0
  | .elseIf _ _ more => more.elseIfs + 1

namespace BlockStack

variable {s : TokenStream} {level : Nat} {st : BlockStack} {p : Place}

/-! ### A stack of branches -/

/-- The stack inside `n` more blocks of a `then` with all branches after it. -/
def deepen (st : BlockStack) (n : Nat) : BlockStack :=
  { st with nested := List.replicate n .branches ++ st.nested }

theorem deepen_zero (st : BlockStack) : st.deepen 0 = st := rfl

theorem deepen_succ (st : BlockStack) (n : Nat) :
    st.deepen (n + 1) = (st.deepen n).push .branches :=
  rfl

theorem deepen_push (st : BlockStack) (n : Nat) :
    (st.push .branches).deepen n = st.deepen (n + 1) := by
  simp [deepen, push, List.replicate_succ']

theorem step_of_top_branches {kind : TokenKind} (h : st.top = .branches)
    (hk : kind = kwElse ∨ kind = kwElseIf) : st.step kind = some st :=
  step_of_mem_joints (by rw [h]; simpa [Construct.joints] using hk)

theorem step_then_of_top_branches (h : st.top = .branches) :
    st.step kwThen = some (st.push .branches) :=
  step_of_opener (by rw [h]; decide) (by rw [h]; decide) rfl

theorem step_end_of_top_branches (h : st.top = .branches) : st.step kwEnd = st.pop? :=
  step_of_mem_closers (by rw [h]; decide) (by rw [h]; decide)

/-- Each `elseif` branch leaves one more construct open. -/
theorem steps_nested_branches {st : BlockStack} :
    (more : Branches) → st.top = .branches → st.steps more.kinds = some (st.deepen more.elseIfs)
  | .none, _ => rfl
  | .otherwise body, h => by
    rw [Branches.kinds, steps_cons, step_of_top_branches h (Or.inl rfl), Option.bind_some]
    exact steps_body st body
  | .elseIf condition body more, h => by
    have hkinds : (Branches.elseIf condition body more).kinds =
        kwElseIf :: (condition.kinds ++ kwThen :: (body.kinds ++ more.kinds)) := by
      simp [Branches.kinds]
    have hmore := steps_nested_branches more (top_push st .branches)
    rw [hkinds, steps_cons, step_of_top_branches h (Or.inr rfl), Option.bind_some, steps_append,
      steps_body, Option.bind_some, steps_cons, step_then_of_top_branches h, Option.bind_some,
      steps_append, steps_body, Option.bind_some, hmore, deepen_push, Branches.elseIfs]

/-- The kinds of bodies with an `end` before each. -/
def endsBefore (bodies : List Body) : List TokenKind :=
  bodies.flatMap fun body => kwEnd :: body.kinds

/-- The kinds of bodies with an `end` after each. -/
def endsAfter (bodies : List Body) : List TokenKind :=
  bodies.flatMap fun body => body.kinds ++ [kwEnd]

theorem cons_endsAfter (bodies : List Body) (rest : List TokenKind) :
    kwEnd :: (endsAfter bodies ++ rest) = endsBefore bodies ++ kwEnd :: rest := by
  rw [endsAfter, endsBefore]
  induction bodies with
  | nil => rfl
  | cons body bodies ih => simp [ih]

theorem length_endsAfter (bodies : List Body) :
    (endsAfter bodies).length = (endsBefore bodies).length := by
  simpa using congrArg List.length (cons_endsAfter bodies [])

/-- Each `end` closes one of them. -/
theorem steps_endsBefore (st : BlockStack) (n : Nat) (bodies : List Body) :
    (st.deepen (n + bodies.length)).steps (endsBefore bodies) = some (st.deepen n) := by
  induction bodies with
  | nil => rfl
  | cons body bodies ih =>
    have hend : (st.deepen (n + bodies.length + 1)).step kwEnd =
        some (st.deepen (n + bodies.length)) := by
      rw [deepen_succ, step_end_of_top_branches (top_push ..), pop?_push]
    rw [endsBefore] at ih ⊢
    rw [List.length_cons, ← Nat.add_assoc, List.flatMap_cons, List.cons_append, steps_cons, hend,
      Option.bind_some, steps_append, steps_body, Option.bind_some, ih]

/-- The stack after a `then` with all branches after it, and some of the `end`s that it needs. -/
theorem steps_chain (body : Body) {more : Branches} {bodies : List Body} {n : Nat}
    (h : more.elseIfs = n + bodies.length) :
    steps ⟨.branches, []⟩ (body.kinds ++ more.kinds ++ endsBefore bodies) =
      some (deepen ⟨.branches, []⟩ n) := by
  rw [steps_append, steps_append, steps_body, Option.bind_some, steps_nested_branches more rfl,
    Option.bind_some, h, steps_endsBefore]

end BlockStack

/-! ### The search -/

namespace TokenStream

open BlockStack

variable {s : TokenStream} {level n : Nat} {p : Place} {body : Body} {more : Branches}
  {bodies : List Body} {rest : List TokenKind}

/-- The search ends past as many balanced bodies, each with an `end`, as there are `elseif`
branches. -/
theorem search_branches_eq_ok (hlevel : level ≠ 0) (hbodies : bodies.length = more.elseIfs)
    (hahead : s.ahead p = body.kinds ++ more.kinds ++ kwEnd :: (endsAfter bodies ++ rest)) :
    s.search .branches level p =
      (.ok (), s.skip (endsAfter bodies).length
        (s.skip ((body.kinds ++ more.kinds).length + 1) p)) := by
  rw [cons_endsAfter, ← List.append_assoc] at hahead
  have hsteps := steps_chain body (show more.elseIfs = 0 + bodies.length by omega)
  obtain ⟨hend, hkind, -⟩ := ahead_eq_cons.mp (ahead_skip_length hahead)
  have hstop : step ⟨.branches, []⟩ kwEnd = none := by decide
  have hlength : (body.kinds ++ more.kinds ++ endsBefore bodies).length + 1 =
      (body.kinds ++ more.kinds).length + 1 + (endsAfter bodies).length := by
    rw [length_endsAfter, List.length_append]
    omega
  rw [search_eq_run, run_of_steps hahead hsteps, deepen_zero,
    run_of_step_eq_none hend (hkind ▸ hstop), if_neg hlevel, advance_skip, hlength, skip_add]

theorem search_branches_eq_error {last : Body} (hbodies : bodies.length < more.elseIfs)
    (hahead : s.ahead p = body.kinds ++ more.kinds ++ kwEnd :: (endsAfter bodies ++ last.kinds)) :
    (s.search .branches level p).1 = .error (.unterminated kwThen) := by
  -- the body at the end has an `end` before it as well
  have hlast : endsBefore bodies ++ kwEnd :: last.kinds = endsBefore (bodies ++ [last]) := by
    simp [endsBefore]
  have hlength : (bodies ++ [last]).length ≤ more.elseIfs := by
    rw [List.length_append, List.length_singleton]
    exact hbodies
  obtain ⟨n, hn⟩ := Nat.exists_eq_add_of_le' hlength
  have hnone := List.append_nil (body.kinds ++ more.kinds ++ endsBefore (bodies ++ [last]))
  rw [cons_endsAfter, hlast, ← hnone] at hahead
  rw [search_eq_run, run_of_steps hahead (steps_chain body hn),
    run_of_atEnd (ahead_eq_nil.mp (ahead_skip_length hahead))]
  rfl

/-- With an `elseif`, the search goes on after the first `end`. -/
theorem search_branches_ne (hlevel : level ≠ 0) (hmore : more.elseIfs = n + 1)
    (hahead : s.ahead p = body.kinds ++ more.kinds ++ kwEnd :: rest) :
    s.search .branches level p ≠ (.ok (), s.skip ((body.kinds ++ more.kinds).length + 1) p) := by
  have hkinds : body.kinds ++ more.kinds ++ kwEnd :: rest =
      body.kinds ++ more.kinds ++ endsBefore [.empty] ++ rest := by
    simp [endsBefore, Body.kinds]
  have hlength : (body.kinds ++ more.kinds ++ endsBefore [.empty]).length =
      (body.kinds ++ more.kinds).length + 1 := by
    rw [List.length_append]
    rfl
  obtain ⟨k, rfl⟩ := Nat.exists_eq_succ_of_ne_zero hlevel
  rw [search_eq_run, run_of_steps (hahead.trans hkinds) (steps_chain body hmore), hlength]
  intro hok
  obtain ⟨q, hrun, hend, hq⟩ := run_succ_eq_ok hok
  have hle := index_le_run s 0 (deepen ⟨.branches, []⟩ n)
    (s.skip ((body.kinds ++ more.kinds).length + 1) p)
  rw [hrun] at hle
  have hlt := index_lt_advance hend
  rw [← hq] at hlt
  exact Nat.lt_irrefl _ (Nat.lt_of_le_of_lt hle hlt)

theorem seekBlockEnd_then (hlevel : level ≠ 0) (s : TokenStream) (p : Place) :
    s.seekBlockEnd level kwThen false p = s.search .branches level (s.advance p) := by
  simp [seekBlockEnd_eq, Construct.ofOpener?, hlevel, seekEnd_eq]

end TokenStream

open TokenStream BlockStack

/-- The search from a `then` below the outermost level, with all branches up to the `end` of the
conditional and any tokens after it. It stops just past that `end` if no branch starts with an
`elseif`, and only then. Each such branch needs an `end` of its own, after the first one and any
balanced body, and without one the search comes to the end of the tokens. With checks, it is not
refused at a level that leaves room for one more level with each token. -/
theorem Cursor.seekBlockEnd_nested_then (c : Cursor) {level : Nat} (hlevel : 0 < level)
    {body : Body} {more : Branches} {rest : List TokenKind}
    (hahead : c.stream.ahead c.place = kwThen :: (body.kinds ++ more.kinds) ++ kwEnd :: rest) :
    let after := c.stream.skip ((body.kinds ++ more.kinds).length + 2) c.place
    c.stream.ahead after = rest ∧
      (c.seekBlockEnd level kwThen false = (.ok (), { c with place := after }) ↔
        more.elseIfs = 0) ∧
      (∀ (bodies : List Body) (beyond : List TokenKind), bodies.length = more.elseIfs →
        rest = endsAfter bodies ++ beyond →
        let last := c.stream.skip (endsAfter bodies).length after
        c.seekBlockEnd level kwThen false = (.ok (), { c with place := last }) ∧
          c.stream.ahead last = beyond) ∧
      (∀ (bodies : List Body) (last : Body), bodies.length < more.elseIfs →
        rest = endsAfter bodies ++ last.kinds →
        (c.seekBlockEnd level kwThen false).1 = .error (.unterminated kwThen)) ∧
      (level + c.stream.remaining c.place ≤ lastLevel →
        c.seekBlockEndWith .on level kwThen false = .ok (c.seekBlockEnd level kwThen false)) := by
  intro after
  have hlevel' : level ≠ 0 := Nat.ne_of_gt hlevel
  let start := c.stream.advance c.place
  have hstart : c.stream.ahead start = body.kinds ++ more.kinds ++ kwEnd :: rest :=
    (ahead_eq_cons.mp hahead).2.2
  have hafter : after = c.stream.skip ((body.kinds ++ more.kinds).length + 1) start := rfl
  have hrest : c.stream.ahead after = rest := by
    rw [hafter, skip_add, skip_succ, skip_zero]
    exact (ahead_eq_cons.mp (ahead_skip_length hstart)).2.2
  have hseek : c.seekBlockEnd level kwThen false =
      ((c.stream.search .branches level start).1,
        { c with place := (c.stream.search .branches level start).2 }) := by
    rw [Cursor.seekBlockEnd_eq, seekBlockEnd_then hlevel']
  refine ⟨hrest, ⟨fun hok => ?_, fun hmore => ?_⟩, ?_, ?_, seekBlockEndWith_on_of_remaining⟩
  · rw [hseek] at hok
    obtain ⟨hresult, hcursor⟩ := Prod.ext_iff.mp hok
    have hsearch : c.stream.search .branches level start = (.ok (), after) :=
      Prod.ext hresult (congrArg Cursor.place hcursor)
    cases hmore : more.elseIfs with
    | zero => rfl
    | succ n => exact absurd hsearch (search_branches_ne hlevel' hmore hstart)
  · have hnone : ([] : List Body).length = more.elseIfs := hmore.symm
    rw [hseek, search_branches_eq_ok hlevel' hnone hstart]
    rfl
  · rintro bodies beyond hbodies rfl
    refine ⟨?_, ahead_skip_length hrest⟩
    rw [hseek, search_branches_eq_ok hlevel' hbodies hstart]
    rfl
  · rintro bodies last hbodies rfl
    rw [hseek]
    exact search_branches_eq_error hbodies hstart

/-- A function in the condition of the one `elseif`, and a second `end` that the search needs. -/
theorem Cursor.seekBlockEnd_nested_then_elseif :
    let c := Cursor.ofText .lua55 "then a elseif function() end then c end --\n d end e end"
    let body : Body := .plain ⟨name, rfl⟩ .empty
    let parameters : Body := .plain ⟨leftParen, rfl⟩ (.plain ⟨rightParen, rfl⟩ .empty)
    let condition : Body := .function parameters .empty
    let more : Branches := .elseIf condition body .none
    let rest := [name, kwEnd, name, kwEnd]
    c.stream.ahead c.place = kwThen :: (body.kinds ++ more.kinds) ++ kwEnd :: rest ∧
      more.elseIfs = 1 ∧
      c.stream.remaining c.place ≤ 100 ∧
      ∃ d, c.seekBlockEndWith .on 3 kwThen false = .ok (.ok (), d) ∧
        d.stream.ahead d.place = [name, kwEnd] := by
  intro c body parameters condition more rest
  have hahead : c.stream.ahead c.place = kwThen :: (body.kinds ++ more.kinds) ++ kwEnd :: rest :=
    c.stream.ahead_first.trans (by decide +kernel)
  have hroom : c.stream.remaining c.place ≤ 100 := by decide +kernel
  obtain ⟨-, -, hended, -, hchecked⟩ := c.seekBlockEnd_nested_then (show 0 < 3 by decide) hahead
  obtain ⟨hok, hbeyond⟩ := hended [body] [name, kwEnd] rfl rfl
  have hlevel : 3 + c.stream.remaining c.place ≤ lastLevel :=
    Nat.le_trans (Nat.add_le_add_left hroom 3) (by decide)
  exact ⟨hahead, rfl, hroom, _, (hchecked hlevel).trans (congrArg Except.ok hok), hbeyond⟩

/-- With an `elseif`, the search does not find the `end` of the conditional. -/
theorem Cursor.seekBlockEnd_then_elseif_unterminated :
    let c := Cursor.ofText .lua55 "then a elseif b then c end e"
    let body : Body := .plain ⟨name, rfl⟩ .empty
    let more : Branches := .elseIf body body .none
    c.stream.ahead c.place = kwThen :: (body.kinds ++ more.kinds) ++ kwEnd :: [name] ∧
      (c.seekBlockEnd 1 kwThen false).1 = .error (.unterminated kwThen) := by
  intro c body more
  exact ⟨c.stream.ahead_first.trans (by decide +kernel), by decide +kernel⟩

end LuaFold
