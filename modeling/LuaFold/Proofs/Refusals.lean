import LuaFold.Probe
import LuaFold.Proofs.Places

/-! What the checks refuse. A search asks for no level that is deeper than the one it starts at by
more than the number of tokens left, so only levels near the last one are refused. And what is not
refused goes on as it does without checks. -/

namespace LuaFold

/-! ### Levels -/

theorem Checks.on_level_bind {α : Type} (level : Nat) (f : Unit → Except Fault α) :
    (Checks.on.level level >>= f) =
      if level ≤ lastLevel then f () else .error .levelOverflow := by
  show (requireLevel level).bind f = _
  unfold requireLevel
  split <;> rfl

namespace TokenStream

/-- The deepest level that the search asks for. It tries each token that is no joint and no closer as
an opener one level deeper. -/
def deepest (s : TokenStream) (construct : Construct) (level : Nat) (p : Place) : Nat :=
  if h : s.atEnd p then level
  else
    have hlt : p.index < (s.advance p).index := index_lt_advance (by simpa using h)
    have hsize : p.index < s.tokens.size := index_lt_size (by simpa using h)
    if s.current p ∈ construct.joints then s.deepest construct level (s.advance p)
    else if s.current p ∈ construct.closers then level
    else
      match Construct.ofOpener? (s.current p) (level + 1) with
      | none => max (level + 1) (s.deepest construct level (s.advance p))
      | some inner =>
        have hpast : (s.advance p).index ≤
            (s.pastBlock (s.search inner (level + 1) (s.advance p))).index :=
          Nat.le_trans (s.index_le_search ..) (s.index_le_pastBlock _)
        max (s.deepest inner (level + 1) (s.advance p))
          (s.deepest construct level (s.pastBlock (s.search inner (level + 1) (s.advance p))))
termination_by s.tokens.size - p.index
decreasing_by all_goals omega

section Steps

variable {s : TokenStream} {construct inner : Construct} {level : Nat} {p : Place}

theorem deepest_of_joint (hp : s.atEnd p = false) (hj : s.current p ∈ construct.joints) :
    s.deepest construct level p = s.deepest construct level (s.advance p) := by
  rw [deepest, dif_neg (by simp [hp]), if_pos hj]

theorem deepest_of_closer (hp : s.atEnd p = false) (hj : s.current p ∉ construct.joints)
    (hc : s.current p ∈ construct.closers) : s.deepest construct level p = level := by
  rw [deepest, dif_neg (by simp [hp]), if_neg hj, if_pos hc]

theorem deepest_of_other (hp : s.atEnd p = false) (hj : s.current p ∉ construct.joints)
    (hc : s.current p ∉ construct.closers)
    (ho : Construct.ofOpener? (s.current p) (level + 1) = none) :
    s.deepest construct level p = max (level + 1) (s.deepest construct level (s.advance p)) := by
  rw [deepest, dif_neg (by simp [hp]), if_neg hj, if_neg hc, ho]

theorem deepest_of_opener (hp : s.atEnd p = false) (hj : s.current p ∉ construct.joints)
    (hc : s.current p ∉ construct.closers)
    (ho : Construct.ofOpener? (s.current p) (level + 1) = some inner) :
    s.deepest construct level p = max (s.deepest inner (level + 1) (s.advance p))
      (s.deepest construct level (s.pastBlock (s.search inner (level + 1) (s.advance p)))) := by
  rw [deepest, dif_neg (by simp [hp]), if_neg hj, if_neg hc, ho]

end Steps

variable (s : TokenStream) (construct : Construct) (level : Nat) (p : Place) {advanced : Bool}

theorem level_le_deepest : level ≤ s.deepest construct level p := by
  fun_induction deepest s construct level p with
  | case1 | case3 => exact Nat.le_refl _
  | case2 construct level p _ _ _ _ ih => exact ih
  | case4 construct level p _ _ _ _ _ _ ih => exact Nat.le_trans ih (Nat.le_max_right _ _)
  | case5 construct level p _ _ _ _ _ _ _ _ _ ih => exact Nat.le_trans ih (Nat.le_max_right _ _)

theorem remaining_le_of_index_le {p q : Place} (h : p.index ≤ q.index) :
    s.remaining q ≤ s.remaining p :=
  Nat.sub_le_sub_left h _

/-- Each level takes a token that opens it. -/
theorem deepest_le : s.deepest construct level p ≤ level + s.remaining p := by
  fun_induction deepest s construct level p with
  | case1 | case3 => exact Nat.le_add_right _ _
  | case2 construct level p _ _ _ _ ih =>
    have := s.remaining_le_of_index_le (s.index_le_advance p)
    omega
  | case4 construct level p hend _ _ _ _ _ ih =>
    have := remaining_lt_iff.mpr ⟨by simpa using hend, index_lt_advance (by simpa using hend)⟩
    omega
  | case5 construct level p hend _ _ _ _ inner _ hle ihInner ihRest =>
    have hadvance := remaining_lt_iff.mpr ⟨by simpa using hend, index_lt_advance (by simpa using hend)⟩
    have hpast := s.remaining_le_of_index_le hle
    omega

variable {s construct level p}

/-- The search with checks is refused exactly when it asks for a level after the last one. -/
theorem searchWith_on (h : level ≤ lastLevel) :
    s.searchWith .on construct level p =
      if s.deepest construct level p ≤ lastLevel then .ok (s.search construct level p)
      else .error .levelOverflow := by
  fun_induction deepest s construct level p with
  | case1 construct level p hend =>
    rw [searchWith_eq, search_eq, if_pos hend, if_pos hend, if_pos h]
    rfl
  | case2 construct level p hend _ _ hj ih =>
    rw [searchWith_eq, search_eq, if_neg hend, if_neg hend, if_pos hj, if_pos hj, ih h]
  | case3 construct level p hend _ _ hj hc =>
    rw [searchWith_eq, search_eq, if_neg hend, if_neg hend, if_neg hj, if_neg hj, if_pos hc,
      if_pos hc, if_pos h]
    rfl
  | case4 construct level p hend _ _ hj hc ho ih =>
    rw [searchWith_eq, s.search_eq construct level p, if_neg hend, if_neg hend, if_neg hj, if_neg hj,
      if_neg hc, if_neg hc, Checks.on_level_bind, ho, ih h]
    by_cases hnext : level + 1 ≤ lastLevel
    · simp only [Nat.max_le, hnext, true_and, if_true]
    · rw [if_neg hnext, if_neg fun hmax => hnext (Nat.max_le.mp hmax).1]
  | case5 construct level p hend _ _ hj hc inner ho _ ihInner ihRest =>
    rw [searchWith_eq, s.search_eq construct level p, if_neg hend, if_neg hend, if_neg hj, if_neg hj,
      if_neg hc, if_neg hc, Checks.on_level_bind, ho]
    by_cases hnext : level + 1 ≤ lastLevel
    · simp only [hnext, if_true, ihInner hnext]
      by_cases hinner : s.deepest inner (level + 1) (s.advance p) ≤ lastLevel
      · simp only [hinner, Nat.max_le, true_and, if_true, ← ihRest h]
        rfl
      · simp only [hinner, Nat.max_le, false_and, if_false]
        rfl
    · have hdeep := s.level_le_deepest inner (level + 1) (s.advance p)
      have hinner : ¬s.deepest inner (level + 1) (s.advance p) ≤ lastLevel := by omega
      rw [if_neg hnext, if_neg fun hmax => hinner (Nat.max_le.mp hmax).1]

theorem seekEndWith_on (h : level ≤ lastLevel) :
    s.seekEndWith .on level construct advanced p =
      if s.deepest construct level (if advanced then p else s.advance p) ≤ lastLevel then
        .ok (s.seekEnd level construct advanced p)
      else .error .levelOverflow :=
  searchWith_on h

theorem seekEndWith_on_of_remaining (h : level + s.remaining p ≤ lastLevel) :
    s.seekEndWith .on level construct advanced p = .ok (s.seekEnd level construct advanced p) := by
  rw [seekEndWith_on (Nat.le_of_add_right_le h), if_pos]
  refine Nat.le_trans (s.deepest_le construct level _) (Nat.le_trans (Nat.add_le_add_left ?_ level) h)
  split
  · exact Nat.le_refl _
  · exact s.remaining_le_of_index_le (s.index_le_advance p)

theorem seekBlockEndWith_on_of_remaining {opener : TokenKind}
    (h : level + s.remaining p ≤ lastLevel) :
    s.seekBlockEndWith .on level opener advanced p =
      .ok (s.seekBlockEnd level opener advanced p) := by
  rw [seekBlockEndWith, seekBlockEnd_eq]
  split
  · exact seekEndWith_on_of_remaining h
  · rfl

end TokenStream

namespace Cursor

variable {c : Cursor} {level : Nat} {construct : Construct} {advanced : Bool}

theorem seekEndWith_on (h : level ≤ lastLevel) :
    c.seekEndWith .on level construct advanced =
      if c.stream.deepest construct level
          (if advanced then c.place else c.stream.advance c.place) ≤ lastLevel then
        .ok (c.seekEnd level construct advanced)
      else .error .levelOverflow := by
  rw [seekEndWith, TokenStream.seekEndWith_on h]
  by_cases hfits : c.stream.deepest construct level
      (if advanced then c.place else c.stream.advance c.place) ≤ lastLevel
  · rw [if_pos hfits, if_pos hfits]
    rfl
  · rw [if_neg hfits, if_neg hfits]
    rfl

/-- A search at a level that leaves room for one more level with each token is not refused. -/
theorem seekEndWith_on_of_remaining (h : level + c.stream.remaining c.place ≤ lastLevel) :
    c.seekEndWith .on level construct advanced = .ok (c.seekEnd level construct advanced) := by
  rw [seekEndWith, TokenStream.seekEndWith_on_of_remaining h]
  rfl

theorem seekBlockEndWith_on_of_remaining {opener : TokenKind}
    (h : level + c.stream.remaining c.place ≤ lastLevel) :
    c.seekBlockEndWith .on level opener advanced = .ok (c.seekBlockEnd level opener advanced) := by
  rw [seekBlockEndWith, TokenStream.seekBlockEndWith_on_of_remaining h]
  rfl

end Cursor

/-! ### What is not refused -/

/-- With checks, `x` is refused or returns what `y` does without them. -/
def Refines {α : Type} (x : Except Fault α) (y : Id α) : Prop :=
  ∀ a, x = .ok a → y = a

namespace Refines

variable {α β σ : Type} {x : Except Fault α} {y : Id α}

theorem of_ok (a : α) : Refines (pure a) (pure a) := by
  intro b h
  exact Except.ok.inj h

theorem check (x : Except Fault Unit) : Refines x (pure ()) :=
  fun _ _ => rfl

theorem bind {f : α → Except Fault β} {g : α → Id β} (h : Refines x y)
    (hf : Refines (f y) (g y)) : Refines (x >>= f) (y >>= g) := by
  intro b hb
  cases x with
  | error e => cases hb
  | ok a =>
    obtain rfl : y = a := h a rfl
    exact hf b hb

theorem applyTimes {checked : Cursor → σ → Except Fault (Bool × Cursor × σ)}
    {rule : Cursor → σ → Id (Bool × Cursor × σ)}
    (h : ∀ c memory, Refines (checked c memory) (rule c memory)) (times : Nat) (c : Cursor)
    (memory : σ) :
    Refines (Cursor.applyTimes checked times c memory) (Cursor.applyTimes rule times c memory) := by
  induction times generalizing c memory with
  | zero => exact .of_ok _
  | succ times ih =>
    refine (h c memory).bind ?_
    obtain ⟨matched, d, memory'⟩ := rule c memory
    cases matched with
    | false => exact .of_ok _
    | true => exact ih d memory'

theorem probe {checked : Nat → Cursor → σ → Except Fault (Bool × Cursor × σ)}
    {rule : Nat → Cursor → σ → Id (Bool × Cursor × σ)}
    (h : ∀ level c memory, Refines (checked level c memory) (rule level c memory))
    (level times : Nat) (c : Cursor) (memory : σ) :
    Refines (c.probe .on checked level times memory) (c.probe .off rule level times memory) :=
  (applyTimes (h level) times c.mark.2 memory).bind ((check _).bind (.of_ok _))

theorem searchWith (s : TokenStream) (construct : Construct) (level : Nat) (p : Place) :
    Refines (s.searchWith .on construct level p) (s.searchWith .off construct level p) := by
  induction p using s.forward_induction generalizing construct level with
  | step p ih =>
    rw [s.searchWith_eq .on construct level p, s.searchWith_eq .off construct level p]
    cases hp : s.atEnd p with
    | true => exact .of_ok _
    | false =>
      have hlt := TokenStream.index_lt_advance hp
      simp only [Bool.false_eq_true, if_false]
      split
      · exact ih hp _ hlt construct level
      · split
        · exact .of_ok _
        · refine (check _).bind ?_
          split
          · exact ih hp _ hlt construct level
          · rename_i inner _
            have hle := s.index_le_search inner (level + 1) (s.advance p)
            have hpast := s.index_le_pastBlock (s.search inner (level + 1) (s.advance p))
            exact (ih hp _ hlt inner (level + 1)).bind
              (ih hp _ (Nat.lt_of_lt_of_le hlt (Nat.le_trans hle hpast)) construct level)

theorem seekBlockEnd (c : Cursor) (level : Nat) (opener : TokenKind) (advanced : Bool) :
    Refines (c.seekBlockEndWith .on level opener advanced)
      (c.seekBlockEndWith .off level opener advanced) := by
  refine bind ?_ (.of_ok _)
  unfold TokenStream.seekBlockEndWith
  split
  · exact searchWith c.stream _ level _
  · exact .of_ok _

mutual

/-- The rules of the grammar do the same with checks as without, up to a refusal. -/
theorem rule : (r : Rule) → (level : Nat) → (c : Cursor) → (levels : Array Nat) →
    Refines (r.apply .on level c levels) (r.apply .off level c levels)
  | .block, level, c, levels => by
    rw [Rule.apply, Rule.apply]
    exact (seekBlockEnd c level c.current false).bind (.of_ok _)
  | .all rules, level, c, levels => by
    rw [Rule.apply, Rule.apply]
    exact ruleAll rules level c (levels.push level)
  | .probe r times, level, c, levels => by
    rw [Rule.apply, Rule.apply]
    exact (check _).bind (probe (rule r) (level + 1) times c (levels.push level))
  | .token kind, level, c, levels => by
    rw [Rule.apply, Rule.apply]
    split <;> exact .of_ok _
  | .constant answer, level, c, levels => by
    rw [Rule.apply, Rule.apply]
    exact .of_ok _
  | .advance, level, c, levels => by
    rw [Rule.apply, Rule.apply]
    exact .of_ok _
  | .args, level, c, levels => by
    rw [Rule.apply, Rule.apply]
    exact .of_ok _
  | .table, level, c, levels => by
    rw [Rule.apply, Rule.apply]
    exact .of_ok _
  | .foldBody, level, c, levels => by
    rw [Rule.apply, Rule.apply]
    exact .of_ok _
  | .name, level, c, levels => by
    rw [Rule.apply, Rule.apply]
    exact .of_ok _

theorem ruleAll : (rules : List Rule) → (level : Nat) → (c : Cursor) → (levels : Array Nat) →
    Refines (Rule.applyAll .on rules level c levels) (Rule.applyAll .off rules level c levels)
  | [], level, c, levels => by
    rw [Rule.applyAll, Rule.applyAll]
    exact .of_ok _
  | r :: rules, level, c, levels => by
    rw [Rule.applyAll, Rule.applyAll]
    refine (rule r level c levels).bind ?_
    obtain ⟨matched, d, levels'⟩ := r.apply .off level c levels
    cases matched with
    | false => exact .of_ok _
    | true => exact ruleAll rules level d levels'

end

end Refines

end LuaFold
