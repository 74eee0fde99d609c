import LuaFold.Outline
import LuaFold.Proofs.Refusals
import LuaFold.Proofs.Terminator

/-! The levels that a search goes down in a balanced body, and the end of a block with the checks on
levels. The depth of the body alone tells whether a search at a level is refused. -/

namespace LuaFold

open TokenKind

/-- A search inside `construct` at a level goes down `depth` levels over tokens of the kinds `ks`,
and then goes on. -/
def GoesDown (s : TokenStream) (construct : Construct) (level : Nat) (ks : List TokenKind)
    (depth : Nat) : Prop :=
  ∀ p rest, s.ahead p = ks ++ rest → s.deepest construct level p =
    max (level + depth) (s.deepest construct level (s.skip ks.length p))

namespace GoesDown

variable {s : TokenStream} {construct inner : Construct} {level depth depth' : Nat}
  {kind closer : TokenKind} {ks ks' rest : List TokenKind} {p : Place}

theorem nil : GoesDown s construct level [] 0 :=
  fun p _ _ => (Nat.max_eq_right (s.level_le_deepest construct level p)).symm

theorem append (h : GoesDown s construct level ks depth)
    (h' : GoesDown s construct level ks' depth') :
    GoesDown s construct level (ks ++ ks') (max depth depth') := by
  intro p rest hahead
  rw [List.append_assoc] at hahead
  rw [h p _ hahead, h' _ rest (TokenStream.ahead_skip_length hahead), ← TokenStream.skip_add,
    List.length_append, ← Nat.max_assoc, Nat.add_max_add_left]

theorem joint (hj : kind ∈ construct.joints) (h : GoesDown s construct level ks depth) :
    GoesDown s construct level (kind :: ks) depth := by
  intro p rest hahead
  obtain ⟨hp, rfl, hrest⟩ := TokenStream.ahead_eq_cons.mp hahead
  rw [TokenStream.deepest_of_joint hp hj, h _ rest hrest, List.length_cons, TokenStream.skip_succ]

theorem plain (hkind : kind.isPlain = true) (h : GoesDown s construct level ks depth) :
    GoesDown s construct level (kind :: ks) (max 1 depth) := by
  intro p rest hahead
  obtain ⟨hp, rfl, hrest⟩ := TokenStream.ahead_eq_cons.mp hahead
  have ho : Construct.ofOpener? (s.current p) (level + 1) = none := by
    rw [BlockStack.ofOpener?_succ, BlockStack.nestedConstruct?_of_isPlain hkind]
  rw [TokenStream.deepest_of_other hp (Construct.not_mem_joints_of_isPlain hkind _)
    (Construct.not_mem_closers_of_isPlain hkind _) ho, h _ rest hrest, List.length_cons,
    TokenStream.skip_succ, ← Nat.max_assoc, Nat.add_max_add_left]

/-- The closer of an interior ends the search at its own level. -/
theorem closed (inside : Interior construct ks closer) (h : GoesDown s construct level ks depth)
    (hahead : s.ahead p = ks ++ closer :: rest) : s.deepest construct level p = level + depth := by
  obtain ⟨hp, hcloser, -⟩ := TokenStream.ahead_eq_cons.mp (TokenStream.ahead_skip_length hahead)
  have hend : s.deepest construct level (s.skip ks.length p) = level :=
    TokenStream.deepest_of_closer hp (hcloser ▸ inside.not_mem_joints)
      (hcloser ▸ inside.mem_closers)
  rw [h p _ hahead, hend, Nat.max_eq_left (Nat.le_add_right level depth)]

/-- A construct that opens inside any other one takes one more level than its interior. -/
theorem block (ho : BlockStack.nestedConstruct? kind = some inner) (hthen : kind ≠ kwThen)
    (helse : kind ≠ kwElse) (inside : Interior inner ks closer)
    (h : GoesDown s inner (level + 1) ks depth) (h' : GoesDown s construct level ks' depth') :
    GoesDown s construct level (kind :: ks ++ closer :: ks') (max (depth + 1) depth') := by
  intro p rest hahead
  rw [List.append_assoc, List.cons_append, List.cons_append] at hahead
  obtain ⟨hp, rfl, hinside⟩ := TokenStream.ahead_eq_cons.mp hahead
  obtain ⟨hj, hc⟩ := BlockStack.not_mem_of_opens ho hthen helse construct
  have hpast : s.pastBlock (s.search inner (level + 1) (s.advance p)) =
      s.skip (ks.length + 1 + 1) p := by
    rw [inside.search hinside, if_neg (Nat.succ_ne_zero level)]
    rfl
  have hrest : s.ahead (s.skip (ks.length + 1 + 1) p) = ks' ++ rest := by
    have hcloser := TokenStream.ahead_skip_length hinside
    rw [TokenStream.ahead_eq_cons, TokenStream.advance_skip] at hcloser
    exact hcloser.2.2
  have hlength : (s.current p :: ks ++ closer :: ks').length = ks.length + 1 + 1 + ks'.length := by
    simp only [List.cons_append, List.length_cons, List.length_append]
    omega
  rw [← BlockStack.ofOpener?_succ _ level] at ho
  rw [TokenStream.deepest_of_opener hp hj hc ho, h.closed inside hinside, hpast, h' _ rest hrest,
    ← TokenStream.skip_add, ← hlength, ← Nat.max_assoc, Nat.add_right_comm, Nat.add_assoc,
    Nat.add_max_add_left]

/-- Up to a branch's end, a conditional goes down as far as its condition and its body. -/
theorem condition {condition body more : List TokenKind} {dc db dm : Nat}
    (hc : GoesDown s .conditional level condition dc) (hb : GoesDown s .conditional level body db)
    (hm : GoesDown s .conditional level more dm) :
    GoesDown s .conditional level (condition ++ kwThen :: body ++ more) (max (max dc db) dm) :=
  (hc.append (hb.joint (by decide))).append hm

mutual

/-- A search goes down in a balanced body by the depth of the body. -/
theorem body (construct : Construct) (level : Nat) :
    (body : Body) → GoesDown s construct level body.kinds body.depth
  | .empty => nil
  | .plain kind rest => plain kind.2 (GoesDown.body construct level rest)
  | .doBlock inside rest =>
    block rfl (by decide) (by decide) (.doBlock inside) (GoesDown.body _ _ inside)
      (GoesDown.body construct level rest)
  | .repeatLoop inside rest =>
    block rfl (by decide) (by decide) (.repeatLoop inside) (GoesDown.body _ _ inside)
      (GoesDown.body construct level rest)
  | .function inside rest =>
    block rfl (by decide) (by decide) (.function inside) (GoesDown.body _ _ inside)
      (GoesDown.body construct level rest)
  | .conditional cond inside more rest =>
    block rfl (by decide) (by decide) (.conditional cond inside more)
      (condition (GoesDown.body _ _ cond) (GoesDown.body _ _ inside) (branches _ more))
      (GoesDown.body construct level rest)

/-- A search goes down in the further branches of a conditional by their depth. -/
theorem branches (level : Nat) :
    (more : Branches) → GoesDown s .conditional level more.kinds more.depth
  | .none => nil
  | .otherwise body => joint (by decide) (GoesDown.body _ _ body)
  | .elseIf cond body more =>
    joint (by decide)
      (condition (GoesDown.body _ _ cond) (GoesDown.body _ _ body) (branches level more))

end

end GoesDown

/-! ### The end of a block -/

namespace Cursor

end Cursor

end LuaFold
