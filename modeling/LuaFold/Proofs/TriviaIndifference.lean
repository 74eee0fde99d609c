import Mathlib.Data.List.Forall2
import LuaFold.Block.Balance
import LuaFold.Proofs.OutlineRun

/-! Token streams that differ in trivia only. A search from the same token ends at the same token
with the same result, and the outlines have the same blocks, up to the trivia in them. -/

namespace LuaFold

namespace TokenStream

variable {s s₁ s₂ : TokenStream} {p₁ p₂ : Place}

theorem atEnd_eq_of_ahead_eq (h : s₁.ahead p₁ = s₂.ahead p₂) : s₁.atEnd p₁ = s₂.atEnd p₂ := by
  rw [Bool.eq_iff_iff, ← ahead_eq_nil, ← ahead_eq_nil, h]

theorem current_eq_of_ahead_eq (h : s₁.ahead p₁ = s₂.ahead p₂) :
    s₁.current p₁ = s₂.current p₂ := by
  rw [current_eq_headD, current_eq_headD, h]

theorem ahead_advance_eq (h : s₁.ahead p₁ = s₂.ahead p₂) :
    s₁.ahead (s₁.advance p₁) = s₂.ahead (s₂.advance p₂) := by
  rw [ahead_advance, ahead_advance, h]

theorem index_nth_mono {m n : Nat} (h : m ≤ n) : (s.nth m).index ≤ (s.nth n).index := by
  obtain ⟨k, rfl⟩ := Nat.exists_eq_add_of_le h
  rw [← skip_nth]
  exact index_le_skip k _

theorem index_nth_lt {m n : Nat} (h : m < n) (hm : s.atEnd (s.nth m) = false) :
    (s.nth m).index < (s.nth n).index := by
  have hnext := index_lt_advance hm
  rw [advance_nth] at hnext
  exact Nat.lt_of_lt_of_le hnext (index_nth_mono h)

/-- Both streams have the same tokens up to trivia, which may differ in everything. -/
def SameUpToTrivia (s₁ s₂ : TokenStream) : Prop :=
  s₁.significant.map (·.1.kind) = s₂.significant.map (·.1.kind)

theorem SameUpToTrivia.ahead_nth (h : SameUpToTrivia s₁ s₂) (n : Nat) :
    s₁.ahead (s₁.nth n) = s₂.ahead (s₂.nth n) := by
  rw [nth, nth, ahead_skip, ahead_skip, ahead_first, ahead_first, h]

/-! ### Searches -/

end TokenStream

open TokenStream in
theorem BlockStack.run_of_ahead_eq {s₁ s₂ : TokenStream} {p₁ p₂ : Place} (level : Nat)
    (st : BlockStack) (h : s₁.ahead p₁ = s₂.ahead p₂) :
    (run s₁ level st p₁).1 = (run s₂ level st p₂).1 ∧
      ∃ n, (run s₁ level st p₁).2 = s₁.skip n p₁ ∧ (run s₂ level st p₂).2 = s₂.skip n p₂ := by
  induction p₁ using s₁.forward_induction generalizing st p₂ with
  | step p₁ ih =>
    have hend := atEnd_eq_of_ahead_eq h
    have hcurrent := current_eq_of_ahead_eq h
    cases hp : s₁.atEnd p₁ with
    | true =>
      rw [hp] at hend
      rw [run_of_atEnd hp, run_of_atEnd hend.symm]
      exact ⟨rfl, 0, rfl, rfl⟩
    | false =>
      rw [hp] at hend
      cases hstep : st.step (s₁.current p₁) with
      | none =>
        rw [run_of_step_eq_none hp hstep, run_of_step_eq_none hend.symm (hcurrent ▸ hstep)]
        refine ⟨rfl, if level = 0 then 0 else 1, ?_⟩
        split <;> exact ⟨rfl, rfl⟩
      | some st' =>
        rw [run_of_step_eq_some hp hstep, run_of_step_eq_some hend.symm (hcurrent ▸ hstep)]
        obtain ⟨hresult, n, h₁, h₂⟩ := ih hp _ (index_lt_advance hp) st' (ahead_advance_eq h)
        exact ⟨hresult, n + 1, h₁, h₂⟩

namespace TokenStream

variable {s₁ s₂ : TokenStream} {p₁ p₂ : Place}

theorem seekEnd_of_ahead_eq (level : Nat) (construct : Construct) (advanced : Bool)
    (h : s₁.ahead p₁ = s₂.ahead p₂) :
    (s₁.seekEnd level construct advanced p₁).1 = (s₂.seekEnd level construct advanced p₂).1 ∧
      ∃ n, (s₁.seekEnd level construct advanced p₁).2 = s₁.skip n p₁ ∧
        (s₂.seekEnd level construct advanced p₂).2 = s₂.skip n p₂ := by
  rw [seekEnd_eq, seekEnd_eq]
  rw [BlockStack.search_eq_run, BlockStack.search_eq_run]
  cases advanced with
  | true => exact BlockStack.run_of_ahead_eq level _ h
  | false =>
    obtain ⟨hresult, n, h₁, h₂⟩ :=
      BlockStack.run_of_ahead_eq level ⟨construct, []⟩ (ahead_advance_eq h)
    exact ⟨hresult, n + 1, h₁, h₂⟩

theorem seekBlockEnd_of_ahead_eq (level : Nat) (opener : TokenKind) (advanced : Bool)
    (h : s₁.ahead p₁ = s₂.ahead p₂) :
    (s₁.seekBlockEnd level opener advanced p₁).1 = (s₂.seekBlockEnd level opener advanced p₂).1 ∧
      ∃ n, (s₁.seekBlockEnd level opener advanced p₁).2 = s₁.skip n p₁ ∧
        (s₂.seekBlockEnd level opener advanced p₂).2 = s₂.skip n p₂ := by
  rw [seekBlockEnd_eq, seekBlockEnd_eq]
  split
  · exact seekEnd_of_ahead_eq level _ advanced h
  · exact ⟨rfl, 0, rfl, rfl⟩

theorem seekBalance_of_ahead_eq (opener closer : TokenKind) (depth : Nat)
    (h : s₁.ahead p₁ = s₂.ahead p₂) :
    (s₁.seekBalance opener closer depth p₁).1 = (s₂.seekBalance opener closer depth p₂).1 := by
  fun_induction seekBalance s₁ opener closer depth p₁ generalizing p₂ with
  | case1 =>
    rw [seekBalance, if_pos rfl]
  | case2 depth p₁ hdepth hend =>
    rw [atEnd_eq_of_ahead_eq (ahead_advance_eq h)] at hend
    rw [seekBalance, if_neg hdepth, dif_pos hend]
  | case3 depth p₁ hdepth hend _ _ _ depth' =>
    rename_i ih
    rw [ih (ahead_advance_eq h)]
    have hcurrent := current_eq_of_ahead_eq (ahead_advance_eq h)
    rw [atEnd_eq_of_ahead_eq (ahead_advance_eq h)] at hend
    conv_rhs => rw [seekBalance, if_neg hdepth, dif_neg hend]
    simp only [depth', dite_eq_ite, ← hcurrent]
    rfl

/-! ### Blocks -/

/-- The token with the number `i` among those that are not trivia is in the node. -/
def Holds (s : TokenStream) (n : Node) (i : Nat) : Prop :=
  ∃ t j, s.significant[i]? = some (t, j) ∧ n.tokenStart ≤ j ∧ j < n.tokenEnd

/-- The token with the number `i` among those that are not trivia is right before the node. -/
def Precedes (s : TokenStream) (i : Nat) (n : Node) : Prop :=
  ∃ t j, s.significant[i]? = some (t, j) ∧ n.tokenStart = j + 1

/-- The blocks follow the same token and have the same tokens in them, trivia apart. -/
def SameBlock (s₁ s₂ : TokenStream) (n₁ n₂ : Node) : Prop :=
  (∃ i, s₁.Precedes i n₁ ∧ s₂.Precedes i n₂) ∧ ∀ i, s₁.Holds n₁ i ↔ s₂.Holds n₂ i

section Between

variable {s : TokenStream} {m n : Nat} (hm : s.atEnd (s.nth m) = false)

include hm

theorem exists_significant_nth : ∃ t, s.significant[m]? = some (t, (s.nth m).index) := by
  rw [getElem?_significant, Array.getElem?_eq_getElem (index_lt_size hm)]
  exact ⟨_, rfl⟩

theorem precedes_between : s.Precedes m (s.blockOver ((s.nth m).index + 1) (s.nth n).index) := by
  obtain ⟨t, ht⟩ := exists_significant_nth hm
  exact ⟨t, (s.nth m).index, ht, rfl⟩

theorem holds_between_iff {i : Nat} :
    s.Holds (s.blockOver ((s.nth m).index + 1) (s.nth n).index) i ↔
      m < i ∧ i < n ∧ s.atEnd (s.nth i) = false := by
  constructor
  · rintro ⟨t, j, hsome, hstart, hstop⟩
    rw [getElem?_significant] at hsome
    obtain ⟨t', ht, heq⟩ := Option.map_eq_some_iff.mp hsome
    obtain ⟨rfl, rfl⟩ := Prod.mk.inj heq
    have hstart : (s.nth m).index < (s.nth i).index := hstart
    have hstop : (s.nth i).index < (s.nth n).index := hstop
    refine ⟨?_, ?_, ?_⟩
    · by_contra hle
      have := s.index_nth_mono (Nat.not_lt.mp hle)
      omega
    · by_contra hle
      have := s.index_nth_mono (Nat.not_lt.mp hle)
      omega
    · simpa [atEnd] using (Array.getElem?_eq_some_iff.mp ht).1
  · rintro ⟨hmi, hin, hi⟩
    obtain ⟨t, ht⟩ := exists_significant_nth hi
    exact ⟨t, (s.nth i).index, ht, index_nth_lt hmi hm, index_nth_lt hin hi⟩

end Between

theorem sameBlock_between (h : SameUpToTrivia s₁ s₂) {m n : Nat}
    (hm : s₁.atEnd (s₁.nth m) = false) :
    SameBlock s₁ s₂ (s₁.blockOver ((s₁.nth m).index + 1) (s₁.nth n).index)
      (s₂.blockOver ((s₂.nth m).index + 1) (s₂.nth n).index) := by
  have hend (i : Nat) := atEnd_eq_of_ahead_eq (h.ahead_nth i)
  have hm₂ : s₂.atEnd (s₂.nth m) = false := (hend m).symm.trans hm
  refine ⟨⟨m, precedes_between hm, precedes_between hm₂⟩, fun i => ?_⟩
  rw [holds_between_iff hm, holds_between_iff hm₂, hend]

end TokenStream

/-! ### Cursors -/

open TokenStream

namespace Cursor

/-- The cursor is in `s`, before the token with the number `n` among those that are not trivia. -/
def AtNth (c : Cursor) (s : TokenStream) (n : Nat) : Prop :=
  c.stream = s ∧ c.place = s.nth n

variable {s₁ s₂ : TokenStream} {c₁ c₂ : Cursor} {n : Nat}

theorem AtNth.ahead_eq (h : SameUpToTrivia s₁ s₂) (h₁ : c₁.AtNth s₁ n) (h₂ : c₂.AtNth s₂ n) :
    c₁.stream.ahead c₁.place = c₂.stream.ahead c₂.place := by
  rw [h₁.1, h₁.2, h₂.1, h₂.2, h.ahead_nth]

theorem balanced_of_sameUpToTrivia (h : SameUpToTrivia s₁ s₂) (h₁ : c₁.AtNth s₁ n)
    (h₂ : c₂.AtNth s₂ n) (opener closer : TokenKind) :
    (c₁.balanced opener closer).1 = (c₂.balanced opener closer).1 ∧
      (c₁.balanced opener closer).2.AtNth s₁ n ∧ (c₂.balanced opener closer).2.AtNth s₂ n := by
  have hahead := AtNth.ahead_eq h h₁ h₂
  have hcurrent : c₁.current = c₂.current := current_eq_of_ahead_eq hahead
  unfold balanced
  rw [hcurrent]
  split
  · refine ⟨?_, h₁, h₂⟩
    simp only [mark, seekBalance_of_ahead_eq opener closer 1 hahead]
    rfl
  · exact ⟨rfl, h₁, h₂⟩

theorem AtNth.of_skip {s : TokenStream} {c : Cursor} (h : c.AtNth s n) {p : Place} {k : Nat}
    (hp : p = c.stream.skip k c.place) : ({ c with place := p } : Cursor).AtNth s (n + k) := by
  obtain ⟨rfl, hplace⟩ := h
  refine ⟨rfl, ?_⟩
  rw [hp, hplace, skip_nth]

theorem seekBlockEnd_of_sameUpToTrivia (h : SameUpToTrivia s₁ s₂) (h₁ : c₁.AtNth s₁ n)
    (h₂ : c₂.AtNth s₂ n) (level : Nat) (opener : TokenKind) (advanced : Bool) :
    (c₁.seekBlockEnd level opener advanced).1 = (c₂.seekBlockEnd level opener advanced).1 ∧
      ∃ m, (c₁.seekBlockEnd level opener advanced).2.AtNth s₁ m ∧
        (c₂.seekBlockEnd level opener advanced).2.AtNth s₂ m := by
  obtain ⟨hresult, k, hk₁, hk₂⟩ :=
    seekBlockEnd_of_ahead_eq level opener advanced (AtNth.ahead_eq h h₁ h₂)
  exact ⟨hresult, n + k, h₁.of_skip hk₁, h₂.of_skip hk₂⟩

theorem seekEnd_of_sameUpToTrivia (h : SameUpToTrivia s₁ s₂) (h₁ : c₁.AtNth s₁ n)
    (h₂ : c₂.AtNth s₂ n) (level : Nat) (construct : Construct) (advanced : Bool) :
    (c₁.seekEnd level construct advanced).1 = (c₂.seekEnd level construct advanced).1 ∧
      ∃ m, (c₁.seekEnd level construct advanced).2.AtNth s₁ m ∧
        (c₂.seekEnd level construct advanced).2.AtNth s₂ m := by
  obtain ⟨hresult, k, hk₁, hk₂⟩ :=
    seekEnd_of_ahead_eq level construct advanced (AtNth.ahead_eq h h₁ h₂)
  exact ⟨hresult, n + k, h₁.of_skip hk₁, h₂.of_skip hk₂⟩

end Cursor

/-! ### Outlines -/

/-- Two outlines that have come to the same token, with the same blocks. -/
structure Twins (s₁ s₂ : TokenStream) (c₁ c₂ : Cursor) : Prop where
  place : ∃ n, c₁.AtNth s₁ n ∧ c₂.AtNth s₂ n
  nodes : List.Forall₂ (SameBlock s₁ s₂) c₁.nodes.toList c₂.nodes.toList

namespace Twins

variable {s₁ s₂ : TokenStream} {c₁ c₂ : Cursor}

theorem ahead_eq (h : SameUpToTrivia s₁ s₂) (hc : Twins s₁ s₂ c₁ c₂) :
    c₁.stream.ahead c₁.place = c₂.stream.ahead c₂.place := by
  obtain ⟨n, h₁, h₂⟩ := hc.place
  exact Cursor.AtNth.ahead_eq h h₁ h₂

theorem advance (hc : Twins s₁ s₂ c₁ c₂) : Twins s₁ s₂ c₁.advance c₂.advance := by
  obtain ⟨⟨n, ⟨rfl, hplace₁⟩, ⟨rfl, hplace₂⟩⟩, hnodes⟩ := hc
  refine ⟨⟨n + 1, ⟨rfl, ?_⟩, ⟨rfl, ?_⟩⟩, hnodes⟩
  · rw [Cursor.advance, hplace₁, advance_nth]
  · rw [Cursor.advance, hplace₂, advance_nth]

theorem foldBody_advance (h : SameUpToTrivia s₁ s₂) (hc : Twins s₁ s₂ c₁ c₂)
    (hend : c₁.atEnd = false) : Twins s₁ s₂ c₁.advance.foldBody.2 c₂.advance.foldBody.2 := by
  have hahead := hc.ahead_eq h
  have hend₂ : c₂.atEnd = false := (atEnd_eq_of_ahead_eq hahead).symm.trans hend
  have hcurrent : c₁.current = c₂.current := current_eq_of_ahead_eq hahead
  obtain ⟨m, hadv₁, hadv₂⟩ := hc.advance.place
  obtain ⟨-, k, hk₁, hk₂⟩ := Cursor.seekBlockEnd_of_sameUpToTrivia h hadv₁ hadv₂ 0
    (bodyOpener c₁.current) true
  obtain ⟨⟨n, ⟨rfl, hplace₁⟩, ⟨rfl, hplace₂⟩⟩, hnodes⟩ := hc
  have hc₁ : c₁.stream.IsPlace c₁.place := hplace₁ ▸ isPlace_nth _ n
  have hc₂ : c₂.stream.IsPlace c₂.place := hplace₂ ▸ isPlace_nth _ n
  have hstop₁ := (Cursor.place_foldBody_advance hc₁ hend).trans hk₁.2
  have hstop₂ := (Cursor.place_foldBody_advance hc₂ hend₂).trans (hcurrent ▸ hk₂.2)
  refine ⟨⟨k, ⟨c₁.advance.stream_foldBody, hstop₁⟩, ⟨c₂.advance.stream_foldBody, hstop₂⟩⟩, ?_⟩
  rw [Cursor.nodes_foldBody_advance hc₁ hend, Cursor.nodes_foldBody_advance hc₂ hend₂,
    Array.toList_push, Array.toList_push, hstop₁, hstop₂, hplace₁, hplace₂]
  rw [Cursor.atEnd, hplace₁] at hend
  exact List.rel_append hnodes (.cons (sameBlock_between h hend) .nil)

theorem step (h : SameUpToTrivia s₁ s₂) (header : Header) (hc : Twins s₁ s₂ c₁ c₂)
    (hend : c₁.atEnd = false) :
    (c₁.outlineStep header).1 = (c₂.outlineStep header).1 ∧
      Twins s₁ s₂ (c₁.outlineStep header).2 (c₂.outlineStep header).2 := by
  have hcurrent : c₁.current = c₂.current := current_eq_of_ahead_eq (hc.ahead_eq h)
  refine ⟨by simp only [Cursor.outlineStep, hcurrent], ?_⟩
  simp only [Cursor.outlineStep, hcurrent]
  split
  · exact hc.foldBody_advance h hend
  · exact hc.advance

theorem outlineFrom (h : SameUpToTrivia s₁ s₂) (header : Header) (hc : Twins s₁ s₂ c₁ c₂) :
    Twins s₁ s₂ (c₁.outlineFrom header) (c₂.outlineFrom header) := by
  fun_induction Cursor.outlineFrom header c₁ generalizing c₂ with
  | case1 header c₁ hend =>
    have hend₂ : c₂.atEnd = true := (atEnd_eq_of_ahead_eq (hc.ahead_eq h)).symm.trans hend
    rw [Cursor.outlineFrom_of_atEnd header hend₂]
    exact hc
  | case2 header c₁ hend =>
    rename_i ih
    have hend : c₁.atEnd = false := by simpa using hend
    have hend₂ : c₂.atEnd = false := (atEnd_eq_of_ahead_eq (hc.ahead_eq h)).symm.trans hend
    obtain ⟨hheader, hstep⟩ := hc.step h header hend
    rw [Cursor.outlineFrom_of_not_atEnd header hend₂, ← hheader]
    exact ih hstep

end Twins

/-- What two streams have in common if they differ in trivia only. Every look ahead and every search
from the same token has the same result and ends at the same token, and the outlines have the same
blocks one after another. -/
theorem same_structure_of_sameUpToTrivia {s₁ s₂ : TokenStream} (h : SameUpToTrivia s₁ s₂) :
    (∀ n c₁ c₂, Cursor.AtNth c₁ s₁ n → Cursor.AtNth c₂ s₂ n →
      (∀ opener closer, (c₁.balanced opener closer).1 = (c₂.balanced opener closer).1 ∧
        (c₁.balanced opener closer).2.AtNth s₁ n ∧ (c₂.balanced opener closer).2.AtNth s₂ n) ∧
      (∀ level opener advanced,
        (c₁.seekBlockEnd level opener advanced).1 = (c₂.seekBlockEnd level opener advanced).1 ∧
          ∃ m, (c₁.seekBlockEnd level opener advanced).2.AtNth s₁ m ∧
            (c₂.seekBlockEnd level opener advanced).2.AtNth s₂ m) ∧
      ∀ level construct advanced,
        (c₁.seekEnd level construct advanced).1 = (c₂.seekEnd level construct advanced).1 ∧
          ∃ m, (c₁.seekEnd level construct advanced).2.AtNth s₁ m ∧
            (c₂.seekEnd level construct advanced).2.AtNth s₂ m) ∧
    List.Forall₂ (SameBlock s₁ s₂) (Cursor.ofStream s₁).outline.nodes.toList
      (Cursor.ofStream s₂).outline.nodes.toList := by
  constructor
  · intro n c₁ c₂ h₁ h₂
    exact ⟨Cursor.balanced_of_sameUpToTrivia h h₁ h₂,
      Cursor.seekBlockEnd_of_sameUpToTrivia h h₁ h₂, Cursor.seekEnd_of_sameUpToTrivia h h₁ h₂⟩
  · have hstart : Twins s₁ s₂ (.ofStream s₁) (.ofStream s₂) :=
      ⟨⟨0, ⟨rfl, rfl⟩, ⟨rfl, rfl⟩⟩, .nil⟩
    exact (hstart.outlineFrom h .outside).nodes

/-- Comments around the parts of a loop and inside its empty body. -/
theorem same_structure_of_sameUpToTrivia_comments :
    let s₁ : TokenStream := ⟨"(do end)", #[⟨.leftParen, 0, 1⟩, ⟨.kwDo, 1, 2⟩, ⟨.whitespace, 3, 1⟩,
      ⟨.kwEnd, 4, 3⟩, ⟨.rightParen, 7, 1⟩]⟩
    let s₂ : TokenStream := ⟨"--end\n(--[[)]]do--\nend)", #[⟨.shortComment, 0, 5⟩, ⟨.endOfLine, 5, 1⟩,
      ⟨.leftParen, 6, 1⟩, ⟨.longComment, 7, 7⟩, ⟨.kwDo, 14, 2⟩, ⟨.shortComment, 16, 2⟩,
      ⟨.endOfLine, 18, 1⟩, ⟨.kwEnd, 19, 3⟩, ⟨.rightParen, 22, 1⟩]⟩
    let c₁ := Cursor.ofStream s₁
    let c₂ := Cursor.ofStream s₂
    SameUpToTrivia s₁ s₂ ∧ c₁.AtNth s₁ 0 ∧ c₂.AtNth s₂ 0 ∧
      (c₁.balanced .leftParen .rightParen).1 = (c₂.balanced .leftParen .rightParen).1 ∧
      c₁.outline.nodes.toList = [⟨.block, true, 2, 3, 3, 1⟩] ∧
      c₂.outline.nodes.toList = [⟨.block, true, 5, 7, 16, 3⟩] ∧
      List.Forall₂ (SameBlock s₁ s₂) c₁.outline.nodes.toList c₂.outline.nodes.toList := by
  intro s₁ s₂ c₁ c₂
  have hsame : SameUpToTrivia s₁ s₂ := by
    unfold SameUpToTrivia
    decide
  obtain ⟨hsearch, houtline⟩ := same_structure_of_sameUpToTrivia hsame
  obtain ⟨hbalance, -⟩ := hsearch 0 c₁ c₂ ⟨rfl, rfl⟩ ⟨rfl, rfl⟩
  exact ⟨hsame, ⟨rfl, rfl⟩, ⟨rfl, rfl⟩, (hbalance .leftParen .rightParen).1, by decide +kernel,
    by decide +kernel, houtline⟩

end LuaFold
