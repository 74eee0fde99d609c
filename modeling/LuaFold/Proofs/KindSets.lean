import LuaFold.Token.KindSet
import Mathlib.Data.List.Basic

/-! Sets of token kinds against the lists that they were made from. The bits that are on are those of
the kinds in the list, and every question that a set answers is a question about these bits. -/

namespace LuaFold.KindSet

variable {s : KindSet} {k : TokenKind} {kinds : List TokenKind} {i : Nat}

theorem index_lt_width (k : TokenKind) : k.index < width :=
  Nat.lt_of_lt_of_le k.index_lt_count (by decide)

theorem mask_eq_twoPow (k : TokenKind) : mask k = BitVec.twoPow width k.index :=
  (BitVec.twoPow_eq _ _).symm

/-! ### Bits -/

@[simp] theorem getLsbD_bits_empty (i : Nat) : (∅ : KindSet).bits.getLsbD i = false :=
  BitVec.getLsbD_zero

theorem getLsbD_bits_insert :
    (s.insert k).bits.getLsbD i = true ↔ s.bits.getLsbD i = true ∨ k.index = i := by
  rw [insert, mask_eq_twoPow, BitVec.getLsbD_or, BitVec.getLsbD_twoPow]
  simp [index_lt_width]

theorem getLsbD_bits_foldl_insert :
    (kinds.foldl insert s).bits.getLsbD i = true ↔
      s.bits.getLsbD i = true ∨ i ∈ kinds.map TokenKind.index := by
  induction kinds generalizing s with
  | nil => simp
  | cons k kinds ih =>
    rw [List.foldl_cons, ih, getLsbD_bits_insert, List.map_cons, List.mem_cons, or_assoc,
      eq_comm (a := i)]

theorem getLsbD_bits_ofList :
    (ofList kinds).bits.getLsbD i = true ↔ i ∈ kinds.map TokenKind.index := by
  rw [ofList, getLsbD_bits_foldl_insert]
  simp

/-! ### Members -/

theorem mem_iff_getLsbD : k ∈ s ↔ s.bits.getLsbD k.index = true := by
  have hne : BitVec.twoPow width k.index ≠ 0 := by
    intro h
    have := congrArg (·.getLsbD k.index) h
    simp [index_lt_width] at this
  show s.contains k = true ↔ _
  rw [contains, mask_eq_twoPow, BitVec.and_twoPow]
  cases s.bits.getLsbD k.index with
  | false => simp
  | true => simpa using hne

@[simp] theorem not_mem_empty (k : TokenKind) : k ∉ (∅ : KindSet) := by
  simp [mem_iff_getLsbD]

@[simp] theorem mem_ofList : k ∈ ofList kinds ↔ k ∈ kinds := by
  rw [mem_iff_getLsbD, getLsbD_bits_ofList]
  exact List.mem_map_of_injective fun _ _ => TokenKind.index_injective

/-! ### Sets against each other -/

theorem eq_of_getLsbD_eq {a b : KindSet} (h : ∀ i, a.bits.getLsbD i = b.bits.getLsbD i) :
    a = b := by
  have hbits : a.bits = b.bits := BitVec.eq_of_getLsbD_eq fun i _ => h i
  cases a
  cases b
  exact congrArg mk hbits

theorem ofList_eq_iff {xs ys : List TokenKind} :
    ofList xs = ofList ys ↔ ∀ k, k ∈ xs ↔ k ∈ ys := by
  constructor
  · intro h k
    rw [← mem_ofList, h, mem_ofList]
  · intro h
    refine eq_of_getLsbD_eq fun i => Bool.eq_iff_iff.mpr ?_
    simp only [getLsbD_bits_ofList, List.mem_map, h]

theorem isEmpty_iff : s.isEmpty = true ↔ ∀ i, s.bits.getLsbD i = false := by
  rw [isEmpty, beq_iff_eq]
  constructor
  · intro h i
    rw [h]
    exact BitVec.getLsbD_zero
  · intro h
    exact BitVec.eq_of_getLsbD_eq fun i _ => (h i).trans BitVec.getLsbD_zero.symm

theorem isEmpty_ofList_iff : (ofList kinds).isEmpty = true ↔ kinds = [] := by
  rw [isEmpty_iff]
  constructor
  · intro h
    refine List.eq_nil_iff_forall_not_mem.mpr fun k hk => ?_
    have hbit := getLsbD_bits_ofList.mpr (List.mem_map_of_mem hk)
    rw [h] at hbit
    cases hbit
  · rintro rfl i
    exact getLsbD_bits_empty i

theorem isDisjoint_iff {a b : KindSet} :
    a.isDisjoint b = true ↔ ∀ i, ¬(a.bits.getLsbD i = true ∧ b.bits.getLsbD i = true) := by
  -- the common bits make up a word that is empty
  show isEmpty ⟨a.bits &&& b.bits⟩ = true ↔ _
  simp only [isEmpty_iff, BitVec.getLsbD_and, ← Bool.and_eq_true, Bool.not_eq_true]

theorem isDisjoint_ofList_iff {xs ys : List TokenKind} :
    (ofList xs).isDisjoint (ofList ys) = true ↔ ∀ k, ¬(k ∈ xs ∧ k ∈ ys) := by
  simp only [isDisjoint_iff, getLsbD_bits_ofList]
  constructor
  · intro h k hk
    exact h k.index ⟨List.mem_map_of_mem hk.1, List.mem_map_of_mem hk.2⟩
  · rintro h i ⟨hx, hy⟩
    obtain ⟨k, hk, rfl⟩ := List.mem_map.mp hx
    exact h k ⟨hk, (List.mem_map_of_injective fun _ _ => TokenKind.index_injective).mp hy⟩

/-! ### The text of a set -/

/-- The text lists the places of the bits that are on, each once and from the lowest. -/
theorem exists_debugText_ofList (kinds : List TokenKind) :
    ∃ places : List Nat, places.Pairwise (· < ·) ∧
      (∀ i, i ∈ places ↔ ∃ k ∈ kinds, k.index = i) ∧
      (ofList kinds).debugText = "\x7b" ++ ", ".intercalate (places.map toString) ++ "\x7d" := by
  refine ⟨_, List.pairwise_lt_range.filter _, fun i => ?_, rfl⟩
  rw [List.mem_filter, getLsbD_bits_ofList, List.mem_map, List.mem_range]
  refine and_iff_right_of_imp ?_
  rintro ⟨k, -, rfl⟩
  exact index_lt_width k

/-! ### Sets as lists -/

/-- A set made from a list stands for the kinds in the list, in whatever order and however often they
are there. It contains exactly these, it is equal to another one when the two lists have the same
members, and disjoint from it when they share none, it is empty when the list is, and its text lists
the places of these kinds in order. -/
theorem ofList_represents (xs ys : List TokenKind) :
    (∀ k, (ofList xs).contains k = true ↔ k ∈ xs) ∧
      (ofList xs = ofList ys ↔ ∀ k, k ∈ xs ↔ k ∈ ys) ∧
      ((ofList xs).isDisjoint (ofList ys) = true ↔ ∀ k, ¬(k ∈ xs ∧ k ∈ ys)) ∧
      ((ofList xs).isEmpty = true ↔ xs = []) ∧
      ∃ places : List Nat, places.Pairwise (· < ·) ∧
        (∀ i, i ∈ places ↔ ∃ k ∈ xs, k.index = i) ∧
        (ofList xs).debugText = "\x7b" ++ ", ".intercalate (places.map toString) ++ "\x7d" :=
  ⟨fun _ => mem_ofList, ofList_eq_iff, isDisjoint_ofList_iff, isEmpty_ofList_iff,
    exists_debugText_ofList xs⟩

end LuaFold.KindSet
