import LuaFold.Token.Stream

/-! Tokens that cover a text without gaps or overlaps. Between two of them there is one byte offset,
the one that `offsetAt` gives. -/

namespace LuaFold

/-- The tokens cover the offsets from `start` to `stop`, each one from where the one before it ends.
-/
def Tiles (start : Nat) : List Token → Nat → Prop
  | [], stop => start = stop
  | t :: ts, stop => t.span.start = start ∧ Tiles t.span.stop ts stop

instance Tiles.decidable (start : Nat) :
    (ts : List Token) → (stop : Nat) → Decidable (Tiles start ts stop)
  | [], stop => inferInstanceAs (Decidable (start = stop))
  | t :: ts, stop =>
    have := Tiles.decidable t.span.stop ts stop
    inferInstanceAs (Decidable (t.span.start = start ∧ Tiles t.span.stop ts stop))

theorem Tiles.exists_append {start stop : Nat} {ts ts' : List Token}
    (h : Tiles start (ts ++ ts') stop) : ∃ cut, Tiles start ts cut ∧ Tiles cut ts' stop := by
  induction ts generalizing start with
  | nil => exact ⟨start, rfl, h⟩
  | cons t ts ih =>
    obtain ⟨hstart, htail⟩ := h
    obtain ⟨cut, hts, hts'⟩ := ih htail
    exact ⟨cut, ⟨hstart, hts⟩, hts'⟩

namespace TokenStream

variable {s : TokenStream}

/-- The tokens cover the whole text. -/
def Tiled (s : TokenStream) : Prop :=
  Tiles 0 s.tokens.toList s.text.utf8ByteSize

instance (s : TokenStream) : Decidable s.Tiled :=
  inferInstanceAs (Decidable (Tiles 0 s.tokens.toList s.text.utf8ByteSize))

theorem offsetAt_of_getElem? {i : Nat} {t : Token} (h : s.tokens[i]? = some t) :
    s.offsetAt i = t.span.start := by
  simp [offsetAt, h]

theorem offsetAt_of_size_le {i : Nat} (h : s.tokens.size ≤ i) :
    s.offsetAt i = s.text.utf8ByteSize := by
  simp [offsetAt, h]

theorem offsetAt_of_tiles_drop {i a : Nat}
    (h : Tiles a (s.tokens.toList.drop i) s.text.utf8ByteSize) : s.offsetAt i = a := by
  by_cases hi : i < s.tokens.size
  · rw [List.drop_eq_getElem_cons (by simpa using hi)] at h
    rw [offsetAt_of_getElem? (Array.getElem?_eq_getElem hi)]
    simpa using h.1
  · rw [Nat.not_lt] at hi
    rw [List.drop_of_length_le (by simpa using hi)] at h
    rw [offsetAt_of_size_le hi]
    exact h.symm

namespace Tiled

theorem tiles_drop (h : s.Tiled) (i : Nat) :
    Tiles (s.offsetAt i) (s.tokens.toList.drop i) s.text.utf8ByteSize := by
  induction i with
  | zero =>
    have hzero : Tiles 0 (s.tokens.toList.drop 0) s.text.utf8ByteSize := h
    rwa [offsetAt_of_tiles_drop hzero]
  | succ i ih =>
    by_cases hi : i < s.tokens.size
    · rw [List.drop_eq_getElem_cons (by simpa using hi)] at ih
      have hrest := ih.2
      rwa [offsetAt_of_tiles_drop hrest]
    · rw [Nat.not_lt] at hi
      rw [offsetAt_of_size_le (Nat.le_succ_of_le hi),
        List.drop_of_length_le (by simpa using Nat.le_succ_of_le hi)]
      rfl

theorem tiles_extract (h : s.Tiled) {i j : Nat} (hij : i ≤ j) :
    Tiles (s.offsetAt i) (s.tokens.extract i j).toList (s.offsetAt j) := by
  have hsplit : s.tokens.toList.drop i =
      (s.tokens.extract i j).toList ++ s.tokens.toList.drop j := by
    have hjoin := List.take_append_drop (j - i) (s.tokens.toList.drop i)
    rw [List.drop_drop, Nat.add_sub_cancel' hij] at hjoin
    rw [Array.toList_extract, List.extract_eq_take_drop, hjoin]
  have hdrop := h.tiles_drop i
  rw [hsplit] at hdrop
  obtain ⟨cut, hpart, hrest⟩ := hdrop.exists_append
  rwa [offsetAt_of_tiles_drop hrest]

theorem offsetAt_succ (h : s.Tiled) {i : Nat} {t : Token} (ht : s.tokens[i]? = some t) :
    s.offsetAt (i + 1) = t.span.stop := by
  obtain ⟨hi, rfl⟩ := Array.getElem?_eq_some_iff.mp ht
  have hdrop := h.tiles_drop i
  rw [List.drop_eq_getElem_cons (by simpa using hi)] at hdrop
  exact offsetAt_of_tiles_drop hdrop.2

theorem offsetAt_mono (h : s.Tiled) {i j : Nat} (hij : i ≤ j) : s.offsetAt i ≤ s.offsetAt j := by
  induction hij with
  | refl => exact Nat.le_refl _
  | @step j _ ih =>
    refine Nat.le_trans ih ?_
    by_cases hj : j < s.tokens.size
    · have ht := Array.getElem?_eq_getElem hj
      rw [h.offsetAt_succ ht, offsetAt_of_getElem? ht]
      exact Nat.le_add_right _ _
    · rw [Nat.not_lt] at hj
      exact Nat.le_of_eq
        ((offsetAt_of_size_le hj).trans (offsetAt_of_size_le (Nat.le_succ_of_le hj)).symm)

end Tiled

end TokenStream

end LuaFold
