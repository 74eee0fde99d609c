import Mathlib.Data.List.Induction
import Mathlib.Data.String.Basic
import LuaFold.Text.Scanner

/-! The longest run that a scanner reads, as a split of the list of characters to come. The split
says which characters are read and what is left of the list, and has no part in the offsets. -/

namespace LuaFold

variable {σ : Type} {step : σ → Char → Option σ} {s t : σ} {cs taken rest : List Char}

/-- `Munches step s taken rest t` says that from the state `s`, on the characters `taken` with
`rest` after them, the longest run that `step` accepts is `taken`, and ends in the state `t`. -/
structure Munches (step : σ → Char → Option σ) (s : σ) (taken rest : List Char) (t : σ) : Prop where
  accepts : taken.foldlM step s = some t
  stops : ∀ c ∈ rest.head?, step t c = none

/-- A run of one machine is a run of any machine that has its steps. -/
theorem foldlM_of_steps {step' : σ → Char → Option σ}
    (hsteps : ∀ {s c s'}, step s c = some s' → step' s c = some s')
    (h : taken.foldlM step s = some t) : taken.foldlM step' s = some t := by
  induction taken generalizing s with
  | nil => exact h
  | cons c taken ih =>
    rw [List.foldlM_cons, Option.bind_eq_bind, Option.bind_eq_some_iff] at h
    obtain ⟨s', hs, h⟩ := h
    rw [List.foldlM_cons, hsteps hs]
    exact ih h

namespace Munches

theorem exists_split (step : σ → Char → Option σ) (s : σ) (cs : List Char) :
    ∃ taken rest t, cs = taken ++ rest ∧ Munches step s taken rest t := by
  induction cs generalizing s with
  | nil => exact ⟨[], [], s, rfl, rfl, by simp⟩
  | cons c cs ih =>
    cases hs : step s c with
    | none =>
      refine ⟨[], c :: cs, s, rfl, rfl, ?_⟩
      intro c' hc'
      obtain rfl : c = c' := by simpa using hc'
      exact hs
    | some s' =>
      obtain ⟨taken, rest, t, rfl, haccepts, hstops⟩ := ih s'
      refine ⟨c :: taken, rest, t, rfl, ?_, hstops⟩
      rw [List.foldlM_cons, hs]
      exact haccepts

theorem cut {dropped : List Char} (h : Munches step s taken (rest ++ dropped) t) :
    Munches step s taken rest t := by
  refine ⟨h.accepts, fun c hc => h.stops c ?_⟩
  rw [List.head?_append, Option.mem_def.mp hc]
  rfl

/-- A run that ends at a character ends there whatever comes after that character. -/
theorem extend (h : Munches step s taken rest t) (hrest : rest ≠ []) (more : List Char) :
    Munches step s taken (rest ++ more) t := by
  refine ⟨h.accepts, fun c hc => h.stops c ?_⟩
  rwa [List.head?_append_of_ne_nil _ hrest] at hc

/-- No run that is accepted is longer. -/
theorem length_le {longer : List Char} (h : Munches step s taken rest t)
    (hinitial : longer <+: taken ++ rest) (haccepts : (longer.foldlM step s).isSome = true) :
    longer.length ≤ taken.length := by
  by_contra hlt
  obtain ⟨more, rfl⟩ : ∃ more, longer = taken ++ more :=
    (List.prefix_of_prefix_length_le (List.prefix_append taken rest) hinitial (by omega)).elim
      fun more hmore => ⟨more, hmore.symm⟩
  rw [List.prefix_append_right_inj] at hinitial
  cases more with
  | nil => simp at hlt
  | cons c more =>
    obtain ⟨tail, rfl⟩ := hinitial
    rw [List.foldlM_append, h.accepts] at haccepts
    simp [List.foldlM_cons, h.stops c (by simp)] at haccepts

/-- The longest run starts with any run that is accepted, and goes on from where that one ends. -/
theorem exists_append_of_accepts {s' : σ} {first : List Char} (h : Munches step s taken rest t)
    (hfirst : first.foldlM step s = some s') (hsplit : taken ++ rest = first ++ cs) :
    ∃ more, taken = first ++ more ∧ cs = more ++ rest ∧ Munches step s' more rest t := by
  have hinitial : first <+: taken ++ rest := ⟨cs, hsplit.symm⟩
  have hlength : first.length ≤ taken.length := h.length_le hinitial (by simp [hfirst])
  obtain ⟨more, rfl⟩ := List.prefix_of_prefix_length_le hinitial (List.prefix_append ..) hlength
  rw [List.append_assoc, List.append_cancel_left_eq] at hsplit
  have haccepts := h.accepts
  rw [List.foldlM_append, hfirst] at haccepts
  exact ⟨more, rfl, hsplit.symm, haccepts, h.stops⟩

theorem eq_nil_of_stops (h : Munches step s taken rest t)
    (hstops : ∀ c ∈ (taken ++ rest).head?, step s c = none) : taken = [] ∧ t = s := by
  have haccepts := h.accepts
  cases taken with
  | nil => exact ⟨rfl, (Option.some.inj haccepts).symm⟩
  | cons c taken =>
    rw [List.foldlM_cons, hstops c rfl] at haccepts
    cases haccepts

/-- A run that ends in a state that accepts every character has nothing after it. -/
theorem rest_eq_nil (h : Munches step s taken rest t) (hall : ∀ c, step t c ≠ none) : rest = [] := by
  cases rest with
  | nil => rfl
  | cons c rest => exact absurd (h.stops c rfl) (hall c)

/-- What each step keeps up, with one more character read, holds where the run ends. -/
theorem invariant {P : List Char → σ → Prop} (h : Munches step s taken rest t) (hstart : P [] s)
    (hstep : ∀ {read s c s'}, P read s → step s c = some s' → P (read ++ [c]) s') : P taken t := by
  have haccepts := h.accepts
  clear h
  induction taken using List.reverseRecOn generalizing t with
  | nil =>
    cases haccepts
    exact hstart
  | append_singleton taken c ih =>
    rw [List.foldlM_append, Option.bind_eq_bind, Option.bind_eq_some_iff] at haccepts
    obtain ⟨s', hs', hlast⟩ := haccepts
    simp only [List.foldlM_cons, List.foldlM_nil, bind_pure] at hlast
    exact hstep (ih hs') hlast

/-- A run in a state that keeps itself up over a class of characters reads the longest part of that
class. -/
theorem eq_takeWhile {p : Char → Bool} (h : Munches step s taken rest t)
    (hloop : ∀ c, step s c = if p c then some s else none) :
    t = s ∧ taken = (taken ++ rest).takeWhile p := by
  obtain ⟨rfl, htaken⟩ : t = s ∧ ∀ c ∈ taken, p c = true := by
    refine h.invariant (P := fun read s' => s' = s ∧ ∀ c ∈ read, p c = true) (by simp) ?_
    rintro read _ c s' ⟨rfl, hread⟩ hstep
    rw [hloop, Option.ite_none_right_eq_some, Option.some.injEq] at hstep
    obtain ⟨hc, rfl⟩ := hstep
    simpa [or_imp, forall_and, hc] using hread
  have hrest : rest.takeWhile p = [] := by
    cases rest with
    | nil => rfl
    | cons c rest =>
      have hstop := h.stops c rfl
      rw [hloop, ite_eq_right_iff] at hstop
      exact List.takeWhile_cons_of_neg fun hc => by simpa using hstop hc
  refine ⟨rfl, ?_⟩
  rw [List.takeWhile_append_of_pos htaken, hrest, List.append_nil]

end Munches

namespace Scanner

/-- The scanner after it has read `taken`, with `rest` left. -/
def past (sc : Scanner) (taken rest : List Char) : Scanner :=
  { sc with
    offset := sc.offset + String.utf8Len taken
    previous := taken.getLast?.or sc.previous
    lexeme := taken.reverse ++ sc.lexeme
    rest }

theorem past_nil (sc : Scanner) : sc.past [] sc.rest = sc := rfl

theorem advance_past {sc : Scanner} {c : Char} (h : sc.rest = c :: (taken ++ rest)) :
    sc.advance.past taken rest = sc.past (c :: taken) rest := by
  rw [advance, h]
  have hoffset : sc.offset + c.utf8Size + String.utf8Len taken =
      sc.offset + String.utf8Len (c :: taken) := by
    rw [String.utf8Len_cons]
    omega
  simp only [past, hoffset, List.getLast?_cons, List.reverse_cons, List.append_assoc]
  cases taken.getLast? <;> rfl

/-- The scanner reads the run that the split of its rest gives. -/
theorem munch_eq_past {sc : Scanner} (hrest : sc.rest = taken ++ rest)
    (h : Munches step s taken rest t) : sc.munch step s = (t, sc.past taken rest) := by
  induction taken generalizing s sc with
  | nil =>
    obtain rfl : s = t := Option.some.inj h.accepts
    obtain rfl : sc.rest = rest := hrest
    rw [past_nil]
    cases hcs : sc.rest with
    | nil => rw [munch_of_rest_nil step s hcs]
    | cons c cs =>
      have hstop : step s c = none := h.stops c (by simp [hcs])
      rw [munch_of_rest_cons step s hcs, hstop]
  | cons c taken ih =>
    have haccepts := h.accepts
    rw [List.foldlM_cons, Option.bind_eq_bind, Option.bind_eq_some_iff] at haccepts
    obtain ⟨s', hs, haccepts⟩ := haccepts
    rw [munch_of_rest_cons step s hrest, hs, ← advance_past hrest]
    exact ih (by rw [rest_advance, hrest]; rfl) ⟨haccepts, h.stops⟩

end Scanner

end LuaFold
