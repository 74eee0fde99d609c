import LuaFold.Proofs.Alike
import LuaFold.Proofs.MarkerNumbers

/-! Operations that are about markers which they take themselves. What they do depends neither on
the markers held before nor on how many were taken, and on a cursor that differs in marker numbers
only they do the same. -/

namespace LuaFold

section Except

variable {ε α β : Type} {x : Except ε α} {b : β}

theorem exists_of_bind_eq_ok {f : α → Except ε β} (h : x.bind f = .ok b) :
    ∃ a, x = .ok a ∧ f a = .ok b := by
  cases x with
  | error e => cases h
  | ok a => exact ⟨a, rfl, h⟩

theorem exists_of_map_eq_ok {f : α → β} (h : x.map f = .ok b) : ∃ a, x = .ok a ∧ f a = b := by
  cases x with
  | error e => cases h
  | ok a => exact ⟨a, rfl, Except.ok.inj h⟩

end Except

namespace Client

/-! ### Operations of one's own -/

/-- How many of the markers that were taken since some moment are held after an operation, if `own`
are held before it. There is no answer if the operation is about an older marker. -/
def Op.ownAfter (own : Nat) : Op → Option Nat
  | .advance | .report _ => some own
  | .mark => some (own + 1)
  | .setEdges depth _ _ => if depth < own then some own else none
  | .rollback | .release | .finish _ _ => if 0 < own then some (own - 1) else none

/-- The operations are about markers that they take themselves, and close all of these. -/
def SelfContained (ops : List Op) : Prop :=
  ops.foldlM Op.ownAfter 0 = some 0

/-- Operations that have enough markers of their own have enough when there are `more`. -/
theorem foldlM_ownAfter_add {ops : List Op} {own own' : Nat}
    (h : ops.foldlM Op.ownAfter own = some own') (more : Nat) :
    ops.foldlM Op.ownAfter (own + more) = some (own' + more) := by
  induction ops generalizing own with
  | nil =>
    cases h
    rfl
  | cons op ops ih =>
    rw [List.foldlM_cons] at h
    obtain ⟨own₁, hop, hops⟩ := Option.bind_eq_some_iff.mp h
    have hmore : op.ownAfter (own + more) = some (own₁ + more) := by
      cases op with
      | advance | report _ =>
        cases hop
        rfl
      | mark =>
        cases hop
        exact congrArg some (Nat.add_right_comm own more 1)
      | setEdges depth left right =>
        obtain ⟨hdepth, hown⟩ := Option.ite_none_right_eq_some.mp hop
        cases hown
        exact if_pos (Nat.lt_add_right more hdepth)
      | rollback | release | finish _ _ =>
        obtain ⟨hown, hown'⟩ := Option.ite_none_right_eq_some.mp hop
        cases hown'
        refine (if_pos (Nat.add_pos_left hown more)).trans ?_
        rw [Nat.sub_add_comm hown]
    rw [List.foldlM_cons, hmore]
    exact ih hops

theorem SelfContained.append {ops ops' : List Op} (h : SelfContained ops)
    (h' : SelfContained ops') : SelfContained (ops ++ ops') := by
  have hops : ops.foldlM Op.ownAfter 0 = some 0 := h
  rw [SelfContained, List.foldlM_append, hops]
  exact h'

/-- The operation takes a marker. -/
def Op.opens : Op → Bool
  | .mark => true
  | _ => false

theorem taken_performAll (a : Client) (ops : List Op) :
    (a.performAll ops).taken = a.taken + ops.countP Op.opens := by
  induction ops generalizing a with
  | nil => rfl
  | cons op ops ih =>
    have hop : (a.perform op).taken = a.taken + [op].countP Op.opens := by
      cases op with
      | rollback | release | finish _ _ =>
        simp only [perform, closeInnermost]
        split <;> rfl
      | _ => rfl
    show ((a.perform op).performAll ops).taken = _
    rw [ih, hop, Nat.add_assoc, ← List.countP_append, List.singleton_append]

/-- The client with markers `older` below those that it holds, and `n` markers taken before. -/
def onto (a : Client) (older : List Marker) (n : Nat) : Client :=
  ⟨a.cursor, a.held ++ older, n + a.taken⟩

variable {a : Client} {op : Op} {ops : List Op} {own : Nat}

theorem Op.perform_onto (hown : op.ownAfter a.held.length = some own) (older : List Marker)
    (n : Nat) :
    (a.onto older n).perform op = (a.perform op).onto older n ∧
      (a.perform op).held.length = own := by
  obtain ⟨c, held, k⟩ := a
  cases op with
  | advance | mark | report _ =>
    cases hown
    exact ⟨rfl, rfl⟩
  | setEdges depth left right =>
    obtain ⟨hdepth, hown⟩ := Option.ite_none_right_eq_some.mp hown
    cases hown
    refine ⟨?_, List.length_modify _ _ _⟩
    obtain ⟨inner, m, outer, rfl, rfl, hmodify⟩ :=
      List.exists_of_modify (·.withEdges left right) hdepth
    have hmodify' := modify_append_cons inner m (outer ++ older) (·.withEdges left right)
    simp only [onto, perform, hmodify, hmodify', List.append_assoc, List.cons_append]
  | rollback | release | finish _ _ =>
    obtain ⟨hheld, hown⟩ := Option.ite_none_right_eq_some.mp hown
    cases hown
    cases held with
    | nil => exact absurd hheld (Nat.lt_irrefl 0)
    | cons m held => exact ⟨rfl, rfl⟩

theorem Op.check_onto (hown : op.ownAfter a.held.length = some own) (older : List Marker)
    (n : Nat) :
    (a.onto older n).check op = a.check op := by
  obtain ⟨c, held, k⟩ := a
  cases held with
  | cons m held => rfl
  | nil =>
    have hop : op.closes = false := by cases op <;> first | rfl | cases hown
    cases older <;> simp [onto, check, hop]

/-! ### Runs with the order of markers checked -/

theorem attemptAll_cons (a : Client) (op : Op) (ops : List Op) :
    a.attemptAll (op :: ops) = (a.check op).bind fun _ => (a.perform op).attemptAll ops := by
  rw [attemptAll, List.foldlM_cons]
  show (a.attempt op).bind _ = _
  rw [attempt]
  cases a.check op <;> rfl

theorem eq_performAll_of_attemptAll {b : Client} (h : a.attemptAll ops = .ok b) :
    b = a.performAll ops := by
  induction ops generalizing a with
  | nil => exact (Except.ok.inj h).symm
  | cons op ops ih =>
    rw [attemptAll_cons] at h
    obtain ⟨_, -, hrest⟩ := exists_of_bind_eq_ok h
    exact ih hrest

/-- Operations that are about their own markers do not depend on older ones. -/
theorem attemptAll_onto (hown : ops.foldlM Op.ownAfter a.held.length = some own)
    (older : List Marker) (n : Nat) :
    (a.onto older n).attemptAll ops = (a.attemptAll ops).map (·.onto older n) ∧
      (a.onto older n).performAll ops = (a.performAll ops).onto older n ∧
      (a.performAll ops).held.length = own := by
  induction ops generalizing a with
  | nil =>
    cases hown
    exact ⟨rfl, rfl, rfl⟩
  | cons op ops ih =>
    rw [List.foldlM_cons] at hown
    obtain ⟨own₁, hop, hops⟩ := Option.bind_eq_some_iff.mp hown
    obtain ⟨hperform, rfl⟩ := op.perform_onto hop older n
    obtain ⟨hattempt, hall, hlength⟩ := ih hops
    refine ⟨?_, ?_, hlength⟩
    · rw [attemptAll_cons, attemptAll_cons, Op.check_onto hop, hperform, hattempt]
      cases a.check op <;> rfl
    · show ((a.onto older n).perform op).performAll ops = _
      rw [hperform, hall]
      rfl

/-- With numbers left, no operation is refused. -/
theorem Numbered.attemptAll_eq_ok (ha : Numbered a) (ops : List Op)
    (htaken : (a.performAll ops).taken ≤ UInt32.size) :
    a.attemptAll ops = .ok (a.performAll ops) := by
  induction ops generalizing a with
  | nil => rfl
  | cons op ops ih =>
    have hcheck : a.check op = .ok () := InStep.check_eq_ok ha.stack op
    have hle := ((a.perform op).moves_performAll ops).taken_le
    rw [attemptAll_cons, hcheck]
    exact ih (ha.moves (a.moves_perform op) (Nat.le_trans hle htaken)) htaken

/-! ### Alike cursors -/

theorem Alike.perform {b : Client} (h : Alike a b) (op : Op) :
    Alike (a.perform op) (b.perform op) := by
  obtain ⟨c, held, k⟩ := a
  obtain ⟨d, held', k'⟩ := b
  obtain ⟨hcursor, hheld⟩ := h
  have close (act : Cursor → Marker → Cursor) (hact : ∀ {m m' : Marker},
      m.unnumbered = m'.unnumbered → (act c m).Alike (act d m')) :
      Alike (closeInnermost act ⟨c, held, k⟩) (closeInnermost act ⟨d, held', k'⟩) := by
    cases held with
    | nil =>
      obtain rfl : held' = [] := List.map_eq_nil_iff.mp hheld.symm
      exact ⟨hcursor, rfl⟩
    | cons m held =>
      obtain ⟨m', held', rfl, hm, hheld⟩ := List.map_eq_cons_iff.mp hheld.symm
      exact ⟨hact hm.symm, hheld.symm⟩
  cases op with
  | advance => exact ⟨hcursor.advance, hheld⟩
  | mark => exact ⟨hcursor.mark, by simp [Client.perform, hcursor.unnumbered_mark, hheld]⟩
  | setEdges depth left right =>
    refine ⟨hcursor, ?_⟩
    let edges (m : Marker) := m.withEdges left right
    have hmodify (l : List Marker) :=
      map_modify (f := Marker.unnumbered) (g := edges) (h := edges) (fun _ => rfl) l depth
    exact (hmodify held).trans (hheld ▸ (hmodify held').symm)
  | rollback => exact close Cursor.rollback hcursor.rollback
  | release => exact close Cursor.release fun _ => hcursor.release
  | finish kind collapsed =>
    exact close (fun c m => c.finish m kind collapsed) fun hm => hcursor.finish hm kind collapsed
  | report result => exact ⟨hcursor.reportFailure result, hheld⟩

theorem Alike.performAll {b : Client} (h : Alike a b) (ops : List Op) :
    Alike (a.performAll ops) (b.performAll ops) := by
  induction ops generalizing a b with
  | nil => exact h
  | cons op ops ih => exact ih (h.perform op)

end Client

end LuaFold
