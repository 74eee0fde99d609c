import Mathlib.Algebra.Order.BigOperators.Group.Finset
import LuaFold.Proofs.Procedures

/-! A probe as an iteration: the cursors that a rule comes to one after another decide the answer,
the number of applications and the markers taken, and nothing of them is left when the probe is
over. The first of these cursors is the one with the marker of the probe open. -/

namespace LuaFold

open Client

/-- A rule with the level of each call written down. -/
def Cursor.recorded {F : Type → Type} [Monad F] {σ : Type}
    (rule : Nat → Cursor → σ → F (Bool × Cursor × σ)) (level : Nat) (c : Cursor)
    (memory : σ × List Nat) : F (Bool × Cursor × σ × List Nat) := do
  let (matched, c, kept) ← rule level c memory.1
  return (matched, c, kept, memory.2 ++ [level])

namespace Procedure

variable {p : Procedure} {level : Nat} {c d : Cursor}

/-! ### Applications in a row -/

/-- The cursor after `i` applications of the rule. -/
def state (p : Procedure) (level : Nat) (c : Cursor) (i : Nat) : Cursor :=
  (p.next level)^[i] c

/-- The application with this index succeeds. -/
def Succeeds (p : Procedure) (level : Nat) (c : Cursor) (i : Nat) : Prop :=
  p.answer level (p.state level c i) = true

instance (p : Procedure) (level : Nat) (c : Cursor) (i : Nat) : Decidable (p.Succeeds level c i) :=
  inferInstanceAs (Decidable (_ = true))

/-- How many times the rule is applied if the first failure ends that: up to `times`, and up to the
first application that fails. -/
def calls (p : Procedure) (level : Nat) (c : Cursor) (times : Nat) : Nat :=
  min times ((List.range times).findIdx (¬p.Succeeds level c ·) + 1)

theorem state_succ (p : Procedure) (level : Nat) (c : Cursor) (i : Nat) :
    p.state level c (i + 1) = p.next level (p.state level c i) :=
  Function.iterate_succ_apply' _ i c

theorem calls_succ (p : Procedure) (level : Nat) (c : Cursor) (k : Nat) :
    p.calls level c (k + 1) =
      if p.answer level c then p.calls level (p.next level c) k + 1 else 1 := by
  rw [calls, calls, List.range_succ_eq_map, List.findIdx_cons, List.findIdx_map]
  by_cases hfirst : p.Succeeds level c 0
  · have hanswer : p.answer level c = true := hfirst
    rw [decide_eq_false (not_not_intro hfirst), if_pos hanswer, cond_false, Nat.succ_min_succ]
    rfl
  · have hanswer : ¬p.answer level c = true := hfirst
    rw [decide_eq_true hfirst, if_neg hanswer, cond_true]
    exact Nat.min_eq_right (Nat.succ_pos k)

theorem answer_times_iff (p : Procedure) (level : Nat) (c : Cursor) (k : Nat) :
    (p.times k).answer level c = true ↔ ∀ i < k, p.Succeeds level c i := by
  induction k generalizing c with
  | zero => simp [times, constant]
  | succ k ih =>
    rw [Nat.forall_lt_succ_left, times, andThen, Bool.and_eq_true]
    exact and_congr_right fun _ => ih (p.next level c)

theorem takes_times_succ (p : Procedure) (level : Nat) (c : Cursor) (k : Nat) :
    (p.times (k + 1)).takes level c = p.takes level c +
      if p.answer level c then (p.times k).takes level (p.next level c) else 0 := by
  rw [takes, times, andThen, List.countP_append]
  split <;> rfl

theorem takes_times (p : Procedure) (level : Nat) (c : Cursor) (k : Nat) :
    (p.times k).takes level c =
      ∑ i ∈ Finset.range (p.calls level c k), p.takes level (p.state level c i) := by
  induction k generalizing c with
  | zero => rfl
  | succ k ih =>
    rw [calls_succ, takes_times_succ]
    split
    · rw [Finset.sum_range_succ', ih, Nat.add_comm]
      rfl
    · rw [Finset.sum_range_one]
      rfl

namespace Blind

theorem alike_state (hp : p.Blind) (level : Nat) (h : c.Alike d) (i : Nat) :
    (p.state level c i).Alike (p.state level d i) := by
  induction i with
  | zero => exact h
  | succ i ih =>
    rw [state_succ, state_succ]
    exact hp.alike_next level ih

theorem succeeds_iff (hp : p.Blind) (level : Nat) (h : c.Alike d) (i : Nat) :
    p.Succeeds level c i ↔ p.Succeeds level d i := by
  rw [Succeeds, Succeeds, (hp level _ _ (hp.alike_state level h i)).1]

theorem calls_eq (hp : p.Blind) (level : Nat) (h : c.Alike d) (k : Nat) :
    p.calls level c k = p.calls level d k := by
  simp only [calls, hp.succeeds_iff level h]

end Blind

/-! ### What a probe returns -/

variable {σ : Type} {rule : Nat → Cursor → σ → Id (Bool × Cursor × σ)}
  {checked : Nat → Cursor → σ → Except Fault (Bool × Cursor × σ)}

theorem Governs.recorded (h : p.Governs rule) : p.Governs (Cursor.recorded rule) := by
  intro level c memory
  obtain ⟨memory', hrule⟩ := h level c memory.1
  refine ⟨(memory', memory.2 ++ [level]), ?_⟩
  rw [Cursor.recorded, hrule]
  rfl

theorem Governs.levels_applyTimes (h : p.Governs rule) (level k : Nat) (c : Cursor)
    (memory : σ × List Nat) :
    (Cursor.applyTimes (Cursor.recorded rule level) k c memory).2.2.2 =
      memory.2 ++ List.replicate (p.calls level c k) level := by
  induction k generalizing c memory with
  | zero => exact (List.append_nil memory.2).symm
  | succ k ih =>
    obtain ⟨memory', hrule⟩ := h level c memory.1
    rw [Cursor.applyTimes, Cursor.recorded, hrule, calls_succ]
    cases p.answer level c with
    | false => rfl
    | true =>
      rw [if_pos rfl, List.replicate_succ]
      exact (ih (p.next level c) (memory', memory.2 ++ [level])).trans (List.append_assoc ..)

/-- A probe goes through the applications of the rule and back. -/
theorem Governs.exists_probe (h : p.Governs rule) (level k : Nat) (c : Cursor) (memory : σ) :
    ∃ memory', c.probe .off (Cursor.recorded rule) level k (memory, []) =
      ((p.times k).lookAhead.answer level c, (p.times k).lookAhead.next level c, memory',
        List.replicate (p.calls level c.mark.2 k) level) := by
  obtain ⟨⟨memory', levels⟩, hprobed⟩ := h.recorded.probe level k c (memory, [])
  obtain rfl : levels = List.replicate (p.calls level c.mark.2 k) level := by
    have hlevels := h.levels_applyTimes level k c.mark.2 (memory, [])
    exact (congrArg (·.2.2.2) hprobed).symm.trans hlevels
  exact ⟨memory', hprobed⟩

/-- `checked` is the rule with checks: it does the same, unless one of its markers would be closed out
of order. -/
def Checked (p : Procedure) (rule : Nat → Cursor → σ → Id (Bool × Cursor × σ))
    (checked : Nat → Cursor → σ → Except Fault (Bool × Cursor × σ)) : Prop :=
  ∀ level c memory a, attemptAll ⟨c, [], 0⟩ (p.ops level c) = .ok a →
    checked level c memory = .ok (rule level c memory)

namespace Checked

theorem recorded (h : p.Checked rule checked) :
    p.Checked (Cursor.recorded rule) (Cursor.recorded checked) := by
  intro level c memory a ha
  rw [Cursor.recorded, h level c memory.1 a ha]
  rfl

/-- With enough numbers left, none of the applications is refused. -/
theorem applyTimes (h : p.Checked rule checked) (hrule : p.Governs rule) (level : Nat) {k n : Nat}
    {held : List Marker} (hc : Numbered ⟨c, held, n⟩)
    (htaken : n + (p.times k).takes level c ≤ UInt32.size) (memory : σ) :
    Cursor.applyTimes (checked level) k c memory =
        .ok (Cursor.applyTimes (rule level) k c memory) ∧
      Numbered ⟨(p.times k).next level c, held, n + (p.times k).takes level c⟩ := by
  refine ⟨?_, ((p.times k).attemptAll_ops_eq_ok level hc htaken).2⟩
  induction k generalizing c n memory with
  | zero => rfl
  | succ k ih =>
    rw [takes_times_succ] at htaken
    obtain ⟨⟨a, ha⟩, hnext⟩ := p.attemptAll_ops_eq_ok level hc (by omega)
    obtain ⟨memory', happly⟩ := hrule level c memory
    rw [Cursor.applyTimes, Cursor.applyTimes, h level c memory a ha, happly]
    cases hanswer : p.answer level c with
    | false => rfl
    | true =>
      rw [hanswer, if_pos rfl] at htaken
      exact ih hnext (by omega) memory'

/-- With enough numbers left, a probe is not refused. -/
theorem probe (h : p.Checked rule checked) (hrule : p.Governs rule) (level : Nat) {k n : Nat}
    {held : List Marker} (hc : Numbered ⟨c, held, n⟩)
    (htaken : n + 1 + (p.times k).takes level c.mark.2 ≤ UInt32.size) (memory : σ) :
    c.probe .on checked level k memory = .ok (c.probe .off rule level k memory) ∧
      (c.probe .off rule level k memory).2.1.openMarkers = c.openMarkers := by
  have hmark : Numbered ⟨c.mark.2, c.mark.1 :: held, n + 1⟩ :=
    hc.move (.mark c held n) (by simp only; omega)
  obtain ⟨hall, hlast⟩ := h.applyTimes hrule level hmark htaken memory
  obtain ⟨memory', happlied⟩ := hrule.applyTimes level k c.mark.2 memory
  have hinnermost : ((p.times k).next level c.mark.2).requireInnermost c.mark.1 = .ok () := by
    rw [Cursor.requireInnermost, if_pos hlast.isInnermost_eq_true]
  refine ⟨?_, ?_⟩
  · rw [Cursor.probe_eq_bind, hall, Cursor.probe_off_eq happlied, happlied]
    show ((((p.times k).next level c.mark.2).requireInnermost c.mark.1).bind _) = _
    rw [hinnermost]
    rfl
  · rw [Cursor.probe_off_eq happlied]
    have hback := hlast.move (.rollback _ [] c.mark.1 held _) htaken
    exact hback.stack.trans hc.stack.symm

end Checked

end Procedure

namespace Client

/-- A probe with a rule that is a function of the cursor. The rule is applied at one cursor after
another, from the one with the marker of the probe open, each time at the level of the probe, up to
the first application that fails, and the probe succeeds if none fails. The cursor is then where it
was, with the nodes that it had. To a rule that does not see the markers the first cursor is the one
before the probe. As long as no marker number is handed out twice, the markers open are the ones that
were open before, and the checks refuse nothing. -/
theorem probe_iterates {s : TokenStream} {history : List Act} {c : Cursor} {held : List Marker}
    {n : Nat} {σ : Type} {rule : Nat → Cursor → σ → Id (Bool × Cursor × σ)}
    {checked : Nat → Cursor → σ → Except Fault (Bool × Cursor × σ)} {p : Procedure}
    (hrun : Run (.ofStream s) history ⟨c, held, n⟩) (hrule : p.Governs rule)
    (hchecked : p.Checked rule checked) (level times : Nat) (memory : σ) :
    let first := c.mark.2
    let calls := p.calls level first times
    ∃ matched after memory',
      c.probe .off (Cursor.recorded rule) level times (memory, []) =
        (matched, after, memory', List.replicate calls level) ∧
      (matched = true ↔ ∀ i < times, p.Succeeds level first i) ∧ after.Alike c ∧
      (p.Blind → calls = p.calls level c times ∧
        ∀ i, p.Succeeds level first i ↔ p.Succeeds level c i) ∧
      (n + 1 + ∑ i ∈ Finset.range calls, p.takes level (p.state level first i) ≤ UInt32.size →
        after.openMarkers = c.openMarkers ∧
        c.probe .on (Cursor.recorded checked) level times (memory, []) =
          .ok (matched, after, memory', List.replicate calls level)) := by
  intro first calls
  obtain ⟨memory', hprobed⟩ := hrule.exists_probe level times c memory
  have halike : first.Alike c := c.alike_mark.symm
  refine ⟨_, _, memory', hprobed, p.answer_times_iff level first times,
    Procedure.alike_next_lookAhead _ level c,
    fun hblind => ⟨hblind.calls_eq level halike times, hblind.succeeds_iff level halike⟩,
    fun htaken => ?_⟩
  have hnumbered : Numbered ⟨c, held, n⟩ :=
    (Numbered.ofStream s).moves hrun.moves (by simp only; omega)
  rw [← p.takes_times level first times] at htaken
  obtain ⟨hok, hopen⟩ :=
    hchecked.recorded.probe hrule.recorded level hnumbered htaken (memory, [])
  rw [hprobed] at hok hopen
  exact ⟨hopen, hok⟩

/-- A name that is followed by another one becomes a node, again and again. -/
theorem probe_iterates_name :
    let s : TokenStream := ⟨"x a b", #[⟨.name, 0, 1⟩, ⟨.whitespace, 1, 1⟩, ⟨.name, 2, 1⟩,
      ⟨.whitespace, 3, 1⟩, ⟨.name, 4, 1⟩]⟩
    let step := Procedure.walk (fun _ _ _ => true) (fun _ _ _ => 1) fun _ _ _ => .ok ()
    let name := Procedure.branch (fun s q => s.current q = .name)
      (step.enclosed default default (.finish .nameExpr false) (by decide)) (.constant false)
    let p := name.andThen name.lookAhead
    let rule (level : Nat) (c : Cursor) (_ : Unit) : Id (Bool × Cursor × Unit) :=
      return (p.answer level c, p.next level c, ())
    let checked (level : Nat) (c : Cursor) (_ : Unit) : Except Fault (Bool × Cursor × Unit) :=
      (attemptAll ⟨c, [], 0⟩ (p.ops level c)).map fun a => (p.answer level c, a.cursor, ())
    ∃ c : Cursor, Run (.ofStream s) [.mark, .advance, .finish 0 .nameExpr false] ⟨c, [], 1⟩ ∧
      p.Governs rule ∧ p.Checked rule checked ∧ p.Blind ∧
      p.Succeeds 7 c 0 ∧ ¬p.Succeeds 7 c 1 ∧ (p.state 7 c 2).nodes.size = 3 ∧
      ∃ after, c.probe .off (Cursor.recorded rule) 7 5 ((), []) = (false, after, (), [7, 7]) ∧
        c.probe .on (Cursor.recorded checked) 7 5 ((), []) = .ok (false, after, (), [7, 7]) ∧
        after.place = c.place ∧ after.openMarkers = c.openMarkers ∧
        after.nodes.toList = [⟨.nameExpr, false, 0, 1, 0, 1⟩] := by
  intro s step name p rule checked
  let c₀ := Cursor.ofStream s
  let c := c₀.mark.2.advance.finish c₀.mark.1 .nameExpr false
  have hrun : Run (.ofStream s) [.mark, .advance, .finish 0 .nameExpr false] ⟨c, [], 1⟩ :=
    .cons (.mark c₀ [] 0) <| .cons (.advance c₀.mark.2 [c₀.mark.1] 1) <|
      .cons (.finish c₀.mark.2.advance [] c₀.mark.1 [] 1 .nameExpr false) <| .nil _
  have hrule : p.Governs rule := fun _ _ _ => ⟨(), rfl⟩
  have hchecked : p.Checked rule checked := by
    intro level c memory a ha
    simp only [checked, ha, eq_performAll_of_attemptAll ha]
    rfl
  have hname : name.Blind := ((Procedure.Blind.walk _ _ _).enclosed _ _ _ _).branch (.constant _) _
  have hblind : p.Blind := hname.andThen hname.lookAhead
  have hfails : ¬p.Succeeds 7 c 1 := by decide +kernel
  have hcalls : p.calls 7 c.mark.2 5 = 2 := by decide +kernel
  obtain ⟨matched, after, _, hprobed, hmatched, halike, hsame, hnumbers⟩ :=
    probe_iterates hrun hrule hchecked 7 5 ()
  have htaken : 1 + 1 + ∑ i ∈ Finset.range (p.calls 7 c.mark.2 5),
      p.takes 7 (p.state 7 c.mark.2 i) ≤ UInt32.size := by
    decide +kernel
  obtain ⟨hopen, hgranted⟩ := hnumbers htaken
  obtain rfl : matched = false := by
    rw [← Bool.not_eq_true, hmatched]
    exact fun hall => hfails (((hsame hblind).2 1).mp (hall 1 (by decide)))
  rw [hcalls] at hprobed hgranted
  refine ⟨c, hrun, hrule, hchecked, hblind, by decide +kernel, hfails, by decide +kernel, after,
    hprobed, hgranted, halike.place, hopen, ?_⟩
  rw [halike.nodes]
  decide +kernel

/-- A rule sees the marker of the probe among the open ones, where it saw none before. And a rule that
succeeds wherever it is applied is refused in the end, since the numbers of its markers come again. -/
theorem probe_sees_own_marker :
    let s : TokenStream := ⟨"()", #[⟨.leftParen, 0, 1⟩, ⟨.rightParen, 1, 1⟩]⟩
    let c := Cursor.ofStream s
    let unmarked : Procedure := ⟨fun _ c => c.openMarkers.isEmpty, fun _ _ => [], fun _ _ => rfl⟩
    let rule (level : Nat) (c : Cursor) (_ : Unit) : Id (Bool × Cursor × Unit) :=
      return (unmarked.answer level c, unmarked.next level c, ())
    unmarked.Governs rule ∧ (∀ i, unmarked.Succeeds 0 c i) ∧ (c.probe .off rule 0 1 ()).1 = false ∧
      ∃ args : Procedure, args.Governs (Rule.args.apply .off) ∧ (∀ i, args.Succeeds 0 c i) ∧
        c.probe .on (Rule.args.apply .on) 0 4294967296 #[] = .error .outOfOrder := by
  intro s c unmarked rule
  have hcurrent : c.current = .leftParen := by decide +kernel
  have hclosed : (c.stream.seekBalance .leftParen .rightParen 1 c.place).1 = true := by
    decide +kernel
  obtain ⟨args, hblind, hargs⟩ := Rule.exists_procedure .args
  have happly (d : Cursor) (hd : d.Alike c) : args.answer 0 d = true ∧ (args.next 0 d).Alike c := by
    obtain ⟨levels, hrule⟩ := hargs 0 d #[]
    have hstarts : Rule.args.apply .off 0 d #[] = (true, d.mark.2.release d.mark.1, #[0]) := by
      rw [Rule.apply, Cursor.startsArgs_of_closed (hd.current.trans hcurrent)
        (by rw [hd.stream, hd.place]; exact hclosed)]
      rfl
    have hsame := hrule.symm.trans hstarts
    have hnext : args.next 0 d = d.mark.2.release d.mark.1 := congrArg (·.2.1) hsame
    exact ⟨congrArg (·.1) hsame, hnext ▸ ⟨hd.stream, hd.place, hd.nodes⟩⟩
  have hstate (i : Nat) : (args.state 0 c i).Alike c := by
    induction i with
    | zero => exact ⟨rfl, rfl, rfl⟩
    | succ i ih =>
      rw [Procedure.state_succ]
      exact (happly _ ih).2
  have hunmarked (i : Nat) : unmarked.state 0 c i = c := by
    induction i with
    | zero => rfl
    | succ i ih =>
      rw [Procedure.state_succ, ih]
      rfl
  refine ⟨fun _ _ _ => ⟨(), rfl⟩, fun i => ?_, rfl, args, hargs,
    fun i => (happly _ (hstate i)).1, Cursor.probe_args_eq_error hcurrent hclosed rfl rfl 0 #[]⟩
  rw [Procedure.Succeeds, hunmarked]
  rfl

end Client

end LuaFold
