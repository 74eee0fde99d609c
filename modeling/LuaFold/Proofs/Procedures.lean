import LuaFold.Proofs.OwnMarkers

/-! Rules as procedures: at each cursor a rule has an answer and a list of operations, which are
about markers that it takes itself. Procedures are put together from smaller ones, and every rule of
the grammar is one. -/

namespace LuaFold

open Client

/-- A rule that is a function of the cursor: at each level and cursor it has an answer and a list of
operations, which are about its own markers. -/
structure Procedure where
  answer : Nat → Cursor → Bool
  ops : Nat → Cursor → List Op
  selfContained : ∀ level c, SelfContained (ops level c)

namespace Procedure

variable {p q : Procedure} {level : Nat} {c d : Cursor}

/-- The cursor after the rule. -/
def next (p : Procedure) (level : Nat) (c : Cursor) : Cursor :=
  (performAll ⟨c, [], 0⟩ (p.ops level c)).cursor

/-- How many markers the rule takes. -/
def takes (p : Procedure) (level : Nat) (c : Cursor) : Nat :=
  (p.ops level c).countP Op.opens

/-- What the rule answers, and the cursor after it. -/
def apply (p : Procedure) (level : Nat) (c : Cursor) : Bool × Cursor :=
  (p.answer level c, p.next level c)

/-- The rule sees the tokens, the place and the nodes, but neither which markers are open nor their
numbers, and it does not read the log. -/
def Blind (p : Procedure) : Prop :=
  ∀ level c d, c.Alike d →
    p.answer level c = p.answer level d ∧ p.ops level c = p.ops level d

theorem performAll_ops (p : Procedure) (level : Nat) (c : Cursor) (held : List Marker) (n : Nat) :
    performAll ⟨c, held, n⟩ (p.ops level c) = ⟨p.next level c, held, n + p.takes level c⟩ := by
  obtain ⟨-, hall, hlength⟩ := attemptAll_onto (a := ⟨c, [], 0⟩) (p.selfContained level c) held n
  obtain hnone := List.length_eq_zero_iff.mp hlength
  refine hall.trans ?_
  simp only [onto, hnone, List.nil_append, next, takes, taken_performAll, Nat.zero_add]

theorem stream_next (p : Procedure) (level : Nat) (c : Cursor) :
    (p.next level c).stream = c.stream :=
  (moves_performAll ⟨c, [], 0⟩ (p.ops level c)).stream_eq

theorem shrink_nodes_next (p : Procedure) (level : Nat) (c : Cursor) :
    (p.next level c).nodes.shrink c.nodes.size = c.nodes := by
  have hkeeps : Keeps c.nodes ⟨c, [], 0⟩ := ⟨List.prefix_refl _, List.forall_mem_nil _⟩
  exact (hkeeps.moves (moves_performAll _ (p.ops level c))).shrink_eq

/-- With enough numbers left, no marker is closed out of order. -/
theorem attemptAll_ops_eq_ok (p : Procedure) (level : Nat) {held : List Marker} {n : Nat}
    (hc : Numbered ⟨c, held, n⟩) (htaken : n + p.takes level c ≤ UInt32.size) :
    (∃ a, attemptAll ⟨c, [], 0⟩ (p.ops level c) = .ok a) ∧
      Numbered ⟨p.next level c, held, n + p.takes level c⟩ := by
  have hall := p.performAll_ops level c held n
  have hok : attemptAll ⟨c, held, n⟩ (p.ops level c) = .ok _ :=
    hc.attemptAll_eq_ok _ (by rw [hall]; exact htaken)
  refine ⟨?_, hall ▸ hc.moves (moves_performAll _ _) (by rw [hall]; exact htaken)⟩
  obtain ⟨hown, -, -⟩ := attemptAll_onto (a := ⟨c, [], 0⟩) (p.selfContained level c) held n
  obtain ⟨a, ha, -⟩ := exists_of_map_eq_ok (hown.symm.trans hok)
  exact ⟨a, ha⟩

/-! ### Procedures put together -/

/-- Answers without a look at the cursor. -/
def constant (answer : Bool) : Procedure where
  answer _ _ := answer
  ops _ _ := []
  selfContained _ _ := rfl

/-- Passes over tokens and reports a result. All of that is decided at the place of the cursor. -/
def walk (answer : Nat → TokenStream → Place → Bool) (steps : Nat → TokenStream → Place → Nat)
    (result : Nat → TokenStream → Place → SearchResult) : Procedure where
  answer level c := answer level c.stream c.place
  ops level c := List.replicate (steps level c.stream c.place) .advance ++
    [.report (result level c.stream c.place)]
  selfContained level c := by
    have hsteps (k : Nat) : (List.replicate k Op.advance).foldlM Op.ownAfter 0 = some 0 := by
      induction k with
      | zero => rfl
      | succ k ih => exact ih
    exact SelfContained.append (hsteps _) rfl

/-- Does as `p` where the test holds and as `q` elsewhere. -/
def branch (test : TokenStream → Place → Bool) (p q : Procedure) : Procedure where
  answer level c := if test c.stream c.place then p.answer level c else q.answer level c
  ops level c := if test c.stream c.place then p.ops level c else q.ops level c
  selfContained level c := by
    split
    · exact p.selfContained level c
    · exact q.selfContained level c

/-- Goes on with `q` if `p` succeeds. -/
def andThen (p q : Procedure) : Procedure where
  answer level c := p.answer level c && q.answer level (p.next level c)
  ops level c := p.ops level c ++ if p.answer level c then q.ops level (p.next level c) else []
  selfContained level c := by
    refine (p.selfContained level c).append ?_
    split
    · exact q.selfContained level _
    · rfl

/-- Takes a marker, does as `p`, and closes the marker, whether `p` succeeds or not. -/
def enclosed (p : Procedure) (left right : EdgeTrivia) (close : Op) (hclose : close.closes = true) :
    Procedure where
  answer level c := p.answer level c.mark.2
  ops level c := .mark :: .setEdges 0 left right :: (p.ops level c.mark.2 ++ [close])
  selfContained level c := by
    have hops := foldlM_ownAfter_add (p.selfContained level c.mark.2) 1
    show (p.ops level c.mark.2 ++ [close]).foldlM Op.ownAfter 1 = some 0
    rw [List.foldlM_append, hops]
    cases close with
    | rollback | release | finish _ _ => rfl
    | _ => cases hclose

/-- Does as `p` one level deeper. -/
def deeper (p : Procedure) : Procedure where
  answer level := p.answer (level + 1)
  ops level := p.ops (level + 1)
  selfContained level := p.selfContained (level + 1)

/-- Takes a marker, does as `p`, and goes back to the marker. -/
def lookAhead (p : Procedure) : Procedure :=
  p.enclosed default default .rollback (by decide)

/-- Does as `p` up to `k` times, until it fails. -/
def times (p : Procedure) : Nat → Procedure
  | 0 => constant true
  | k + 1 => p.andThen (p.times k)

theorem next_walk (answer : Nat → TokenStream → Place → Bool)
    (steps : Nat → TokenStream → Place → Nat) (result : Nat → TokenStream → Place → SearchResult)
    (level : Nat) (c : Cursor) :
    (walk answer steps result).next level c =
      { c with
        place := c.stream.skip (steps level c.stream c.place) c.place }.reportFailure
          (result level c.stream c.place) := by
  simp only [next, walk, performAll_append, performAll_advances]
  rfl

theorem apply_branch (test : TokenStream → Place → Bool) (p q : Procedure) (level : Nat)
    (c : Cursor) :
    (branch test p q).apply level c =
      if test c.stream c.place then p.apply level c else q.apply level c := by
  simp only [apply, next, branch]
  split <;> rfl

theorem apply_branch_current (kind : TokenKind) (p q : Procedure) (level : Nat) (c : Cursor) :
    (branch (fun s place => s.current place = kind) p q).apply level c =
      if c.current = kind then p.apply level c else q.apply level c := by
  rw [apply_branch, Cursor.current]
  simp only [decide_eq_true_eq]

theorem next_andThen (p q : Procedure) (level : Nat) (c : Cursor) :
    (p.andThen q).next level c =
      if p.answer level c then q.next level (p.next level c) else p.next level c := by
  rw [next, andThen, performAll_append, performAll_ops]
  split
  · rw [performAll_ops]
  · rfl

theorem next_enclosed (p : Procedure) (left right : EdgeTrivia) (close : Op)
    (hclose : close.closes = true) (level : Nat) (c : Cursor) :
    (p.enclosed left right close hclose).next level c =
      (perform ⟨p.next level c.mark.2, [c.mark.1.withEdges left right],
        1 + p.takes level c.mark.2⟩ close).cursor := by
  show (performAll ⟨c.mark.2, [c.mark.1.withEdges left right], 1⟩
    (p.ops level c.mark.2 ++ [close])).cursor = _
  rw [performAll_concat, performAll_ops]

theorem next_lookAhead (p : Procedure) (level : Nat) (c : Cursor) :
    p.lookAhead.next level c = (p.next level c.mark.2).rollback c.mark.1 :=
  p.next_enclosed default default .rollback (by decide) level c

/-- A rule that looks ahead leaves the cursor as it is. -/
theorem alike_next_lookAhead (p : Procedure) (level : Nat) (c : Cursor) :
    (p.lookAhead.next level c).Alike c := by
  rw [next_lookAhead]
  exact ⟨p.stream_next level c.mark.2, rfl, p.shrink_nodes_next level c.mark.2⟩

/-! ### Procedures that do not see the markers -/

namespace Blind

theorem alike_next (hp : p.Blind) (level : Nat) (h : c.Alike d) :
    (p.next level c).Alike (p.next level d) := by
  have hstart : Client.Alike ⟨c, [], 0⟩ ⟨d, [], 0⟩ := ⟨h, rfl⟩
  rw [next, next, (hp level c d h).2]
  exact (hstart.performAll _).cursor

theorem constant (answer : Bool) : (constant answer).Blind :=
  fun _ _ _ _ => ⟨rfl, rfl⟩

theorem walk (answer : Nat → TokenStream → Place → Bool) (steps : Nat → TokenStream → Place → Nat)
    (result : Nat → TokenStream → Place → SearchResult) : (walk answer steps result).Blind := by
  intro level c d h
  simp only [Procedure.walk, h.stream, h.place, and_self]

theorem branch (hp : p.Blind) (hq : q.Blind) (test : TokenStream → Place → Bool) :
    (branch test p q).Blind := by
  intro level c d h
  simp only [Procedure.branch, h.stream, h.place]
  split
  · exact hp level c d h
  · exact hq level c d h

theorem andThen (hp : p.Blind) (hq : q.Blind) : (p.andThen q).Blind := by
  intro level c d h
  obtain ⟨hanswer, hops⟩ := hp level c d h
  obtain ⟨hanswer', hops'⟩ := hq level _ _ (hp.alike_next level h)
  simp only [Procedure.andThen, hanswer, hops, hanswer', hops', and_self]

theorem enclosed (hp : p.Blind) (left right : EdgeTrivia) (close : Op)
    (hclose : close.closes = true) : (p.enclosed left right close hclose).Blind := by
  intro level c d h
  obtain ⟨hanswer, hops⟩ := hp level _ _ h.mark
  exact ⟨hanswer, congrArg (.mark :: .setEdges 0 left right :: · ++ [close]) hops⟩

theorem deeper (hp : p.Blind) : p.deeper.Blind :=
  fun level => hp (level + 1)

theorem lookAhead (hp : p.Blind) : p.lookAhead.Blind :=
  hp.enclosed default default .rollback (by decide)

theorem times (hp : p.Blind) : (k : Nat) → (p.times k).Blind
  | 0 => .constant true
  | k + 1 => hp.andThen (hp.times k)

end Blind

/-! ### Rules with a memory -/

/-- The rule does what the procedure says, whatever is in its memory. -/
def Governs {σ : Type} (p : Procedure) (rule : Nat → Cursor → σ → Id (Bool × Cursor × σ)) : Prop :=
  ∀ level c memory, ∃ memory', rule level c memory = (p.answer level c, p.next level c, memory')

variable {σ : Type} {rule : Nat → Cursor → σ → Id (Bool × Cursor × σ)}

theorem Governs.applyTimes (h : p.Governs rule) (level k : Nat) (c : Cursor) (memory : σ) :
    ∃ memory', Cursor.applyTimes (rule level) k c memory =
      ((p.times k).answer level c, (p.times k).next level c, memory') := by
  induction k generalizing c memory with
  | zero => exact ⟨memory, rfl⟩
  | succ k ih =>
    obtain ⟨memory₁, hrule⟩ := h level c memory
    obtain ⟨memory₂, hrest⟩ := ih (p.next level c) memory₁
    have hanswer : (p.times (k + 1)).answer level c =
        (p.answer level c && (p.times k).answer level (p.next level c)) := rfl
    rw [Cursor.applyTimes, hrule, times, next_andThen, ← times, hanswer]
    cases p.answer level c with
    | false => exact ⟨memory₁, rfl⟩
    | true => exact ⟨memory₂, hrest⟩

theorem Governs.probe (h : p.Governs rule) (level k : Nat) (c : Cursor) (memory : σ) :
    ∃ memory', c.probe .off rule level k memory =
      ((p.times k).lookAhead.answer level c, (p.times k).lookAhead.next level c, memory') := by
  obtain ⟨memory', happlied⟩ := h.applyTimes level k c.mark.2 memory
  refine ⟨memory', ?_⟩
  rw [Cursor.probe_off_eq happlied, next_lookAhead]
  rfl

/-! ### Rules of the grammar -/

/-- A search that passes over tokens is done by a procedure. -/
theorem exists_seek (search : Nat → TokenStream → Place → SearchResult × Place)
    (hsearch : ∀ level s p, ∃ k, (search level s p).2 = s.skip k p)
    (answer : SearchResult → Bool) (report : SearchResult → SearchResult) :
    ∃ p : Procedure, p.Blind ∧ ∀ level c,
      let (result, place) := search level c.stream c.place
      p.apply level c = (answer result, { c with place }.reportFailure (report result)) := by
  choose steps hsteps using hsearch
  refine ⟨walk (fun level s p => answer (search level s p).1) steps
    fun level s p => report (search level s p).1, .walk _ _ _, fun level c => ?_⟩
  rw [apply, next_walk, ← hsteps]
  rfl

/-- A step over a token is a procedure. -/
theorem exists_advance (answer : TokenStream → Place → Bool) :
    ∃ p : Procedure, p.Blind ∧ ∀ level c, p.apply level c = (answer c.stream c.place, c.advance) :=
  ⟨walk (fun _ => answer) (fun _ _ _ => 1) fun _ _ _ => .ok (), .walk _ _ _, fun _ _ => rfl⟩

/-- A look ahead for a closing delimiter is a procedure. -/
theorem exists_balanced (opener closer : TokenKind) :
    ∃ p : Procedure, p.Blind ∧ ∀ level c, p.apply level c =
      ((c.balanced opener closer).1.isOk, (c.balanced opener closer).2) := by
  obtain ⟨p, hblind, hp⟩ := exists_seek
    (fun _ s p => (if (s.seekBalance opener closer 1 p).1 then .ok () else
      .error (.unbalanced opener closer), (s.seekBalance opener closer 1 p).2))
    (fun _ s p => s.seekBalance_eq_skip opener closer 1 p) Except.isOk fun _ => .ok ()
  refine ⟨branch (fun s q => s.current q = opener) p.lookAhead (constant false),
    hblind.lookAhead.branch (.constant false) _, fun level c => ?_⟩
  obtain ⟨hanswer, hnext⟩ := Prod.mk.inj (hp level c.mark.2)
  rw [apply_branch_current, Cursor.balanced]
  split
  · rw [apply, next_lookAhead, hnext]
    exact congrArg (·, _) hanswer
  · rfl

/-- Folding a body is a procedure. -/
theorem exists_foldBody :
    ∃ p : Procedure, p.Blind ∧ ∀ level c, p.apply level c = (c.foldBody.1, c.foldBody.2) := by
  let opener (s : TokenStream) (p : Place) : TokenKind :=
    bodyOpener ((s.kindBefore? p.index).getD .eof)
  obtain ⟨p, hblind, hp⟩ := exists_seek (fun _ s p => s.seekBlockEnd 0 (opener s p) true p)
    (fun _ s p => s.seekBlockEnd_eq_skip 0 (opener s p) true p) (fun _ => true) id
  refine ⟨branch (fun s q => (s.kindBefore? q.index).isSome)
    (p.enclosed .inside .inside (.finish .block true) (by decide)) (constant true),
    (hblind.enclosed _ _ _ _).branch (.constant true) _, fun level c => ?_⟩
  rw [apply_branch, Cursor.foldBody]
  cases hkind : c.stream.kindBefore? c.place.index with
  | none => rfl
  | some kind =>
    have hopener : opener c.stream c.place = bodyOpener kind := by
      simp only [opener, hkind, Option.getD_some]
    obtain ⟨hanswer, hnext⟩ := Prod.mk.inj (hp level c.mark.2)
    have hseek : p.next level c.mark.2 =
        (c.mark.2.seekBlockEnd 0 (bodyOpener kind) true).2.reportFailure
          (c.mark.2.seekBlockEnd 0 (bodyOpener kind) true).1 := by
      rw [← hopener]
      exact hnext
    rw [Option.isSome_some, if_pos rfl, apply, next_enclosed, hseek]
    exact congrArg (·, _) hanswer

/-- Making a node of a name is a procedure. -/
theorem exists_name :
    ∃ p : Procedure, p.Blind ∧ ∀ level c, p.apply level c = Rule.applyName c := by
  obtain ⟨p, hblind, hp⟩ := exists_advance fun _ _ => true
  refine ⟨branch (fun s q => s.current q = .name)
    (p.enclosed default default (.finish .nameExpr false) (by decide))
    (constant false).lookAhead, (hblind.enclosed _ _ _ _).branch (Blind.constant false).lookAhead _,
    fun level c => ?_⟩
  have hname : Rule.applyName c = if c.current = .name
      then (true, c.mark.2.advance.finish c.mark.1 .nameExpr false)
      else (false, c.mark.2.rollback c.mark.1) := rfl
  obtain ⟨hanswer, hnext⟩ := Prod.mk.inj (hp level c.mark.2)
  rw [apply_branch_current, hname]
  split
  · rw [apply, next_enclosed, hnext]
    exact congrArg (·, _) hanswer
  · rfl

end Procedure

namespace Rule

/-- A rule that does as a procedure and writes its level down is governed by it. -/
theorem exists_procedure_of_apply {rule : Rule} {f : Nat → Cursor → Bool × Cursor}
    (h : ∃ p : Procedure, p.Blind ∧ ∀ level c, p.apply level c = f level c)
    (hrule : ∀ level c levels,
      rule.apply .off level c levels = ((f level c).1, (f level c).2, levels.push level)) :
    ∃ p : Procedure, p.Blind ∧ p.Governs (rule.apply .off) := by
  obtain ⟨p, hblind, hp⟩ := h
  refine ⟨p, hblind, fun level c levels => ⟨levels.push level, ?_⟩⟩
  rw [hrule, ← hp]
  rfl

mutual

/-- Every rule of the grammar is a function of the tokens, the place and the nodes, and closes its own
markers. -/
theorem exists_procedure :
    (rule : Rule) → ∃ p : Procedure, p.Blind ∧ p.Governs (rule.apply .off)
  | constant answer =>
    exists_procedure_of_apply ⟨.constant answer, .constant answer, fun _ _ => rfl⟩
      fun _ _ _ => by rw [apply]; rfl
  | advance =>
    exists_procedure_of_apply (Procedure.exists_advance fun s p => !s.atEnd p)
      fun _ _ _ => by rw [apply]; rfl
  | args =>
    exists_procedure_of_apply (Procedure.exists_balanced .leftParen .rightParen)
      fun _ _ _ => by rw [apply]; rfl
  | table =>
    exists_procedure_of_apply (Procedure.exists_balanced .leftBrace .rightBrace)
      fun _ _ _ => by rw [apply]; rfl
  | foldBody =>
    exists_procedure_of_apply Procedure.exists_foldBody fun _ _ _ => by rw [apply]; rfl
  | block =>
    exists_procedure_of_apply
      (Procedure.exists_seek (fun level s p => s.seekBlockEnd level (s.current p) false p)
        (fun level s p => s.seekBlockEnd_eq_skip level (s.current p) false p) Except.isOk
        fun _ => .ok ())
      fun _ _ _ => by rw [apply]; rfl
  | name =>
    exists_procedure_of_apply Procedure.exists_name fun _ _ _ => by rw [apply]; rfl
  | token kind => by
    obtain ⟨p, hblind, hp⟩ := Procedure.exists_advance fun _ _ => true
    refine exists_procedure_of_apply ⟨.branch (fun s p => s.current p = kind) p (.constant false),
      hblind.branch (.constant false) _, fun _ _ => rfl⟩ fun level c levels => ?_
    rw [Procedure.apply_branch_current, hp, apply]
    split <;> rfl
  | all rules => by
    obtain ⟨p, hblind, hp⟩ := exists_procedure_all rules
    refine ⟨p, hblind, fun level c levels => ?_⟩
    rw [apply]
    exact hp level c (levels.push level)
  | probe rule times => by
    obtain ⟨p, hblind, hp⟩ := exists_procedure rule
    refine ⟨(p.times times).lookAhead.deeper, (hblind.times times).lookAhead.deeper,
      fun level c levels => ?_⟩
    rw [apply]
    exact hp.probe (level + 1) times c (levels.push level)

theorem exists_procedure_all :
    (rules : List Rule) → ∃ p : Procedure, p.Blind ∧ p.Governs (applyAll .off rules)
  | [] => ⟨.constant true, .constant true, fun _ _ levels => ⟨levels, by rw [applyAll]; rfl⟩⟩
  | rule :: rules => by
    obtain ⟨p, hblind, hp⟩ := exists_procedure rule
    obtain ⟨q, hblind', hq⟩ := exists_procedure_all rules
    refine ⟨p.andThen q, hblind.andThen hblind', fun level c levels => ?_⟩
    obtain ⟨levels₁, hrule⟩ := hp level c levels
    obtain ⟨levels₂, hrest⟩ := hq level (p.next level c) levels₁
    have hanswer : (p.andThen q).answer level c =
        (p.answer level c && q.answer level (p.next level c)) := rfl
    rw [applyAll, hrule, Procedure.next_andThen, hanswer]
    cases p.answer level c with
    | false => exact ⟨levels₁, rfl⟩
    | true => exact ⟨levels₂, hrest⟩

end

end Rule

end LuaFold
