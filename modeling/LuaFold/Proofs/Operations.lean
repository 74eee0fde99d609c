import LuaFold.Proofs.Client
import LuaFold.Proofs.FoldedBody

/-! What the operations of a client are made of. If the client closes the innermost marker first,
that is a list of primitive operations with one outcome each, and every such list is a run. -/

namespace LuaFold

theorem TokenStream.seekBalance_eq_skip (s : TokenStream) (opener closer : TokenKind) (depth : Nat)
    (p : Place) : ∃ n, (s.seekBalance opener closer depth p).2 = s.skip n p := by
  fun_induction seekBalance s opener closer depth p with
  | case1 => exact ⟨0, rfl⟩
  | case2 => exact ⟨1, rfl⟩
  | case3 depth p _ _ _ _ _ _ ih =>
    obtain ⟨n, hn⟩ := ih
    exact ⟨n + 1, hn⟩

namespace Cursor

variable {F : Type → Type} [Monad F] {σ : Type}

/-- A probe in steps: the applications of the rule, the check of its own marker, and the way back. -/
theorem probe_eq_bind (checks : Checks F) (rule : Nat → Cursor → σ → F (Bool × Cursor × σ))
    (level times : Nat) (c : Cursor) (memory : σ) :
    c.probe checks rule level times memory =
      applyTimes (rule level) times c.mark.2 memory >>= fun r =>
        checks.innermost r.2.1 c.mark.1 >>= fun _ => pure (r.1, r.2.1.rollback c.mark.1, r.2.2) :=
  rfl

/-- Without checks, a probe always goes back to its own marker. -/
theorem probe_off_eq {rule : Nat → Cursor → σ → Id (Bool × Cursor × σ)} {level times : Nat}
    {c last : Cursor} {memory memory' : σ} {matched : Bool}
    (happlied : applyTimes (rule level) times c.mark.2 memory = (matched, last, memory')) :
    c.probe .off rule level times memory = (matched, last.rollback c.mark.1, memory') := by
  rw [probe_eq_bind, happlied]
  rfl

theorem eq_rollback_of_probe {rule : Nat → Cursor → σ → Id (Bool × Cursor × σ)} {level times : Nat}
    {c last c' : Cursor} {memory memory' : σ} {matched : Bool}
    (happlied : applyTimes (rule level) times c.mark.2 memory = (matched, last, memory'))
    (hprobed : c.probe .off rule level times memory = (matched, c', memory')) :
    c' = last.rollback c.mark.1 :=
  congrArg (·.2.1) (hprobed.symm.trans (probe_off_eq happlied))

end Cursor

namespace Client

/-! ### Primitive operations -/

/-- What a client does that closes the innermost of its markers first. -/
inductive Op
  | advance
  | mark
  | setEdges (depth : Nat) (left right : EdgeTrivia)
  | rollback
  | release
  | finish (kind : NodeKind) (collapsed : Bool)
  | report (result : SearchResult)

/-- The operation closes a marker. -/
def Op.closes : Op → Bool
  | rollback | release | finish _ _ => true
  | advance | mark | setEdges _ _ _ | report _ => false

/-- The client after `act` has closed its innermost marker, if it holds one. -/
def closeInnermost (act : Cursor → Marker → Cursor) (a : Client) : Client :=
  match a.held with
  | [] => a
  | m :: held => { a with cursor := act a.cursor m, held }

/-- The client after an operation. -/
def perform (a : Client) : Op → Client
  | .advance => { a with cursor := a.cursor.advance }
  | .mark => ⟨a.cursor.mark.2, a.cursor.mark.1 :: a.held, a.taken + 1⟩
  | .setEdges depth left right =>
    { a with held := a.held.modify depth (·.withEdges left right) }
  | .rollback => a.closeInnermost Cursor.rollback
  | .release => a.closeInnermost Cursor.release
  | .finish kind collapsed => a.closeInnermost fun c m => c.finish m kind collapsed
  | .report result => { a with cursor := a.cursor.reportFailure result }

/-- The client after operations, one after another. -/
def performAll (a : Client) (ops : List Op) : Client :=
  ops.foldl perform a

theorem performAll_append (a : Client) (ops ops' : List Op) :
    a.performAll (ops ++ ops') = (a.performAll ops).performAll ops' :=
  List.foldl_append

theorem performAll_concat (a : Client) (ops : List Op) (op : Op) :
    a.performAll (ops ++ [op]) = (a.performAll ops).perform op :=
  a.performAll_append ops [op]

theorem modify_append_cons (inner : List Marker) (m : Marker) (outer : List Marker)
    (f : Marker → Marker) :
    (inner ++ m :: outer).modify inner.length f = inner ++ f m :: outer := by
  induction inner with
  | nil => rfl
  | cons m' inner ih => simpa using ih

theorem moves_perform (a : Client) (op : Op) : Moves a (a.perform op) := by
  obtain ⟨c, held, n⟩ := a
  cases op with
  | advance => exact .single (.advance c held n)
  | mark => exact .single (.mark c held n)
  | setEdges depth left right =>
    by_cases hdepth : depth < held.length
    · obtain ⟨inner, m, outer, rfl, rfl, hmodify⟩ :=
        List.exists_of_modify (·.withEdges left right) hdepth
      simp only [perform, hmodify]
      exact .single (.setEdges c inner m outer n left right)
    · rw [perform, List.modify_eq_self (Nat.not_lt.mp hdepth)]
  | rollback =>
    cases held with
    | nil => exact .refl
    | cons m held => exact .single (.rollback c [] m held n)
  | release =>
    cases held with
    | nil => exact .refl
    | cons m held => exact .single (.release c [] m held n)
  | finish kind collapsed =>
    cases held with
    | nil => exact .refl
    | cons m held => exact .single (.finish c [] m held n kind collapsed)
  | report result => exact .single (.report c result held n)

theorem moves_performAll (a : Client) (ops : List Op) : Moves a (a.performAll ops) := by
  induction ops generalizing a with
  | nil => exact .refl
  | cons op ops ih => exact (a.moves_perform op).trans (ih (a.perform op))

theorem performAll_advances (k : Nat) (c : Cursor) (held : List Marker) (n : Nat) :
    performAll ⟨c, held, n⟩ (List.replicate k .advance) =
      ⟨{ c with place := c.stream.skip k c.place }, held, n⟩ := by
  induction k generalizing c with
  | zero => rfl
  | succ k ih => exact ih c.advance

theorem exists_ops_balanced (c : Cursor) (n : Nat) (opener closer : TokenKind) :
    ∃ ops, ∀ held, performAll ⟨c, held, n⟩ ops =
      ⟨(c.balanced opener closer).2, held, if c.current = opener then n + 1 else n⟩ := by
  unfold Cursor.balanced
  split
  · obtain ⟨k, hk⟩ := c.stream.seekBalance_eq_skip opener closer 1 c.place
    refine ⟨.mark :: (List.replicate k .advance ++ [.rollback]), fun held => ?_⟩
    show performAll ⟨c.mark.2, c.mark.1 :: held, n + 1⟩ _ = _
    rw [performAll_concat, performAll_advances]
    have hplace : c.mark.2.stream.skip k c.mark.2.place =
        (c.stream.seekBalance opener closer 1 c.place).2 := hk.symm
    rw [hplace]
    rfl
  · exact ⟨[], fun _ => rfl⟩

theorem exists_ops_seekEnd (c : Cursor) (n level : Nat) (construct : Construct)
    (advanced : Bool) :
    ∃ ops, ∀ held, performAll ⟨c, held, n⟩ ops =
      ⟨(c.seekEnd level construct advanced).2, held, n⟩ := by
  obtain ⟨k, hk⟩ := c.stream.seekEnd_eq_skip level construct advanced c.place
  refine ⟨List.replicate k .advance, fun held => ?_⟩
  rw [performAll_advances, ← hk]
  rfl

theorem exists_ops_seekBlockEnd (c : Cursor) (n level : Nat) (opener : TokenKind)
    (advanced : Bool) :
    ∃ ops, ∀ held, performAll ⟨c, held, n⟩ ops =
      ⟨(c.seekBlockEnd level opener advanced).2, held, n⟩ := by
  obtain ⟨k, hk⟩ := c.stream.seekBlockEnd_eq_skip level opener advanced c.place
  refine ⟨List.replicate k .advance, fun held => ?_⟩
  rw [performAll_advances, ← hk]
  rfl

theorem exists_ops_foldBody (c : Cursor) (n : Nat) :
    ∃ ops, ∀ held, performAll ⟨c, held, n⟩ ops =
      ⟨c.foldBody.2, held,
        if (c.stream.kindBefore? c.place.index).isSome then n + 1 else n⟩ := by
  unfold Cursor.foldBody
  cases c.stream.kindBefore? c.place.index with
  | none => exact ⟨[], fun _ => rfl⟩
  | some kind =>
    obtain ⟨seek, hseek⟩ := exists_ops_seekBlockEnd c.mark.2 (n + 1) 0 (bodyOpener kind) true
    let result := (c.mark.2.seekBlockEnd 0 (bodyOpener kind) true).1
    refine ⟨.mark :: .setEdges 0 .inside .inside :: (seek ++ [.report result, .finish .block true]),
      fun held => ?_⟩
    show performAll ⟨c.mark.2, c.mark.1.withEdges .inside .inside :: held, n + 1⟩ _ = _
    rw [performAll_append, hseek]
    rfl

/-! ### Operations are made of moves -/

theorem moves_balanced (c : Cursor) (held : List Marker) (n : Nat) (opener closer : TokenKind) :
    Moves ⟨c, held, n⟩
      ⟨(c.balanced opener closer).2, held, if c.current = opener then n + 1 else n⟩ := by
  obtain ⟨ops, hops⟩ := exists_ops_balanced c n opener closer
  exact hops held ▸ moves_performAll _ ops

theorem moves_seekEnd (c : Cursor) (held : List Marker) (n level : Nat) (construct : Construct)
    (advanced : Bool) :
    Moves ⟨c, held, n⟩ ⟨(c.seekEnd level construct advanced).2, held, n⟩ := by
  obtain ⟨ops, hops⟩ := exists_ops_seekEnd c n level construct advanced
  exact hops held ▸ moves_performAll _ ops

theorem moves_seekBlockEnd (c : Cursor) (held : List Marker) (n level : Nat) (opener : TokenKind)
    (advanced : Bool) :
    Moves ⟨c, held, n⟩ ⟨(c.seekBlockEnd level opener advanced).2, held, n⟩ := by
  obtain ⟨ops, hops⟩ := exists_ops_seekBlockEnd c n level opener advanced
  exact hops held ▸ moves_performAll _ ops

theorem moves_foldBody (c : Cursor) (held : List Marker) (n : Nat) :
    Moves ⟨c, held, n⟩
      ⟨c.foldBody.2, held,
        if (c.stream.kindBefore? c.place.index).isSome then n + 1 else n⟩ := by
  obtain ⟨ops, hops⟩ := exists_ops_foldBody c n
  exact hops held ▸ moves_performAll _ ops

mutual

theorem Step.moves {a b : Client} {act : Act} : Step a act b → Moves a b
  | .advance c held n => .single (.advance c held n)
  | .mark c held n => .single (.mark c held n)
  | .setEdges c inner m outer n left right => .single (.setEdges c inner m outer n left right)
  | .rollback c inner m outer n => .single (.rollback c inner m outer n)
  | .release c inner m outer n => .single (.release c inner m outer n)
  | .finish c inner m outer n kind collapsed => .single (.finish c inner m outer n kind collapsed)
  | .balanced c held n opener closer => moves_balanced c held n opener closer
  | .seekBlockEnd c held n level opener advanced =>
    moves_seekBlockEnd c held n level opener advanced
  | .seekEnd c held n level construct advanced => moves_seekEnd c held n level construct advanced
  | .foldBody c held n => moves_foldBody c held n
  | @Step.probe _ _ c last _ _ _ _ _ n n' _ _ held applied run _ probed => by
    obtain rfl := Cursor.eq_rollback_of_probe applied probed
    -- the markers of the rule lie above that of the probe
    have hinside : Moves ⟨c.mark.2, c.mark.1 :: held, n + 1⟩ ⟨last, c.mark.1 :: held, n'⟩ :=
      run.moves.above (c.mark.1 :: held)
    exact .head (.mark c held n) (hinside.tail (.rollback last [] c.mark.1 held n'))

theorem Run.moves {a b : Client} {acts : List Act} : Run a acts b → Moves a b
  | .nil _ => .refl
  | .cons head tail => head.moves.trans tail.moves

end

/-! ### Runs in order -/

mutual

/-- The operation closes no marker but the innermost one, and neither does a rule that it probes
with. -/
def Act.InOrder : Act → Prop
  | .rollback depth | .release depth | .finish depth _ _ => depth = 0
  | .probe _ _ inside _ => AllInOrder inside
  | _ => True

def Act.AllInOrder : List Act → Prop
  | [] => True
  | act :: acts => act.InOrder ∧ AllInOrder acts

end

mutual

/-- What an operation in order does is done by a list of operations, whatever markers are held below
those that it knows of. -/
theorem Step.exists_ops {a b : Client} {act : Act} : Step a act b → act.InOrder →
    ∃ ops, ∀ older, (a.above older).performAll ops = b.above older
  | .advance _ _ _, _ => ⟨[.advance], fun _ => rfl⟩
  | .mark _ _ _, _ => ⟨[.mark], fun _ => rfl⟩
  | .setEdges c inner m outer n left right, _ => by
    refine ⟨[.setEdges inner.length left right], fun older => ?_⟩
    have hmodify := modify_append_cons inner m (outer ++ older) (·.withEdges left right)
    simp only [performAll, List.foldl_cons, List.foldl_nil, perform, above, List.append_assoc,
      List.cons_append, hmodify]
  | .rollback c inner m outer n, hact => by
    obtain rfl := List.length_eq_zero_iff.mp hact
    exact ⟨[.rollback], fun _ => rfl⟩
  | .release c inner m outer n, hact => by
    obtain rfl := List.length_eq_zero_iff.mp hact
    exact ⟨[.release], fun _ => rfl⟩
  | .finish c inner m outer n kind collapsed, hact => by
    obtain rfl := List.length_eq_zero_iff.mp hact
    exact ⟨[.finish kind collapsed], fun _ => rfl⟩
  | .balanced c held n opener closer, _ => by
    obtain ⟨ops, hops⟩ := exists_ops_balanced c n opener closer
    exact ⟨ops, fun older => hops (held ++ older)⟩
  | .seekBlockEnd c held n level opener advanced, _ => by
    obtain ⟨ops, hops⟩ := exists_ops_seekBlockEnd c n level opener advanced
    exact ⟨ops, fun older => hops (held ++ older)⟩
  | .seekEnd c held n level construct advanced, _ => by
    obtain ⟨ops, hops⟩ := exists_ops_seekEnd c n level construct advanced
    exact ⟨ops, fun older => hops (held ++ older)⟩
  | .foldBody c held n, _ => by
    obtain ⟨ops, hops⟩ := exists_ops_foldBody c n
    exact ⟨ops, fun older => hops (held ++ older)⟩
  | @Step.probe _ _ c last _ _ _ _ _ n n' _ _ held applied run _ probed, hact => by
    obtain rfl := Cursor.eq_rollback_of_probe applied probed
    obtain ⟨inside, hinside⟩ := run.exists_ops hact
    refine ⟨.mark :: (inside ++ [.rollback]), fun older => ?_⟩
    -- the markers of the rule lie above that of the probe
    have hrule := hinside (c.mark.1 :: (held ++ older))
    show performAll (above ⟨c.mark.2, [], n + 1⟩ (c.mark.1 :: (held ++ older))) _ = _
    rw [performAll_concat, hrule]
    rfl

theorem Run.exists_ops {a b : Client} {acts : List Act} : Run a acts b → Act.AllInOrder acts →
    ∃ ops, ∀ older, (a.above older).performAll ops = b.above older
  | .nil _, _ => ⟨[], fun _ => rfl⟩
  | .cons head tail, ⟨hact, hacts⟩ => by
    obtain ⟨ops, hops⟩ := head.exists_ops hact
    obtain ⟨ops', hops'⟩ := tail.exists_ops hacts
    refine ⟨ops ++ ops', fun older => ?_⟩
    rw [performAll_append, hops, hops']

end

end Client

end LuaFold
