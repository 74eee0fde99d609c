import LuaFold.Proofs.Refusals

/-! The search for the end of a block as the two loops that carry it out, one inside the other, with
a search one level deeper in a turn of the inner one. A run has fuel for a number of calls, one inside
another, where a turn of a loop counts as inside the turn before. Without enough of it the result is
`none`. All runs end, because a turn that does not leave its loop has fewer tokens left after it, and
they end as the search does. -/

namespace LuaFold

/-- What a turn of a loop comes to. -/
inductive Turn (State Result : Type)
  | again (state : State)
  | leave (result : Result)

/-- A place together with the kind that was read there. -/
structure Reading where
  kind : TokenKind
  place : Place

/-- Why the inner loop is left. -/
inductive InnerExit
  /-- The construct is closed, and the search ends at the place. -/
  | closed (p : Place)
  /-- The token at the place, if there is one, is for the outer loop to pass. -/
  | passed (p : Place)

def InnerExit.place : InnerExit → Place
  | closed p | passed p => p

namespace TokenStream

def read (s : TokenStream) (p : Place) : Reading :=
  ⟨s.current p, p⟩

/-! ### The loops -/

mutual

/-- The search for the end of the block that `opener` opens, by the loops. -/
def seekBlockEnd? (s : TokenStream) (fuel level : Nat) (opener : TokenKind) (advanced : Bool)
    (p : Place) : Option (SearchResult × Place) :=
  match fuel with
  | 0 => none
  | fuel + 1 =>
    match Construct.ofOpener? opener level with
    | some construct => s.seekEnd? fuel level construct advanced p
    | none => some (.error (.unknownOpener opener), p)

/-- The search for the end of `construct`, by the loops. -/
def seekEnd? (s : TokenStream) (fuel level : Nat) (construct : Construct) (advanced : Bool)
    (p : Place) : Option (SearchResult × Place) :=
  match fuel with
  | 0 => none
  | fuel + 1 => s.outerLoop? fuel level construct (s.read (if advanced then p else s.advance p))

def outerLoop? (s : TokenStream) (fuel level : Nat) (construct : Construct) (x : Reading) :
    Option (SearchResult × Place) :=
  match fuel with
  | 0 => none
  | fuel + 1 => do
    match ← s.outerTurn? fuel level construct x with
    | .again y => s.outerLoop? fuel level construct y
    | .leave r => return r

/-- A turn of the outer loop: the blocks at the place are passed, and the token after them. Only
here is the end of the tokens noticed. -/
def outerTurn? (s : TokenStream) (fuel level : Nat) (construct : Construct) (x : Reading) :
    Option (Turn Reading (SearchResult × Place)) :=
  match fuel with
  | 0 => none
  | fuel + 1 => do
    if s.atEnd x.place then
      return .leave (.error (.unterminated construct.opener), x.place)
    else
      match ← s.innerLoop? fuel level construct x with
      | .closed p => return .leave (.ok (), p)
      | .passed p => return .again (s.read (s.advance p))

def innerLoop? (s : TokenStream) (fuel level : Nat) (construct : Construct) (x : Reading) :
    Option InnerExit :=
  match fuel with
  | 0 => none
  | fuel + 1 => do
    match ← s.innerTurn? fuel level construct x with
    | .again y => s.innerLoop? fuel level construct y
    | .leave r => return r

/-- A turn of the inner loop: one block is passed, if the kind that was read opens one. -/
def innerTurn? (s : TokenStream) (fuel level : Nat) (construct : Construct) (x : Reading) :
    Option (Turn Reading InnerExit) :=
  match fuel with
  | 0 => none
  | fuel + 1 => do
    if x.kind ∈ construct.joints then
      return .leave (.passed x.place)
    else if x.kind ∈ construct.closers then
      return .leave (.closed (if level = 0 then x.place else s.advance x.place))
    else
      match ← s.seekBlockEnd? fuel (level + 1) x.kind false x.place with
      | (.ok (), p) => return .again (s.read p)
      | (.error _, p) => return .leave (.passed p)

end

variable {s : TokenStream} {fuel level : Nat} {construct : Construct} {opener : TokenKind}
  {advanced : Bool} {p q : Place}

/-! ### What is left of the tokens -/

theorem not_atEnd_of_current_ne (h : s.current p ≠ .eof) : s.atEnd p = false := by
  cases hp : s.atEnd p with
  | true =>
    have hnone : s.tokens[p.index]? = none := by simpa [atEnd] using hp
    exact absurd (by simp [current, kindAt?, hnone]) h
  | false => rfl

theorem not_atEnd_of_mem_joints (h : s.current p ∈ construct.joints) : s.atEnd p = false := by
  refine not_atEnd_of_current_ne fun heof => ?_
  rw [heof] at h
  cases construct <;> exact absurd h (by decide)

theorem not_atEnd_of_mem_closers (h : s.current p ∈ construct.closers) : s.atEnd p = false := by
  refine not_atEnd_of_current_ne fun heof => ?_
  rw [heof] at h
  cases construct <;> exact absurd h (by decide)

theorem not_atEnd_of_ofOpener? (h : Construct.ofOpener? (s.current p) level = some construct) :
    s.atEnd p = false := by
  refine not_atEnd_of_current_ne fun heof => ?_
  rw [heof] at h
  cases h

theorem seekBlockEnd_of_ofOpener? (ho : Construct.ofOpener? opener level = some construct) :
    s.seekBlockEnd level opener advanced p = s.seekEnd level construct advanced p := by
  simp only [seekBlockEnd_eq, ho]

theorem seekBlockEnd_of_eq_none (ho : Construct.ofOpener? opener level = none) :
    s.seekBlockEnd level opener advanced p = (.error (.unknownOpener opener), p) := by
  simp only [seekBlockEnd_eq, ho]

/-- A search that starts on the opener of a block consumes the opener at least, whether or not it
finds the end. -/
theorem index_lt_seekBlockEnd (ho : Construct.ofOpener? opener level = some construct)
    (hp : s.atEnd p = false) : p.index < (s.seekBlockEnd level opener false p).2.index := by
  rw [seekBlockEnd_of_ofOpener? ho]
  calc p.index
    _ < (s.advance p).index := index_lt_advance hp
    _ ≤ (s.seekEnd level construct false p).2.index := s.index_le_search construct level _

/-! ### Turns of the inner loop -/

theorem innerTurn?_of_mem_joints (hj : s.current p ∈ construct.joints) :
    s.innerTurn? (fuel + 1) level construct (s.read p) = some (.leave (.passed p)) := by
  rw [innerTurn?]
  exact if_pos hj

theorem innerTurn?_of_mem_closers (hj : s.current p ∉ construct.joints)
    (hc : s.current p ∈ construct.closers) :
    s.innerTurn? (fuel + 1) level construct (s.read p) =
      some (.leave (.closed (if level = 0 then p else s.advance p))) := by
  rw [innerTurn?]
  exact (if_neg hj).trans (if_pos hc)

theorem innerTurn?_of_ok (hj : s.current p ∉ construct.joints)
    (hc : s.current p ∉ construct.closers)
    (h : s.seekBlockEnd? fuel (level + 1) (s.current p) false p = some (.ok (), q)) :
    s.innerTurn? (fuel + 1) level construct (s.read p) = some (.again (s.read q)) := by
  rw [innerTurn?]
  refine (if_neg hj).trans ((if_neg hc).trans ?_)
  simp only [read, h]
  rfl

theorem innerTurn?_of_error {e : SearchError} (hj : s.current p ∉ construct.joints)
    (hc : s.current p ∉ construct.closers)
    (h : s.seekBlockEnd? fuel (level + 1) (s.current p) false p = some (.error e, q)) :
    s.innerTurn? (fuel + 1) level construct (s.read p) = some (.leave (.passed q)) := by
  rw [innerTurn?]
  refine (if_neg hj).trans ((if_neg hc).trans ?_)
  simp only [read, h]
  rfl

/-- What the search comes to once the inner loop is left. -/
def afterExit (s : TokenStream) (level : Nat) (construct : Construct) :
    InnerExit → SearchResult × Place
  | .closed q => (.ok (), q)
  | .passed q => s.search construct level (s.advance q)

/-- The inner loop is left at no earlier place than `p`, and the search inside the construct comes to
the same from there as from `p`. -/
structure LeavesAs (s : TokenStream) (level : Nat) (construct : Construct) (p : Place)
    (e : InnerExit) : Prop where
  index_le : p.index ≤ e.place.index
  search_eq : s.search construct level p = s.afterExit level construct e

/-- A turn of the inner loop, if the search for the end of the block there ends as it should. It
leaves the loop, or goes on with fewer tokens left, and the search comes to the same from there. -/
theorem innerTurn?_cases (hblock : s.seekBlockEnd? fuel (level + 1) (s.current p) false p =
      some (s.seekBlockEnd (level + 1) (s.current p) false p)) :
    (∃ e, s.innerTurn? (fuel + 1) level construct (s.read p) = some (.leave e) ∧
      s.LeavesAs level construct p e) ∨
    ∃ q, s.innerTurn? (fuel + 1) level construct (s.read p) = some (.again (s.read q)) ∧
      s.remaining q < s.remaining p ∧ s.search construct level p = s.search construct level q := by
  by_cases hj : s.current p ∈ construct.joints
  · have hp := not_atEnd_of_mem_joints hj
    refine .inl ⟨_, innerTurn?_of_mem_joints hj, Nat.le_refl _, ?_⟩
    rw [s.search_eq, if_neg (by simp [hp]), if_pos hj, afterExit]
  by_cases hc : s.current p ∈ construct.closers
  · have hp := not_atEnd_of_mem_closers hc
    refine .inl ⟨_, innerTurn?_of_mem_closers hj hc, ?_, ?_⟩
    · show p.index ≤ (if level = 0 then p else s.advance p).index
      split
      · exact Nat.le_refl _
      · exact s.index_le_advance p
    · rw [s.search_eq, if_neg (by simp [hp]), if_neg hj, if_pos hc, afterExit]
  cases ho : Construct.ofOpener? (s.current p) (level + 1) with
  | none =>
    rw [seekBlockEnd_of_eq_none ho] at hblock
    refine .inl ⟨_, innerTurn?_of_error hj hc hblock, Nat.le_refl _, ?_⟩
    cases hp : s.atEnd p with
    | true => rw [afterExit, advance_of_atEnd hp]
    | false =>
      rw [s.search_eq, if_neg (by simp [hp]), if_neg hj, if_neg hc, afterExit]
      simp only [ho]
  | some inner =>
    have hp := not_atEnd_of_ofOpener? ho
    have hlt := index_lt_seekBlockEnd ho hp
    have hinner : s.seekBlockEnd (level + 1) (s.current p) false p =
        s.search inner (level + 1) (s.advance p) := seekBlockEnd_of_ofOpener? ho
    have hstep := s.search_eq construct level p
    rw [if_neg (by simp [hp]), if_neg hj, if_neg hc] at hstep
    simp only [ho] at hstep
    rw [hinner] at hblock hlt
    rcases hr : s.search inner (level + 1) (s.advance p) with ⟨_ | _, q⟩
    · rw [hr] at hblock hlt hstep
      exact .inl ⟨_, innerTurn?_of_error hj hc hblock, Nat.le_of_lt hlt, hstep⟩
    · rw [hr] at hblock hlt hstep
      exact .inr ⟨q, innerTurn?_of_ok hj hc hblock, remaining_lt_iff.mpr ⟨hp, hlt⟩, hstep⟩

/-! ### Turns of the outer loop -/

theorem index_lt_advance_of_le (hp : s.atEnd p = false) (hle : p.index ≤ q.index) :
    p.index < (s.advance q).index := by
  cases hq : s.atEnd q with
  | true =>
    have hsize : s.tokens.size ≤ q.index := by simpa [atEnd] using hq
    rw [advance_of_atEnd hq]
    exact Nat.lt_of_lt_of_le (index_lt_size hp) hsize
  | false => exact Nat.lt_of_le_of_lt hle (index_lt_advance hq)

/-- A turn of the outer loop, if the inner loop ends as it should. It leaves the loop with what the
search comes to, or goes on with fewer tokens left, and the search comes to the same from there. -/
theorem outerTurn?_cases (hinner : ∃ e, s.innerLoop? fuel level construct (s.read p) = some e ∧
      s.LeavesAs level construct p e) :
    s.outerTurn? (fuel + 1) level construct (s.read p) =
      some (.leave (s.search construct level p)) ∨
    ∃ q, s.outerTurn? (fuel + 1) level construct (s.read p) = some (.again (s.read q)) ∧
      s.remaining q < s.remaining p ∧ s.search construct level p = s.search construct level q := by
  obtain ⟨e, hloop, hle, hsearch⟩ := hinner
  rw [outerTurn?]
  cases hp : s.atEnd p with
  | true =>
    rw [s.search_eq, if_pos hp]
    exact .inl (if_pos hp)
  | false =>
    have hgo : ¬s.atEnd (s.read p).place = true := by simp [read, hp]
    rw [if_neg hgo, hloop, hsearch]
    cases e with
    | closed q => exact .inl rfl
    | passed q =>
      exact .inr ⟨s.advance q, rfl, remaining_lt_iff.mpr ⟨hp, index_lt_advance_of_le hp hle⟩, rfl⟩

/-! ### Runs of the loops -/

section Calls

variable {x y : Reading}

theorem seekBlockEnd?_of_ofOpener? (ho : Construct.ofOpener? opener level = some construct) :
    s.seekBlockEnd? (fuel + 1) level opener advanced p =
      s.seekEnd? fuel level construct advanced p := by
  simp only [seekBlockEnd?, ho]

theorem seekBlockEnd?_of_eq_none (ho : Construct.ofOpener? opener level = none) :
    s.seekBlockEnd? (fuel + 1) level opener advanced p =
      some (.error (.unknownOpener opener), p) := by
  simp only [seekBlockEnd?, ho]

theorem outerLoop?_of_leave {r : SearchResult × Place}
    (h : s.outerTurn? fuel level construct x = some (.leave r)) :
    s.outerLoop? (fuel + 1) level construct x = some r := by
  rw [outerLoop?, h]
  rfl

theorem outerLoop?_of_again (h : s.outerTurn? fuel level construct x = some (.again y)) :
    s.outerLoop? (fuel + 1) level construct x = s.outerLoop? fuel level construct y := by
  rw [outerLoop?, h]
  rfl

theorem innerLoop?_of_leave {e : InnerExit}
    (h : s.innerTurn? fuel level construct x = some (.leave e)) :
    s.innerLoop? (fuel + 1) level construct x = some e := by
  rw [innerLoop?, h]
  rfl

theorem innerLoop?_of_again (h : s.innerTurn? fuel level construct x = some (.again y)) :
    s.innerLoop? (fuel + 1) level construct x = s.innerLoop? fuel level construct y := by
  rw [innerLoop?, h]
  rfl

end Calls

/-- With fuel for six calls for each token left, and a few more, both loops end at `p`, and the search
comes to what they come to. -/
structure LoopsEnd (s : TokenStream) (p : Place) : Prop where
  outer : ∀ {fuel : Nat} (level : Nat) (construct : Construct), 6 * s.remaining p + 5 ≤ fuel →
    s.outerLoop? fuel level construct (s.read p) = some (s.search construct level p)
  inner : ∀ {fuel : Nat} (level : Nat) (construct : Construct), 6 * s.remaining p + 3 ≤ fuel →
    ∃ e, s.innerLoop? fuel level construct (s.read p) = some e ∧ s.LeavesAs level construct p e

/-- The search one level deeper starts after the opener, where fewer tokens are left. -/
theorem seekBlockEnd?_of_later (hlater : ∀ q, s.remaining q < s.remaining p → s.LoopsEnd q)
    (hfuel : 6 * s.remaining p + 1 ≤ fuel) :
    s.seekBlockEnd? fuel level (s.current p) false p =
      some (s.seekBlockEnd level (s.current p) false p) := by
  cases ho : Construct.ofOpener? (s.current p) level with
  | none =>
    obtain ⟨fuel, rfl⟩ := Nat.exists_eq_add_of_le' (show 1 ≤ fuel by omega)
    rw [seekBlockEnd?_of_eq_none ho, seekBlockEnd_of_eq_none ho]
  | some construct =>
    have hp := not_atEnd_of_ofOpener? ho
    have hlt : s.remaining (s.advance p) < s.remaining p :=
      remaining_lt_iff.mpr ⟨hp, index_lt_advance hp⟩
    obtain ⟨fuel, rfl⟩ := Nat.exists_eq_add_of_le' (show 2 ≤ fuel by omega)
    rw [seekBlockEnd?_of_ofOpener? ho, seekBlockEnd_of_ofOpener? ho, seekEnd?]
    exact (hlater (s.advance p) hlt).outer level construct (by omega)

/-- A turn of the inner loop that does not leave it goes on where fewer tokens are left. -/
theorem innerLoop?_of_later (level : Nat) (construct : Construct)
    (hlater : ∀ q, s.remaining q < s.remaining p → s.LoopsEnd q)
    (hfuel : 6 * s.remaining p + 3 ≤ fuel) :
    ∃ e, s.innerLoop? fuel level construct (s.read p) = some e ∧
      s.LeavesAs level construct p e := by
  obtain ⟨fuel, rfl⟩ := Nat.exists_eq_add_of_le' (show 2 ≤ fuel by omega)
  have hblock : s.seekBlockEnd? fuel (level + 1) (s.current p) false p =
      some (s.seekBlockEnd (level + 1) (s.current p) false p) :=
    seekBlockEnd?_of_later hlater (by omega)
  rcases innerTurn?_cases hblock with ⟨e, hturn, hleaves⟩ | ⟨q, hturn, hlt, hsearch⟩
  · exact ⟨e, innerLoop?_of_leave hturn, hleaves⟩
  · obtain ⟨e, hloop, hle, hexit⟩ := (hlater q hlt).inner level construct
      (show 6 * s.remaining q + 3 ≤ fuel + 1 by omega)
    have hpq : p.index ≤ q.index := Nat.le_of_lt (remaining_lt_iff.mp hlt).2
    exact ⟨e, (innerLoop?_of_again hturn).trans hloop, Nat.le_trans hpq hle, hsearch.trans hexit⟩

/-- A turn of the outer loop that does not leave it goes on where fewer tokens are left. -/
theorem outerLoop?_of_later (level : Nat) (construct : Construct)
    (hlater : ∀ q, s.remaining q < s.remaining p → s.LoopsEnd q)
    (hfuel : 6 * s.remaining p + 5 ≤ fuel) :
    s.outerLoop? fuel level construct (s.read p) = some (s.search construct level p) := by
  obtain ⟨fuel, rfl⟩ := Nat.exists_eq_add_of_le' (show 2 ≤ fuel by omega)
  have hinner := innerLoop?_of_later level construct hlater
    (show 6 * s.remaining p + 3 ≤ fuel by omega)
  rcases outerTurn?_cases hinner with hturn | ⟨q, hturn, hlt, hsearch⟩
  · exact outerLoop?_of_leave hturn
  · rw [outerLoop?_of_again hturn, hsearch]
    exact (hlater q hlt).outer level construct (by omega)

theorem loopsEnd (s : TokenStream) (p : Place) : s.LoopsEnd p := by
  induction hn : s.remaining p using Nat.strongRecOn generalizing p with
  | ind n ih =>
    have hlater : ∀ q, s.remaining q < s.remaining p → s.LoopsEnd q :=
      fun q hq => ih _ (hn ▸ hq) q rfl
    exact ⟨fun level construct hfuel => outerLoop?_of_later level construct hlater hfuel,
      fun level construct hfuel => innerLoop?_of_later level construct hlater hfuel⟩

theorem seekBlockEnd?_current (level : Nat) (hfuel : 6 * s.remaining p + 1 ≤ fuel) :
    s.seekBlockEnd? fuel level (s.current p) false p =
      some (s.seekBlockEnd level (s.current p) false p) :=
  seekBlockEnd?_of_later (fun q _ => s.loopsEnd q) hfuel

theorem seekEnd?_eq (level : Nat) (construct : Construct) (advanced : Bool)
    (hfuel : 6 * s.remaining p + 6 ≤ fuel) :
    s.seekEnd? fuel level construct advanced p =
      some (s.seekEnd level construct advanced p) := by
  obtain ⟨fuel, rfl⟩ := Nat.exists_eq_add_of_le' (show 1 ≤ fuel by omega)
  have hle : s.remaining (if advanced then p else s.advance p) ≤ s.remaining p := by
    cases advanced with
    | true => exact Nat.le_refl _
    | false => exact Nat.sub_le_sub_left (s.index_le_advance p) _
  rw [seekEnd?]
  exact (s.loopsEnd _).outer level construct (by omega)

theorem seekBlockEnd?_eq (level : Nat) (opener : TokenKind) (advanced : Bool)
    (hfuel : 6 * s.remaining p + 7 ≤ fuel) :
    s.seekBlockEnd? fuel level opener advanced p =
      some (s.seekBlockEnd level opener advanced p) := by
  obtain ⟨fuel, rfl⟩ := Nat.exists_eq_add_of_le' (show 1 ≤ fuel by omega)
  rw [seekBlockEnd?, seekBlockEnd_eq]
  cases Construct.ofOpener? opener level with
  | none => rfl
  | some construct => exact seekEnd?_eq level construct advanced (by omega)

/-! ### Progress -/

/-- The turn at `p` ends. It leaves the loop, or goes on at a place with fewer tokens left, with the
kind that is read there. -/
def TurnEnds {Result : Type} (s : TokenStream) (p : Place)
    (turn : Option (Turn Reading Result)) : Prop :=
  (∃ result, turn = some (.leave result)) ∨
    ∃ q, turn = some (.again (s.read q)) ∧ s.remaining q < s.remaining p

theorem turnEnds_innerTurn? (level : Nat) (construct : Construct)
    (hfuel : 6 * s.remaining p + 2 ≤ fuel) :
    s.TurnEnds p (s.innerTurn? fuel level construct (s.read p)) := by
  obtain ⟨fuel, rfl⟩ := Nat.exists_eq_add_of_le' (show 1 ≤ fuel by omega)
  have hblock := seekBlockEnd?_current (level + 1) (show 6 * s.remaining p + 1 ≤ fuel by omega)
  rcases innerTurn?_cases hblock with ⟨e, hturn, -⟩ | ⟨q, hturn, hlt, -⟩
  · exact .inl ⟨e, hturn⟩
  · exact .inr ⟨q, hturn, hlt⟩

theorem turnEnds_outerTurn? (level : Nat) (construct : Construct)
    (hfuel : 6 * s.remaining p + 4 ≤ fuel) :
    s.TurnEnds p (s.outerTurn? fuel level construct (s.read p)) := by
  obtain ⟨fuel, rfl⟩ := Nat.exists_eq_add_of_le' (show 1 ≤ fuel by omega)
  have hinner := (s.loopsEnd p).inner level construct (show 6 * s.remaining p + 3 ≤ fuel by omega)
  rcases outerTurn?_cases hinner with hturn | ⟨q, hturn, hlt, -⟩
  · exact .inl ⟨_, hturn⟩
  · exact .inr ⟨q, hturn, hlt⟩

/-- The search that a turn of the inner loop makes one level deeper ends, and comes to a place with
fewer tokens left, or the turn leaves the loop. -/
theorem exists_nested_search (hj : s.current p ∉ construct.joints)
    (hc : s.current p ∉ construct.closers) (hfuel : 6 * s.remaining p + 1 ≤ fuel) :
    ∃ result q, s.seekBlockEnd? fuel (level + 1) (s.current p) false p = some (result, q) ∧
      (s.remaining q < s.remaining p ∨
        s.innerTurn? (fuel + 1) level construct (s.read p) = some (.leave (.passed q))) := by
  have hblock := seekBlockEnd?_current (level + 1) hfuel
  rcases hr : s.seekBlockEnd (level + 1) (s.current p) false p with ⟨e | _, q⟩
  · rw [hr] at hblock
    exact ⟨_, q, hblock, .inr (innerTurn?_of_error hj hc hblock)⟩
  · rw [hr] at hblock
    refine ⟨_, q, hblock, .inl ?_⟩
    cases ho : Construct.ofOpener? (s.current p) (level + 1) with
    | none =>
      rw [seekBlockEnd_of_eq_none ho] at hr
      cases hr
    | some inner =>
      have hp := not_atEnd_of_ofOpener? ho
      have hlt := index_lt_seekBlockEnd ho hp
      rw [hr] at hlt
      exact remaining_lt_iff.mpr ⟨hp, hlt⟩

end TokenStream

namespace Cursor

/-- The search for the end of a block ends, on every token stream, from every place and at every
level, and it never goes back: fuel in proportion to the tokens left is enough for its loops. If it
starts on the opener of a block it consumes at least that one, whether or not it finds the end. Each
turn of its two loops ends, and it leaves the loop or goes on with fewer tokens left. A search one
level deeper ends with fewer tokens left too, unless the turn that makes it leaves the loop, and
inside the block that it goes over there are fewer from the start. With checks, it ends in the same
way at a level that leaves room for one more level with each token. -/
theorem seekBlockEnd_progress (c : Cursor) (level fuel : Nat)
    (hfuel : 6 * c.stream.remaining c.place + 7 ≤ fuel) :
    let s := c.stream
    let p := c.place
    (∀ opener advanced, ∃ result q,
      s.seekBlockEnd? fuel level opener advanced p = some (result, q) ∧
        c.seekBlockEnd level opener advanced = (result, { c with place := q }) ∧
        p.index ≤ q.index ∧
        (level + s.remaining p ≤ lastLevel →
          c.seekBlockEndWith .on level opener advanced = .ok (result, { c with place := q }))) ∧
    (∀ construct advanced, ∃ result q,
      s.seekEnd? fuel level construct advanced p = some (result, q) ∧
        c.seekEnd level construct advanced = (result, { c with place := q }) ∧
        p.index ≤ q.index ∧
        (level + s.remaining p ≤ lastLevel →
          c.seekEndWith .on level construct advanced = .ok (result, { c with place := q }))) ∧
    (∀ opener construct, Construct.ofOpener? opener level = some construct → c.atEnd = false →
      p.index < (c.seekBlockEnd level opener false).2.place.index) ∧
    ∀ construct,
      s.TurnEnds p (s.outerTurn? fuel level construct (s.read p)) ∧
      s.TurnEnds p (s.innerTurn? fuel level construct (s.read p)) ∧
      (c.current ∉ construct.joints → c.current ∉ construct.closers → ∃ result q,
        s.seekBlockEnd? fuel (level + 1) c.current false p = some (result, q) ∧
          (s.remaining q < s.remaining p ∨
            s.innerTurn? (fuel + 1) level construct (s.read p) = some (.leave (.passed q)))) ∧
      ∀ inner, Construct.ofOpener? c.current (level + 1) = some inner →
        s.remaining (s.advance p) < s.remaining p := by
  intro s p
  have hfuel : 6 * s.remaining p + 7 ≤ fuel := hfuel
  refine ⟨fun opener advanced => ?_, fun construct advanced => ?_, fun opener construct ho hp => ?_,
    fun construct => ⟨?_, ?_, fun hj hc => ?_, fun inner ho => ?_⟩⟩
  · exact ⟨_, _, TokenStream.seekBlockEnd?_eq level opener advanced hfuel, rfl,
      s.index_le_seekBlockEnd level opener advanced p, seekBlockEndWith_on_of_remaining⟩
  · exact ⟨_, _, TokenStream.seekEnd?_eq level construct advanced (by omega), rfl,
      s.index_le_seekEnd level construct advanced p, seekEndWith_on_of_remaining⟩
  · exact TokenStream.index_lt_seekBlockEnd ho hp
  · exact TokenStream.turnEnds_outerTurn? level construct (by omega)
  · exact TokenStream.turnEnds_innerTurn? level construct (by omega)
  · exact TokenStream.exists_nested_search hj hc (show 6 * s.remaining p + 1 ≤ fuel by omega)
  · have hp := TokenStream.not_atEnd_of_ofOpener? ho
    exact TokenStream.remaining_lt_iff.mpr ⟨hp, TokenStream.index_lt_advance hp⟩

/-- A block with a token of kind `eof` and a loop in it, neither of them terminated. -/
theorem seekBlockEnd_progress_unterminated :
    let kinds : List TokenKind := [.kwDo, .eof, .kwRepeat, .whitespace, .name]
    let c := ofStream ⟨"", (kinds.map (⟨·, 0, 0⟩)).toArray⟩
    6 * c.stream.remaining c.place + 7 ≤ 37 ∧
      Construct.ofOpener? .kwDo 0 = some .doBlock ∧ c.atEnd = false ∧
      ∃ q, c.stream.seekBlockEnd? 37 0 .kwDo false c.place =
          some (.error (.unterminated .kwDo), q) ∧ c.place.index < q.index ∧
        c.seekBlockEndWith .on 0 .kwDo false =
          .ok (.error (.unterminated .kwDo), { c with place := q }) := by
  intro kinds c
  have hfuel : 6 * c.stream.remaining c.place + 7 ≤ 37 := by decide +kernel
  have hp : c.atEnd = false := by decide +kernel
  have hresult : (c.seekBlockEnd 0 .kwDo false).1 = .error (.unterminated .kwDo) := by
    decide +kernel
  obtain ⟨hends, -, hprogress, -⟩ := seekBlockEnd_progress c 0 37 hfuel
  obtain ⟨result, q, hrun, hseek, -, hchecked⟩ := hends .kwDo false
  have hlt := hprogress .kwDo .doBlock rfl hp
  have hremaining : 0 + c.stream.remaining c.place ≤ 5 := by omega
  have hroom : 0 + c.stream.remaining c.place ≤ lastLevel :=
    Nat.le_trans hremaining (by decide)
  rw [hseek] at hresult hlt
  subst hresult
  exact ⟨hfuel, rfl, hp, q, hrun, hlt, hchecked hroom⟩

end Cursor

end LuaFold
