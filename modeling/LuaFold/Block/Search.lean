import LuaFold.Block.Construct
import LuaFold.Checks

/-! The search for the token that ends a block. A block inside it is passed over whole, by the same
search one level deeper, and each level is checked before it is asked for. At level 0 the end of the
block is left to the caller, and deeper down it is consumed. A search that fails has run to the end of
the tokens. -/

namespace LuaFold

namespace TokenStream

/-- The place where a search goes on after a block inside it. A block without an end is left with one
more token. -/
def pastBlock (s : TokenStream) : SearchResult × Place → Place
  | (.ok (), q) => q
  | (.error _, q) => s.advance q

theorem index_le_pastBlock (s : TokenStream) (r : SearchResult × Place) :
    r.2.index ≤ (s.pastBlock r).index := by
  obtain ⟨_ | _, q⟩ := r
  · exact s.index_le_advance q
  · exact Nat.le_refl _

section Search

variable {F : Type → Type} [Monad F]

/-- The search from `p` inside `construct`, together with the fact that it never goes back. -/
def searchFrom (s : TokenStream) (checks : Checks F) (construct : Construct) (level : Nat)
    (p : Place) : F { r : SearchResult × Place // p.index ≤ r.2.index } :=
  if h : s.atEnd p then
    return ⟨(.error (.unterminated construct.opener), p), Nat.le_refl _⟩
  else
    have hlt : p.index < (s.advance p).index := index_lt_advance (by simpa using h)
    have hsize : p.index < s.tokens.size := index_lt_size (by simpa using h)
    if s.current p ∈ construct.joints then do
      let r ← s.searchFrom checks construct level (s.advance p)
      return ⟨r.1, Nat.le_trans (Nat.le_of_lt hlt) r.2⟩
    else if s.current p ∈ construct.closers then
      return ⟨(.ok (), if level = 0 then p else s.advance p), by
        split
        · exact Nat.le_refl _
        · exact Nat.le_of_lt hlt⟩
    else do
      checks.level (level + 1)
      match Construct.ofOpener? (s.current p) (level + 1) with
      | none =>
        let r ← s.searchFrom checks construct level (s.advance p)
        return ⟨r.1, Nat.le_trans (Nat.le_of_lt hlt) r.2⟩
      | some inner =>
        let block ← s.searchFrom checks inner (level + 1) (s.advance p)
        have hpast : p.index < (s.pastBlock block.1).index :=
          Nat.lt_of_lt_of_le hlt (Nat.le_trans block.2 (s.index_le_pastBlock block.1))
        let r ← s.searchFrom checks construct level (s.pastBlock block.1)
        return ⟨r.1, Nat.le_trans (Nat.le_of_lt hpast) r.2⟩
termination_by s.tokens.size - p.index
decreasing_by all_goals omega

def searchWith (s : TokenStream) (checks : Checks F) (construct : Construct) (level : Nat)
    (p : Place) : F (SearchResult × Place) := do
  return (← s.searchFrom checks construct level p).1

variable [LawfulMonad F]

theorem searchWith_eq (s : TokenStream) (checks : Checks F) (construct : Construct) (level : Nat)
    (p : Place) :
    s.searchWith checks construct level p =
      if s.atEnd p then pure (.error (.unterminated construct.opener), p)
      else if s.current p ∈ construct.joints then
        s.searchWith checks construct level (s.advance p)
      else if s.current p ∈ construct.closers then
        pure (.ok (), if level = 0 then p else s.advance p)
      else
        checks.level (level + 1) >>= fun _ =>
          match Construct.ofOpener? (s.current p) (level + 1) with
          | none => s.searchWith checks construct level (s.advance p)
          | some inner =>
            s.searchWith checks inner (level + 1) (s.advance p) >>= fun block =>
              s.searchWith checks construct level (s.pastBlock block) := by
  unfold searchWith
  rw [searchFrom]
  split
  · simp
  · split
    · simp
    · split
      · simp
      · split <;> simp [*]

end Search

def search (s : TokenStream) (construct : Construct) (level : Nat) (p : Place) :
    SearchResult × Place :=
  (s.searchWith .off construct level p).run

theorem index_le_search (s : TokenStream) (construct : Construct) (level : Nat) (p : Place) :
    p.index ≤ (s.search construct level p).2.index :=
  (s.searchFrom .off construct level p).run.2

/-- One step of the search: joints are passed, a closer ends it, and the block that another token
opens is passed over. -/
theorem search_eq (s : TokenStream) (construct : Construct) (level : Nat) (p : Place) :
    s.search construct level p =
      if s.atEnd p then (.error (.unterminated construct.opener), p)
      else if s.current p ∈ construct.joints then s.search construct level (s.advance p)
      else if s.current p ∈ construct.closers then
        (.ok (), if level = 0 then p else s.advance p)
      else
        match Construct.ofOpener? (s.current p) (level + 1) with
        | none => s.search construct level (s.advance p)
        | some inner =>
          s.search construct level (s.pastBlock (s.search inner (level + 1) (s.advance p))) := by
  show s.searchWith .off construct level p = _
  rw [searchWith_eq]
  split
  · rfl
  · split
    · rfl
    · split
      · rfl
      · have hlevel : Checks.off.level (level + 1) = pure () := rfl
        rw [hlevel, pure_bind]
        split <;> rfl

section Seek

variable {F : Type → Type} [Monad F]

/-- The search for the end of `construct` at a nesting level. Unless it has `advanced`, the place is
on the token that opens the construct. -/
def seekEndWith (s : TokenStream) (checks : Checks F) (level : Nat) (construct : Construct)
    (advanced : Bool) (p : Place) : F (SearchResult × Place) :=
  s.searchWith checks construct level (if advanced then p else s.advance p)

/-- The search for the end of the block that `opener` opens. A token that opens none is refused, and
nothing is consumed. -/
def seekBlockEndWith (s : TokenStream) (checks : Checks F) (level : Nat) (opener : TokenKind)
    (advanced : Bool) (p : Place) : F (SearchResult × Place) :=
  match Construct.ofOpener? opener level with
  | some construct => s.seekEndWith checks level construct advanced p
  | none => return (.error (.unknownOpener opener), p)

end Seek

def seekEnd (s : TokenStream) (level : Nat) (construct : Construct) (advanced : Bool)
    (p : Place) : SearchResult × Place :=
  (s.seekEndWith .off level construct advanced p).run

def seekBlockEnd (s : TokenStream) (level : Nat) (opener : TokenKind) (advanced : Bool)
    (p : Place) : SearchResult × Place :=
  (s.seekBlockEndWith .off level opener advanced p).run

theorem seekEnd_eq (s : TokenStream) (level : Nat) (construct : Construct) (advanced : Bool)
    (p : Place) :
    s.seekEnd level construct advanced p =
      s.search construct level (if advanced then p else s.advance p) :=
  rfl

theorem seekBlockEnd_eq (s : TokenStream) (level : Nat) (opener : TokenKind) (advanced : Bool)
    (p : Place) :
    s.seekBlockEnd level opener advanced p =
      match Construct.ofOpener? opener level with
      | some construct => s.seekEnd level construct advanced p
      | none => (.error (.unknownOpener opener), p) := by
  rw [seekBlockEnd, seekBlockEndWith]
  split <;> rfl

theorem index_le_seekEnd (s : TokenStream) (level : Nat) (construct : Construct)
    (advanced : Bool) (p : Place) :
    p.index ≤ (s.seekEnd level construct advanced p).2.index := by
  refine Nat.le_trans ?_ (s.index_le_search construct level _)
  split
  · exact Nat.le_refl _
  · exact s.index_le_advance p

theorem index_le_seekBlockEnd (s : TokenStream) (level : Nat) (opener : TokenKind)
    (advanced : Bool) (p : Place) :
    p.index ≤ (s.seekBlockEnd level opener advanced p).2.index := by
  rw [seekBlockEnd_eq]
  split
  · exact s.index_le_seekEnd level _ advanced p
  · exact Nat.le_refl _

end TokenStream

namespace Cursor

section Seek

variable {F : Type → Type} [Monad F]

def seekEndWith (checks : Checks F) (c : Cursor) (level : Nat) (construct : Construct)
    (advanced : Bool) : F (SearchResult × Cursor) := do
  let (result, place) ← c.stream.seekEndWith checks level construct advanced c.place
  return (result, { c with place })

def seekBlockEndWith (checks : Checks F) (c : Cursor) (level : Nat) (opener : TokenKind)
    (advanced : Bool) : F (SearchResult × Cursor) := do
  let (result, place) ← c.stream.seekBlockEndWith checks level opener advanced c.place
  return (result, { c with place })

end Seek

def seekEnd (c : Cursor) (level : Nat) (construct : Construct) (advanced : Bool) :
    SearchResult × Cursor :=
  (c.seekEndWith .off level construct advanced).run

def seekBlockEnd (c : Cursor) (level : Nat) (opener : TokenKind) (advanced : Bool) :
    SearchResult × Cursor :=
  (c.seekBlockEndWith .off level opener advanced).run

theorem seekEnd_eq (c : Cursor) (level : Nat) (construct : Construct) (advanced : Bool) :
    c.seekEnd level construct advanced =
      ((c.stream.seekEnd level construct advanced c.place).1,
        { c with place := (c.stream.seekEnd level construct advanced c.place).2 }) :=
  rfl

theorem seekBlockEnd_eq (c : Cursor) (level : Nat) (opener : TokenKind) (advanced : Bool) :
    c.seekBlockEnd level opener advanced =
      ((c.stream.seekBlockEnd level opener advanced c.place).1,
        { c with place := (c.stream.seekBlockEnd level opener advanced c.place).2 }) :=
  rfl

end Cursor

end LuaFold
