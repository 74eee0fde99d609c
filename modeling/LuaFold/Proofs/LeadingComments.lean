import LuaFold.Node.EdgeTrivia
import Mathlib.Data.List.DropRight
import Mathlib.Order.Bounds.Defs

/-! The comments that lead up to a node. The walk back from the node is over the longest stretch of
comments and white space that ends there, and the cut is at the first comment of that stretch. -/

namespace LuaFold

/-- A comment, or what may stand between comments. -/
def TokenKind.isLeading (k : TokenKind) : Bool :=
  k.isComment || k.isWhitespace

namespace EdgeTrivia

open TokenKind

/-! ### The stretch before a node -/

theorem drop_length_rdropWhile (run : List TokenKind) :
    run.drop (run.rdropWhile isLeading).length = run.rtakeWhile isLeading :=
  calc run.drop (run.rdropWhile isLeading).length
    _ = (run.rdropWhile isLeading ++ run.rtakeWhile isLeading).drop
          (run.rdropWhile isLeading).length := by
      rw [List.rdropWhile_append_rtakeWhile]
    _ = run.rtakeWhile isLeading := List.drop_left

/-- No longer stretch of comments and white space ends where the run ends. -/
theorem isLeast_length_rdropWhile (run : List TokenKind) :
    IsLeast {n | ∀ kind ∈ run.drop n, kind.isComment = true ∨ kind.isWhitespace = true}
      (run.rdropWhile isLeading).length := by
  constructor
  · intro kind hkind
    rw [drop_length_rdropWhile] at hkind
    simpa [isLeading] using List.mem_rtakeWhile_imp hkind
  · intro n hn
    by_contra hlt
    rw [Nat.not_le] at hlt
    have hne : run.rdropWhile isLeading ≠ [] := List.ne_nil_of_length_pos (Nat.zero_lt_of_lt hlt)
    -- the last kind that the stretch leaves out would be in it
    have hdrop : run.drop n = (run.rdropWhile isLeading).drop n ++ run.rtakeWhile isLeading := by
      rw [← List.drop_append_of_le_length (Nat.le_of_lt hlt), List.rdropWhile_append_rtakeWhile]
    have hmem : (run.rdropWhile isLeading).getLast hne ∈ run.drop n := by
      rw [hdrop, ← List.getLast_drop (by simpa using hlt)]
      exact List.mem_append_left _ (List.getLast_mem _)
    refine List.rdropWhile_last_not isLeading run hne ?_
    simpa [isLeading] using hn _ hmem

/-! ### The walk back -/

/-- After the walk has passed `passed`, its edge is the place of the first comment there, or the end
of the run if there is none. It goes on through the part of `run` that leads up to `passed`. -/
theorem walkBack_eq (run passed : List TokenKind) :
    walkBack run.length (run.length + passed.findIdx isComment) run.reverse =
      (run.rdropWhile isLeading).length +
        (run.rtakeWhile isLeading ++ passed).findIdx isComment := by
  induction run using List.reverseRecOn generalizing passed with
  | nil => simp [walkBack]
  | append_singleton run kind ih =>
    have hrev : (run ++ [kind]).reverse = kind :: run.reverse := by simp
    have hlength : (run ++ [kind]).length = run.length + 1 := List.length_append
    rw [hrev, hlength, walkBack, Nat.add_sub_cancel]
    cases hcomment : kind.isComment with
    | true =>
      have hlead : kind.isLeading = true := by simp [isLeading, hcomment]
      have hedge : (kind :: passed).findIdx isComment = 0 := by simp [List.findIdx_cons, hcomment]
      rw [if_pos rfl, List.rdropWhile_concat_pos _ _ _ hlead, List.rtakeWhile_concat_pos _ _ _ hlead,
        List.append_assoc, List.singleton_append, ← ih, hedge, Nat.add_zero]
    | false =>
      rw [if_neg Bool.false_ne_true]
      cases hspace : kind.isWhitespace with
      | true =>
        have hlead : kind.isLeading = true := by simp [isLeading, hspace]
        have hedge : (kind :: passed).findIdx isComment = passed.findIdx isComment + 1 := by
          simp [List.findIdx_cons, hcomment]
        rw [if_pos rfl, List.rdropWhile_concat_pos _ _ _ hlead,
          List.rtakeWhile_concat_pos _ _ _ hlead, List.append_assoc, List.singleton_append, ← ih,
          hedge, Nat.add_right_comm, Nat.add_assoc]
      | false =>
        have hlead : ¬kind.isLeading = true := by simp [isLeading, hcomment, hspace]
        rw [if_neg Bool.false_ne_true, List.rdropWhile_concat_neg _ _ _ hlead,
          List.rtakeWhile_concat_neg _ _ _ hlead, List.nil_append, hlength]

/-- The left edge of a node with its leading comments is at the first comment of the longest stretch
of comments and white space before the node, or at the end of the run when the stretch has none. So
the part of the run that is in the node starts with a comment and is of that stretch, and no comment
of the stretch is left outside. -/
theorem cutBefore_leadingComments (run : List TokenKind) :
    ∃ start, IsLeast
        {n | ∀ kind ∈ run.drop n, kind.isComment = true ∨ kind.isWhitespace = true} start ∧
      let cut := leadingComments.cutBefore run
      cut = start + (run.drop start).findIdx isComment ∧
        (cut = run.length ∨
          ∃ kind rest, run.drop cut = kind :: rest ∧ kind.isComment = true) ∧
        (∀ kind ∈ run.drop cut, kind.isComment = true ∨ kind.isWhitespace = true) ∧
        ∀ kind ∈ (run.take cut).drop start, kind.isComment = false := by
  have hcut : leadingComments.cutBefore run = (run.rdropWhile isLeading).length +
      (run.drop (run.rdropWhile isLeading).length).findIdx isComment := by
    simpa [cutBefore, drop_length_rdropWhile] using walkBack_eq run []
  have hstart := isLeast_length_rdropWhile run
  generalize (run.rdropWhile isLeading).length = start at hcut hstart
  have hdrop : run.drop (leadingComments.cutBefore run) =
      (run.drop start).drop ((run.drop start).findIdx isComment) := by
    rw [hcut, List.drop_drop]
  refine ⟨start, hstart, hcut, ?_, ?_, ?_⟩
  · cases hrest : run.drop (leadingComments.cutBefore run) with
    | nil =>
      have hge := List.drop_eq_nil_iff.mp hrest
      exact .inl (Nat.le_antisymm (cutBefore_le _ run) hge)
    | cons kind rest =>
      have hfirst : (run.drop start)[(run.drop start).findIdx isComment]? = some kind := by
        rw [← List.head?_drop, ← hdrop, hrest, List.head?_cons]
      exact .inr ⟨kind, rest, rfl, List.findIdx_of_getElem?_eq_some hfirst⟩
  · rw [hdrop]
    exact fun kind hkind => hstart.1 kind (List.mem_of_mem_drop hkind)
  · rw [hcut, List.drop_take, Nat.add_sub_cancel_left]
    intro kind hkind
    obtain ⟨i, hi, rfl⟩ := List.mem_take_iff_getElem.mp hkind
    exact List.not_of_lt_findIdx (Nat.lt_of_lt_of_le hi (Nat.min_le_left _ _))

/-- The shebang line ends the stretch, and the comment before it is not in the node. -/
example : leadingComments.cutBefore [shortComment, shebang, endOfLine, longComment] = 3 := by decide

end EdgeTrivia

end LuaFold
