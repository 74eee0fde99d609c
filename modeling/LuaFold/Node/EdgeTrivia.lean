import LuaFold.Token.Kind

/-! How the trivia at an edge of a node is divided between the node and its surroundings. -/

namespace LuaFold

/-- Which of the trivia next to an edge of a node belongs to the node. -/
inductive EdgeTrivia
  | outside
  | inside
  /-- At the left edge, the comments that lead up to the node and what stands between them. At the
  right edge, none of it. -/
  | leadingComments
deriving DecidableEq

namespace EdgeTrivia

instance : Inhabited EdgeTrivia := ⟨outside⟩

/-- Walks back over comments and white space, and stops for good at anything else. `kinds` are the
kinds still to pass, the last one first, `count` is their number, and `edge` is the place of the
last comment passed. -/
def walkBack (count edge : Nat) : List TokenKind → Nat
  | [] => edge
  | kind :: kinds =>
    if kind.isComment then walkBack (count - 1) (count - 1) kinds
    else if kind.isWhitespace then walkBack (count - 1) edge kinds
    else edge

/-- Where the left edge of a node cuts the run of trivia before it: the run from there on is in the
node. -/
def cutBefore (edge : EdgeTrivia) (run : List TokenKind) : Nat :=
  match edge with
  | outside => run.length
  | inside => 0
  | leadingComments => walkBack run.length run.length run.reverse

/-- Where the right edge of a node cuts the run of trivia after it: the run up to there is in the
node. -/
def cutAfter (edge : EdgeTrivia) (run : List TokenKind) : Nat :=
  match edge with
  | inside => run.length
  | outside | leadingComments => 0

theorem walkBack_le {n count edge : Nat} {kinds : List TokenKind} (hcount : count ≤ n)
    (hedge : edge ≤ n) : walkBack count edge kinds ≤ n := by
  induction kinds generalizing count edge with
  | nil => exact hedge
  | cons kind kinds ih =>
    rw [walkBack]
    split
    · exact ih (by omega) (by omega)
    · split
      · exact ih (by omega) hedge
      · exact hedge

theorem cutBefore_le (edge : EdgeTrivia) (run : List TokenKind) :
    edge.cutBefore run ≤ run.length := by
  cases edge with
  | outside => exact Nat.le_refl _
  | inside => exact Nat.zero_le _
  | leadingComments => exact walkBack_le (Nat.le_refl _) (Nat.le_refl _)

theorem cutAfter_le (edge : EdgeTrivia) (run : List TokenKind) :
    edge.cutAfter run ≤ run.length := by
  cases edge with
  | inside => exact Nat.le_refl _
  | outside => exact Nat.zero_le _
  | leadingComments => exact Nat.zero_le _

end EdgeTrivia

end LuaFold
