/-! Character classes given by tables of code points. -/

namespace LuaFold.Text

/-- The code point of `c` lies in one of the closed ranges `ranges`. -/
def inRanges (ranges : List (Nat × Nat)) (c : Char) : Bool :=
  ranges.any fun r => r.1 ≤ c.toNat && c.toNat ≤ r.2

end LuaFold.Text
