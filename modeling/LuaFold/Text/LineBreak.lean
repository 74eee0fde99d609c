/-! Line breaks: a line feed, a carriage return, or one of each in either order. -/

namespace LuaFold.Text

def isLineBreak (c : Char) : Bool :=
  c == '\n' || c == '\r'

theorem isLineBreak_iff {c : Char} : isLineBreak c = true ↔ c = '\n' ∨ c = '\r' := by
  simp [isLineBreak]

theorem isLineBreak_eq_false {c : Char} (hfeed : c ≠ '\n') (hreturn : c ≠ '\r') :
    isLineBreak c = false := by
  simp [isLineBreak, hfeed, hreturn]

/-- The character that joins `c` in a line break of two characters. -/
def lineBreakPartner (c : Char) : Char :=
  if c == '\n' then '\r' else '\n'

end LuaFold.Text
