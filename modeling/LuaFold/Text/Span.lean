/-! Spans of a text, counted in bytes of its UTF-8 form, and the part of a text under a span. -/

namespace LuaFold

/-- A stretch of a text: the byte offset where it starts and its length in bytes. -/
structure Span where
  start : Nat
  length : Nat
deriving DecidableEq, Inhabited

namespace Span

/-- The stretch from `start` to `stop`, empty when the two are out of order. -/
def ofOffsets (start stop : Nat) : Span :=
  ⟨start, stop - start⟩

/-- The offset just past the stretch. -/
def stop (s : Span) : Nat :=
  s.start + s.length

theorem stop_ofOffsets {start stop : Nat} (h : start ≤ stop) :
    (ofOffsets start stop).stop = stop := by
  simp [ofOffsets, Span.stop, h]

end Span

namespace Text

/-- Cuts characters after `n` bytes; `none` when the cut falls inside a character or past the
end. -/
def splitBytes? (n : Nat) (cs : List Char) : Option (List Char × List Char) :=
  go n [] cs
where
  /-- `taken` holds the characters before the cut, the last one first. -/
  go : Nat → List Char → List Char → Option (List Char × List Char)
    | 0, taken, rest => some (taken.reverse, rest)
    | _ + 1, _, [] => none
    | n + 1, taken, c :: rest =>
      if c.utf8Size ≤ n + 1 then go (n + 1 - c.utf8Size) (c :: taken) rest else none

/-- The part of `text` under `s`; `none` when `s` leaves the text or cuts a character. -/
def slice? (text : String) (s : Span) : Option String := do
  let (_, rest) ← splitBytes? s.start text.toList
  let (part, _) ← splitBytes? s.length rest
  return String.ofList part

end Text

end LuaFold
