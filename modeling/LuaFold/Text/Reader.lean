import LuaFold.Text.Span

/-! A reader over the bytes of a text. It holds byte offsets only, and the character at its offset,
which it decodes when it comes there. What it reads from the text is `none` when an offset cuts a
character or leaves the text. -/

namespace LuaFold

namespace Text

/-- The character at a byte offset, or NUL at the end of the text; `none` when the offset is not
between two characters. -/
def charAt? (text : String) (offset : Nat) : Option Char :=
  if String.Pos.Raw.isValid text ⟨offset⟩ then
    some ((String.Pos.Raw.get? text ⟨offset⟩).getD '\x00')
  else none

/-- The byte is the last one of a line break. -/
def isLineByte (b : UInt8) : Bool :=
  b = 10 || b = 13

end Text

/-- A position in a text. `start` and `offset` are the byte offsets where the lexeme starts and where
the next character is, and `decoded` is that character. -/
structure Reader where
  text : String
  start : Nat
  offset : Nat
  decoded : Char

namespace Reader

def ofText (text : String) : Reader :=
  ⟨text, 0, 0, text.toList.headD '\x00'⟩

def atEnd (r : Reader) : Bool :=
  r.text.utf8ByteSize ≤ r.offset

/-- The next character, or NUL when none is left. -/
def current (r : Reader) : Char :=
  if r.atEnd then '\x00' else r.decoded

/-- The character after the next one, or NUL when there is none. -/
def next? (r : Reader) : Option Char :=
  if r.atEnd then some '\x00' else Text.charAt? r.text (r.offset + r.decoded.utf8Size)

/-- The next character starts a line: it is the first of the text or the byte before it ends a
line. -/
def atLineStart? (r : Reader) : Option Bool :=
  if r.offset = 0 then some true else r.text.toByteArray[r.offset - 1]?.map Text.isLineByte

/-- Reads one character into the lexeme, if one is left. -/
def advance? (r : Reader) : Option Reader :=
  if r.atEnd then some r
  else do
    let offset := r.offset + r.decoded.utf8Size
    return { r with offset, decoded := ← Text.charAt? r.text offset }

def mark (r : Reader) : Reader :=
  { r with start := r.offset }

def span (r : Reader) : Span :=
  Span.ofOffsets r.start r.offset

def lexeme? (r : Reader) : Option String :=
  Text.slice? r.text r.span

theorem remaining_lt_of_advance? {r r' : Reader} (hr : r.atEnd = false)
    (h : r.advance? = some r') :
    r'.text.utf8ByteSize - r'.offset < r.text.utf8ByteSize - r.offset := by
  rw [advance?, if_neg (by simp [hr])] at h
  obtain ⟨c, -, h⟩ := Option.bind_eq_some_iff.mp h
  obtain rfl := Option.some.inj h
  have hpos := r.decoded.utf8Size_pos
  simp only [atEnd, decide_eq_false_iff_not] at hr
  simp only
  omega

/-- Reads on as long as `p` holds, after `count` characters. -/
def takeWhileFrom? (p : Char → Bool) (count : Nat) (r : Reader) : Option (Nat × Reader) :=
  if h : r.atEnd = false ∧ p r.current = true then
    match hnext : r.advance? with
    | some r' =>
      have := remaining_lt_of_advance? h.1 hnext
      takeWhileFrom? p (count + 1) r'
    | none => none
  else some (count, r)
termination_by r.text.utf8ByteSize - r.offset

theorem takeWhileFrom?_eq (p : Char → Bool) (count : Nat) (r : Reader) :
    r.takeWhileFrom? p count =
      if r.atEnd = false ∧ p r.current = true then
        r.advance?.bind fun r' => r'.takeWhileFrom? p (count + 1)
      else some (count, r) := by
  rw [takeWhileFrom?]
  split
  · split <;> simp [*]
  · rfl

/-- Reads as long as `p` holds, and counts the characters. -/
def takeWhile? (p : Char → Bool) (r : Reader) : Option (Nat × Reader) :=
  r.takeWhileFrom? p 0

/-- Reads a run of the character `c`, and counts it. -/
def takeRun? (c : Char) (r : Reader) : Option (Nat × Reader) :=
  r.takeWhile? (· == c)

end Reader

end LuaFold
