import LuaFold.Text.LineBreak
import LuaFold.Text.Span

/-! A scanner over the characters of a text. It reads forward only, and keeps the characters read
since its last mark, the lexeme, with the byte offsets of the lexeme's two ends. -/

namespace LuaFold

/-- A position in a text. `start` and `offset` are the byte offsets where the lexeme starts and
where the next character is, `previous` is the last character read, `lexeme` holds the characters
read since the mark, the last one first, and `rest` the characters to come. -/
structure Scanner where
  start : Nat
  offset : Nat
  previous : Option Char
  lexeme : List Char
  rest : List Char
deriving DecidableEq, Inhabited

namespace Scanner

def ofChars (cs : List Char) : Scanner :=
  ⟨0, 0, none, [], cs⟩

def ofString (text : String) : Scanner :=
  ofChars text.toList

def atEnd (sc : Scanner) : Bool :=
  sc.rest.isEmpty

/-- The next character starts a line: it is the first of the text or follows a line feed or a
carriage return. -/
def atLineStart (sc : Scanner) : Bool :=
  sc.previous.all Text.isLineBreak

/-- The next character, or NUL when none is left. -/
def current (sc : Scanner) : Char :=
  sc.rest.headD '\x00'

/-- The character after the next one, or NUL when there is none. -/
def next (sc : Scanner) : Char :=
  sc.rest.tail.headD '\x00'

/-- Reads one character into the lexeme, if one is left. -/
def advance (sc : Scanner) : Scanner :=
  match sc.rest with
  | [] => sc
  | c :: rest =>
    { sc with
      offset := sc.offset + c.utf8Size
      previous := some c
      lexeme := c :: sc.lexeme
      rest }

def mark (sc : Scanner) : Scanner :=
  { sc with start := sc.offset, lexeme := [] }

def span (sc : Scanner) : Span :=
  Span.ofOffsets sc.start sc.offset

def text (sc : Scanner) : String :=
  String.ofList sc.lexeme.reverse

/-- Reads the longest run of characters that `step` accepts, one after another, from the state
`s`. -/
def munch {σ : Type} (step : σ → Char → Option σ) (s : σ) (sc : Scanner) : σ × Scanner :=
  go s sc sc.rest
where
  /-- `rest` is what `sc` has left to read. -/
  go (s : σ) (sc : Scanner) : List Char → σ × Scanner
    | [] => (s, sc)
    | c :: rest =>
      match step s c with
      | some s' => go s' sc.advance rest
      | none => (s, sc)

/-- Reads as long as `p` holds, and counts the characters. -/
def takeWhile (p : Char → Bool) (sc : Scanner) : Nat × Scanner :=
  sc.munch (fun n c => if p c then some (n + 1) else none) 0

/-- Reads a run of the character `c`, and counts it. -/
def takeRun (c : Char) (sc : Scanner) : Nat × Scanner :=
  sc.takeWhile (· == c)

@[simp] theorem rest_mark (sc : Scanner) : sc.mark.rest = sc.rest := rfl

@[simp] theorem rest_advance (sc : Scanner) : sc.advance.rest = sc.rest.tail := by
  unfold advance
  split <;> simp [*]

theorem munch_of_rest_nil {σ : Type} (step : σ → Char → Option σ) (s : σ) {sc : Scanner}
    (h : sc.rest = []) : sc.munch step s = (s, sc) := by
  simp [munch, munch.go, h]

theorem munch_of_rest_cons {σ : Type} (step : σ → Char → Option σ) (s : σ) {sc : Scanner}
    {c : Char} {rest : List Char} (h : sc.rest = c :: rest) :
    sc.munch step s =
      match step s c with
      | some s' => sc.advance.munch step s'
      | none => (s, sc) := by
  simp [munch, munch.go, h]

theorem length_rest_munch_le {σ : Type} (step : σ → Char → Option σ) (s : σ) (sc : Scanner) :
    (sc.munch step s).2.rest.length ≤ sc.rest.length := by
  generalize h : sc.rest = rest
  induction rest generalizing s sc with
  | nil => simp [munch_of_rest_nil step s h, h]
  | cons c rest ih =>
    rw [munch_of_rest_cons step s h]
    split
    · exact Nat.le_succ_of_le (ih _ _ (by simp [h]))
    · simp [h]

end Scanner

end LuaFold
