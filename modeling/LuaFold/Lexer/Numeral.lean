import LuaFold.Dialect
import LuaFold.Token.Kind

/-! The forms that a number goes through while it is read one character at a time. -/

namespace LuaFold

/-- The form of the characters read so far of a number. -/
inductive Numeral
  /-- A single zero, which may start a number in another base. -/
  | zero
  | int
  | float
  | hex
  | hexFloat
  /-- A number up to the letter that starts its exponent. -/
  | exponentMark
  /-- A number with the sign or a digit of its exponent. -/
  | exponent
  | binary
  /-- An integer with letters that give its size. -/
  | sized
  /-- A number that an `i` has ended. -/
  | complex
deriving DecidableEq

namespace Numeral

def isHexDigit (c : Char) : Bool :=
  c.isDigit || ('a' ≤ c && c ≤ 'f') || ('A' ≤ c && c ≤ 'F')

def isSizeLetter (c : Char) : Bool :=
  c == 'u' || c == 'U' || c == 'l' || c == 'L'

/-- The number has neither a point nor an exponent nor the suffix `i`. -/
def isInteger : Numeral → Bool
  | zero | int | hex | binary | sized => true
  | float | hexFloat | exponentMark | exponent | complex => false

/-- The form after one more digit, point, exponent or sign. -/
def extend (d : Dialect) : Numeral → Char → Option Numeral
  | zero, c =>
    if c == 'x' || c == 'X' then some hex
    else if (c == 'b' || c == 'B') && d.hasBinaryIntegers then some binary
    else decimal c
  | int, c => decimal c
  | float, c =>
    if c.isDigit then some float else if c == 'e' || c == 'E' then some exponentMark else none
  | hex, c =>
    if isHexDigit c then some hex
    else if c == '.' then some hexFloat
    else if c == 'p' || c == 'P' then some exponentMark
    else none
  | hexFloat, c =>
    if isHexDigit c then some hexFloat
    else if c == 'p' || c == 'P' then some exponentMark
    else none
  | exponentMark, c => if c.isDigit || c == '+' || c == '-' then some exponent else none
  | exponent, c => if c.isDigit then some exponent else none
  | binary, c => if c == '0' || c == '1' then some binary else none
  | sized, _ => none
  | complex, _ => none
where
  decimal (c : Char) : Option Numeral :=
    if c.isDigit then some int
    else if c == '.' then some float
    else if c == 'e' || c == 'E' then some exponentMark
    else none

/-- The form after one more letter of a suffix. An `i` ends the number. -/
def addSuffix (d : Dialect) (form : Numeral) (c : Char) : Option Numeral :=
  if c == 'i' then
    if d.hasComplexNumbers && form != sized && form != complex then some complex else none
  else if isSizeLetter c && d.hasSizedIntegers && form.isInteger then some sized
  else none

/-- The form after one more character, if the number goes on. -/
def step (d : Dialect) (form : Numeral) (c : Char) : Option Numeral :=
  (form.extend d c).or (form.addSuffix d c)

def kind (form : Numeral) : TokenKind :=
  if form == complex then .complex else if form.isInteger then .int else .float

end Numeral

end LuaFold
