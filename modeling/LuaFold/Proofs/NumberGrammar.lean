import Mathlib.Computability.Language
import Mathlib.Tactic.Abel
import LuaFold.Lexer.Numeral

/-! The grammar of numbers as languages, and what may come after each form of a number. The first
character of what comes after a form is one that the form goes on with, and what comes after that
character is what may come after the next form. -/

namespace LuaFold

variable {d : Dialect} {kind : TokenKind} {c : Char} {cs : List Char}

/-- One character of a class. -/
def oneOf (p : Char → Bool) : Language Char :=
  {cs | ∃ c, p c = true ∧ cs = [c]}

/-- Any number of characters of a class. -/
def manyOf (p : Char → Bool) : Language Char :=
  {cs | ∀ c ∈ cs, p c = true}

def optional (l : Language Char) : Language Char :=
  1 + l

section Membership

variable {p : Char → Bool} {l : Language Char}

theorem cons_mem_oneOf_mul : c :: cs ∈ oneOf p * l ↔ p c = true ∧ cs ∈ l := by
  rw [Language.mem_mul]
  constructor
  · rintro ⟨_, ⟨c', hc, rfl⟩, cs', hcs, heq⟩
    obtain ⟨rfl, rfl⟩ := List.cons.inj heq
    exact ⟨hc, hcs⟩
  · rintro ⟨hc, hcs⟩
    exact ⟨[c], ⟨c, hc, rfl⟩, cs, hcs, rfl⟩

theorem nil_notMem_oneOf_mul : [] ∉ oneOf p * l := by
  rw [Language.mem_mul]
  rintro ⟨_, ⟨c', _, rfl⟩, _, _, heq⟩
  cases heq

theorem cons_mem_oneOf : c :: cs ∈ oneOf p ↔ p c = true ∧ cs = [] := by
  rw [← mul_one (oneOf p), cons_mem_oneOf_mul, Language.mem_one]

theorem nil_notMem_oneOf : [] ∉ oneOf p := by
  rw [← mul_one (oneOf p)]
  exact nil_notMem_oneOf_mul

theorem cons_mem_manyOf : c :: cs ∈ manyOf p ↔ p c = true ∧ cs ∈ manyOf p :=
  List.forall_mem_cons

theorem nil_mem_manyOf : [] ∈ manyOf p :=
  List.forall_mem_nil _

theorem cons_mem_manyOf_mul :
    c :: cs ∈ manyOf p * l ↔ p c = true ∧ cs ∈ manyOf p * l ∨ c :: cs ∈ l := by
  rw [Language.mem_mul, Language.mem_mul]
  constructor
  · rintro ⟨taken, htaken, rest, hrest, heq⟩
    cases taken with
    | nil => exact .inr (heq ▸ hrest)
    | cons c' taken =>
      obtain ⟨rfl, rfl⟩ := List.cons.inj heq
      obtain ⟨hc, htaken⟩ := cons_mem_manyOf.mp htaken
      exact .inl ⟨hc, taken, htaken, rest, hrest, rfl⟩
  · rintro (⟨hc, taken, htaken, rest, hrest, rfl⟩ | hl)
    · exact ⟨c :: taken, cons_mem_manyOf.mpr ⟨hc, htaken⟩, rest, hrest, rfl⟩
    · exact ⟨[], nil_mem_manyOf, c :: cs, hl, rfl⟩

theorem nil_mem_manyOf_mul : [] ∈ manyOf p * l ↔ [] ∈ l := by
  rw [Language.mem_mul]
  constructor
  · rintro ⟨_, _, _, hl, heq⟩
    obtain ⟨rfl, rfl⟩ := List.append_eq_nil_iff.mp heq
    exact hl
  · intro hl
    exact ⟨[], nil_mem_manyOf, [], hl, rfl⟩

end Membership

/-! ### The grammar -/

/-- A letter that starts an exponent, with or without a sign and digits after it. -/
def exponent (letters : List Char) : Language Char :=
  oneOf letters.contains * optional (oneOf ['+', '-'].contains) * manyOf Char.isDigit

/-- A point, with or without digits after it. -/
def fraction (digit : Char → Bool) : Language Char :=
  oneOf ['.'].contains * manyOf digit

def decimals : Language Char :=
  oneOf Char.isDigit * manyOf Char.isDigit

def hexadecimals : Language Char :=
  oneOf ['0'].contains * oneOf ['x', 'X'].contains * manyOf Numeral.isHexDigit

def binaries (d : Dialect) : Language Char :=
  if d = .luaJIT then
    oneOf ['0'].contains * oneOf ['b', 'B'].contains * manyOf ['0', '1'].contains
  else 0

/-- The numbers that have neither a point nor an exponent nor a suffix. -/
def integers (d : Dialect) : Language Char :=
  decimals + hexadecimals + binaries d

/-- The numbers without a suffix. -/
def basicNumerals (d : Dialect) : Language Char :=
  decimals * optional (fraction Char.isDigit) * optional (exponent ['e', 'E']) +
    oneOf ['.'].contains * decimals * optional (exponent ['e', 'E']) +
    hexadecimals * optional (fraction Numeral.isHexDigit) * optional (exponent ['p', 'P']) +
    binaries d

/-- The suffix of a complex number. -/
def imaginarySuffix (d : Dialect) : Language Char :=
  if d = .luaJIT then oneOf ['i'].contains else 0

/-- The letters that give the size of an integer, which may have none. -/
def sizeSuffix (d : Dialect) : Language Char :=
  if d = .luaJIT then manyOf ['u', 'U', 'l', 'L'].contains else 1

def numerals (d : Dialect) : Language Char :=
  basicNumerals d + basicNumerals d * imaginarySuffix d + integers d * sizeSuffix d

/-! ### The rest of a number -/

/-- The rest of a number after the letter of its exponent, and `parted` after its digits. -/
def exponentRest (parted : Language Char) : Language Char :=
  manyOf Char.isDigit * parted + oneOf ['+', '-'].contains * (manyOf Char.isDigit * parted)

/-- The rest of a number after its point, and `parted` at its end. -/
def fractionRest (digit : Char → Bool) (letters : List Char) (parted : Language Char) :
    Language Char :=
  manyOf digit * (parted + oneOf letters.contains * exponentRest parted)

/-- The rest of a number after some of its digits. At its end is `whole` if it is an integer, and
`parted` if it has a point or an exponent. -/
def digitsRest (digit : Char → Bool) (letters : List Char) (whole parted : Language Char) :
    Language Char :=
  manyOf digit * (whole + oneOf ['.'].contains * fractionRest digit letters parted +
    oneOf letters.contains * exponentRest parted)

section Rests

variable {digit : Char → Bool} {letters : List Char} {whole parted : Language Char}

theorem cons_mem_exponentRest : c :: cs ∈ exponentRest parted ↔
    c.isDigit = true ∧ cs ∈ manyOf Char.isDigit * parted ∨
      ['+', '-'].contains c = true ∧ cs ∈ manyOf Char.isDigit * parted ∨ c :: cs ∈ parted := by
  rw [exponentRest, Language.mem_add, cons_mem_manyOf_mul, cons_mem_oneOf_mul, or_right_comm,
    or_assoc]

theorem cons_mem_fractionRest : c :: cs ∈ fractionRest digit letters parted ↔
    digit c = true ∧ cs ∈ fractionRest digit letters parted ∨
      letters.contains c = true ∧ cs ∈ exponentRest parted ∨ c :: cs ∈ parted := by
  rw [fractionRest, cons_mem_manyOf_mul, Language.mem_add, cons_mem_oneOf_mul,
    or_comm (a := c :: cs ∈ parted)]

theorem cons_mem_digitsRest : c :: cs ∈ digitsRest digit letters whole parted ↔
    digit c = true ∧ cs ∈ digitsRest digit letters whole parted ∨
      ['.'].contains c = true ∧ cs ∈ fractionRest digit letters parted ∨
      letters.contains c = true ∧ cs ∈ exponentRest parted ∨ c :: cs ∈ whole := by
  rw [digitsRest, cons_mem_manyOf_mul, Language.mem_add, Language.mem_add, cons_mem_oneOf_mul,
    cons_mem_oneOf_mul, or_comm (a := c :: cs ∈ whole), or_right_comm, or_assoc]

theorem nil_mem_exponentRest : [] ∈ exponentRest parted ↔ [] ∈ parted := by
  simp [exponentRest, Language.mem_add, nil_mem_manyOf_mul, nil_notMem_oneOf_mul]

theorem nil_mem_fractionRest : [] ∈ fractionRest digit letters parted ↔ [] ∈ parted := by
  simp [fractionRest, Language.mem_add, nil_mem_manyOf_mul, nil_notMem_oneOf_mul]

theorem nil_mem_digitsRest : [] ∈ digitsRest digit letters whole parted ↔ [] ∈ whole := by
  simp [digitsRest, Language.mem_add, nil_mem_manyOf_mul, nil_notMem_oneOf_mul]

end Rests

/-- The numbers with `whole` at the end of an integer, and `parted` at the end of a number that has
a point or an exponent. -/
def numeralsEnding (d : Dialect) (whole parted : Language Char) : Language Char :=
  oneOf Char.isDigit * digitsRest Char.isDigit ['e', 'E'] whole parted +
    oneOf ['.'].contains * (oneOf Char.isDigit * fractionRest Char.isDigit ['e', 'E'] parted) +
    oneOf ['0'].contains *
      (oneOf ['x', 'X'].contains * digitsRest Numeral.isHexDigit ['p', 'P'] whole parted) +
    if d = .luaJIT then
      oneOf ['0'].contains * (oneOf ['b', 'B'].contains * (manyOf ['0', '1'].contains * whole))
    else 0

theorem binaries_mul (d : Dialect) (l : Language Char) : binaries d * l =
    if d = .luaJIT then
      oneOf ['0'].contains * (oneOf ['b', 'B'].contains * (manyOf ['0', '1'].contains * l))
    else 0 := by
  rw [binaries]
  split
  · simp only [mul_assoc]
  · exact zero_mul l

theorem integers_mul (d : Dialect) (l : Language Char) :
    integers d * l = numeralsEnding d l 0 := by
  simp only [integers, numeralsEnding, add_mul, binaries_mul, decimals, hexadecimals, digitsRest,
    fractionRest, exponentRest, mul_zero, add_zero, mul_assoc]

theorem basicNumerals_mul (d : Dialect) (l : Language Char) :
    basicNumerals d * l = numeralsEnding d l l := by
  simp only [basicNumerals, numeralsEnding, add_mul, binaries_mul, decimals, hexadecimals,
    optional, fraction, exponent, digitsRest, fractionRest, exponentRest, mul_add, mul_one,
    mul_assoc]
  abel

theorem numeralsEnding_add (d : Dialect) (l l' m m' : Language Char) :
    numeralsEnding d (l + l') (m + m') = numeralsEnding d l m + numeralsEnding d l' m' := by
  simp only [numeralsEnding, digitsRest, fractionRest, exponentRest, mul_add]
  split <;> abel

/-! ### Numbers of a kind -/

/-- What comes at the end of an integer in a number of the kind. -/
def wholeSuffix (d : Dialect) : TokenKind → Language Char
  | .int => sizeSuffix d
  | .complex => imaginarySuffix d
  | _ => 0

/-- What comes at the end of a number of the kind that has a point or an exponent. -/
def partedSuffix (d : Dialect) : TokenKind → Language Char
  | .float => 1
  | .complex => imaginarySuffix d
  | _ => 0

def numeralsOf (d : Dialect) (kind : TokenKind) : Language Char :=
  numeralsEnding d (wholeSuffix d kind) (partedSuffix d kind)

theorem numeralsOf_complex (d : Dialect) :
    numeralsOf d .complex = basicNumerals d * imaginarySuffix d :=
  (basicNumerals_mul d _).symm

theorem numeralsOf_int (d : Dialect) : numeralsOf d .int = integers d * sizeSuffix d :=
  (integers_mul d _).symm

theorem basicNumerals_eq (d : Dialect) : basicNumerals d = integers d + numeralsOf d .float := by
  have hsplit := numeralsEnding_add d 1 0 0 1
  rw [add_zero, zero_add, ← basicNumerals_mul, ← integers_mul, mul_one, mul_one] at hsplit
  exact hsplit

theorem nil_mem_sizeSuffix (d : Dialect) : [] ∈ sizeSuffix d := by
  rw [sizeSuffix]
  split
  · exact nil_mem_manyOf
  · exact Language.nil_mem_one

theorem numeralsOf_eq_zero (hint : kind ≠ .int) (hfloat : kind ≠ .float)
    (hcomplex : kind ≠ .complex) : numeralsOf d kind = 0 := by
  have hwhole : wholeSuffix d kind = 0 := by
    unfold wholeSuffix
    split <;> first | rfl | contradiction
  have hparted : partedSuffix d kind = 0 := by
    unfold partedSuffix
    split <;> first | rfl | contradiction
  rw [numeralsOf, hwhole, hparted, ← basicNumerals_mul, mul_zero]

theorem mem_numerals_iff : cs ∈ numerals d ↔ ∃ kind, cs ∈ numeralsOf d kind := by
  rw [numerals, ← numeralsOf_complex, ← numeralsOf_int, Language.mem_add, Language.mem_add]
  constructor
  · rintro ((hbasic | hcomplex) | hint)
    · rw [basicNumerals_eq, Language.mem_add] at hbasic
      rcases hbasic with hint | hfloat
      · refine ⟨.int, ?_⟩
        rw [numeralsOf_int]
        exact Language.mem_mul.mpr ⟨cs, hint, [], nil_mem_sizeSuffix d, List.append_nil cs⟩
      · exact ⟨.float, hfloat⟩
    · exact ⟨.complex, hcomplex⟩
    · exact ⟨.int, hint⟩
  · rintro ⟨kind, h⟩
    by_cases hint : kind = .int
    · exact .inr (hint ▸ h)
    by_cases hcomplex : kind = .complex
    · exact .inl (.inr (hcomplex ▸ h))
    by_cases hfloat : kind = .float
    · rw [basicNumerals_eq, Language.mem_add]
      exact .inl (.inl (.inr (hfloat ▸ h)))
    · rw [numeralsOf_eq_zero hint hfloat hcomplex] at h
      exact absurd h (Language.notMem_zero cs)

end LuaFold
