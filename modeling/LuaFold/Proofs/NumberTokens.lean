import LuaFold.Proofs.Lexemes
import LuaFold.Proofs.NumberGrammar

/-! The tokens of numbers. A run over the forms of a number reads the language of its grammar, and
the form that it comes to has the kind of the number. As the longest run is read, a token that
starts like a number is the longest number there. -/

namespace LuaFold

variable {d : Dialect} {kind : TokenKind} {form form' : Numeral} {c : Char} {cs : List Char}

/-! ### The steps of a number -/

namespace Numeral

theorem notMem_of_all {p : Char → Bool} (hall : cs.all (!p ·) = true) (h : p c = true) :
    c ∉ cs := by
  intro hc
  have hother := List.all_eq_true.mp hall c hc
  simp [h] at hother

theorem notMem_of_isDigit (h : c.isDigit = true) :
    c ∉ ['.', 'e', 'E', 'x', 'X', 'b', 'B', '+', '-'] :=
  notMem_of_all (by decide) h

theorem notMem_of_isHexDigit (h : isHexDigit c = true) : c ∉ ['.', 'p', 'P'] :=
  notMem_of_all (by decide) h

/-- The classes of characters that extend a form, each with the form that it leads to. -/
def extensions (d : Dialect) : Numeral → List ((Char → Bool) × Numeral)
  | zero =>
    decimal ++ (['x', 'X'].contains, hex) ::
      if d = .luaJIT then [(['b', 'B'].contains, binary)] else []
  | int => decimal
  | float => [(Char.isDigit, float), (['e', 'E'].contains, exponentMark)]
  | hex => [(isHexDigit, hex), (['.'].contains, hexFloat), (['p', 'P'].contains, exponentMark)]
  | hexFloat => [(isHexDigit, hexFloat), (['p', 'P'].contains, exponentMark)]
  | exponentMark => [(Char.isDigit, exponent), (['+', '-'].contains, exponent)]
  | exponent => [(Char.isDigit, exponent)]
  | binary => [(['0', '1'].contains, binary)]
  | sized | complex => []
where
  decimal := [(Char.isDigit, int), (['.'].contains, float), (['e', 'E'].contains, exponentMark)]

/-- The classes of letters that may come at the end of a form. -/
def suffixes (d : Dialect) (form : Numeral) : List ((Char → Bool) × Numeral) :=
  if d = .luaJIT then
    (if form = sized ∨ form = complex then [] else [(['i'].contains, complex)]) ++
      if form.isInteger then [(['u', 'U', 'l', 'L'].contains, sized)] else []
  else []

/-- The classes of a form have no character in common, so the order of the checks does not
matter. -/
theorem extend_eq_some_iff : form.extend d c = some form' ↔
    ∃ m ∈ form.extensions d, m.1 c = true ∧ m.2 = form' := by
  have hdigit : c.isDigit = true → _ := notMem_of_isDigit
  have hhex : isHexDigit c = true → _ := notMem_of_isHexDigit
  by_cases hd : d = .luaJIT <;> cases form <;>
    simp [extend, extend.decimal, extensions, extensions.decimal, Dialect.hasBinaryIntegers, hd] <;>
    grind

theorem addSuffix_eq_some_iff : form.addSuffix d c = some form' ↔
    ∃ m ∈ form.suffixes d, m.1 c = true ∧ m.2 = form' := by
  by_cases hd : d = .luaJIT <;> cases form <;>
    simp [addSuffix, suffixes, isInteger, isSizeLetter, Dialect.hasComplexNumbers,
      Dialect.hasSizedIntegers, hd] <;>
    grind

theorem extend_of_addSuffix (h : form.addSuffix d c = some form') : form.extend d c = none := by
  have hmem : c ∈ ['i', 'u', 'U', 'l', 'L'] := by
    grind [addSuffix, isSizeLetter]
  have hall : ['i', 'u', 'U', 'l', 'L'].all (fun c => (form.extend d c).isNone) = true := by
    cases form <;> cases d <;> decide
  exact Option.isNone_iff_eq_none.mp (List.all_eq_true.mp hall c hmem)

theorem step_eq_some_iff : form.step d c = some form' ↔
    ∃ m ∈ form.extensions d ++ form.suffixes d, m.1 c = true ∧ m.2 = form' := by
  rw [step, Option.or_eq_some_iff, and_iff_right_of_imp extend_of_addSuffix, extend_eq_some_iff,
    addSuffix_eq_some_iff]
  simp only [List.mem_append, or_and_right, exists_or]

end Numeral

/-! ### What comes after a form -/

/-- What comes after a form in a number of the kind. -/
def following (d : Dialect) (kind : TokenKind) : Numeral → Language Char
  | .zero =>
    decimal + oneOf ['x', 'X'].contains * hexadecimal +
      if d = .luaJIT then oneOf ['b', 'B'].contains * binary else 0
  | .int => decimal
  | .float => fractionRest Char.isDigit ['e', 'E'] (partedSuffix d kind)
  | .hex => hexadecimal
  | .hexFloat => fractionRest Numeral.isHexDigit ['p', 'P'] (partedSuffix d kind)
  | .exponentMark => exponentRest (partedSuffix d kind)
  | .exponent => manyOf Char.isDigit * partedSuffix d kind
  | .binary => binary
  | .sized => if kind = .int then sizeSuffix d else 0
  | .complex => if kind = .complex then 1 else 0
where
  decimal := digitsRest Char.isDigit ['e', 'E'] (wholeSuffix d kind) (partedSuffix d kind)
  hexadecimal :=
    digitsRest Numeral.isHexDigit ['p', 'P'] (wholeSuffix d kind) (partedSuffix d kind)
  binary := manyOf ['0', '1'].contains * wholeSuffix d kind

theorem nil_mem_wholeSuffix : [] ∈ wholeSuffix d kind ↔ .int = kind := by
  cases kind <;> by_cases hd : d = .luaJIT <;>
    simp [wholeSuffix, sizeSuffix, imaginarySuffix, nil_mem_manyOf, nil_notMem_oneOf,
      Language.notMem_zero, hd]

theorem nil_mem_partedSuffix : [] ∈ partedSuffix d kind ↔ .float = kind := by
  cases kind <;> by_cases hd : d = .luaJIT <;>
    simp [partedSuffix, imaginarySuffix, nil_notMem_oneOf, Language.notMem_zero, hd]

theorem mem_following_zero : cs ∈ following d kind .zero ↔
    cs ∈ following d kind .int ∨ cs ∈ oneOf ['x', 'X'].contains * following d kind .hex ∨
      d = .luaJIT ∧ cs ∈ oneOf ['b', 'B'].contains * following d kind .binary := by
  rw [following, Language.mem_add, Language.mem_add, or_assoc]
  by_cases hd : d = .luaJIT
  · simp only [hd, if_true, true_and]
    rfl
  · simp only [hd, if_false, Language.notMem_zero, false_and]
    rfl

/-- A number may end after a form if it has the kind of the form. -/
theorem nil_mem_following : [] ∈ following d kind form ↔ form.kind = kind := by
  have hwhole : [] ∈ wholeSuffix d kind ↔ .int = kind := nil_mem_wholeSuffix
  have hparted : [] ∈ partedSuffix d kind ↔ .float = kind := nil_mem_partedSuffix
  have hint : [] ∈ following d kind .int ↔ .int = kind := nil_mem_digitsRest.trans hwhole
  cases form with
  | zero =>
    simp only [mem_following_zero, hint, nil_notMem_oneOf_mul, and_false, or_false]
    rfl
  | int => exact hint
  | float => exact nil_mem_fractionRest.trans hparted
  | hex => exact nil_mem_digitsRest.trans hwhole
  | hexFloat => exact nil_mem_fractionRest.trans hparted
  | exponentMark => exact nil_mem_exponentRest.trans hparted
  | exponent => exact nil_mem_manyOf_mul.trans hparted
  | binary => exact nil_mem_manyOf_mul.trans hwhole
  | sized =>
    by_cases hkind : kind = .int
    · simp [following, hkind, nil_mem_sizeSuffix, Numeral.kind, Numeral.isInteger]
    · simp [following, hkind, Ne.symm hkind, Language.notMem_zero, Numeral.kind, Numeral.isInteger]
  | complex =>
    by_cases hkind : kind = .complex
    · simp [following, hkind, Numeral.kind]
    · simp [following, hkind, Ne.symm hkind, Language.notMem_zero, Numeral.kind]

theorem cons_mem_wholeSuffix (hint : form.isInteger = true) (hsized : form ≠ .sized) :
    c :: cs ∈ wholeSuffix d kind ↔
      ∃ m ∈ form.suffixes d, m.1 c = true ∧ cs ∈ following d kind m.2 := by
  have hcomplex : form ≠ .complex := by
    rintro rfl
    cases hint
  by_cases hd : d = .luaJIT <;> cases kind <;>
    simp [Numeral.suffixes, wholeSuffix, imaginarySuffix, sizeSuffix, following, cons_mem_oneOf,
      cons_mem_manyOf, Language.notMem_zero, hd, hsized, hcomplex, hint]

theorem cons_mem_partedSuffix (hint : form.isInteger = false) (hcomplex : form ≠ .complex) :
    c :: cs ∈ partedSuffix d kind ↔
      ∃ m ∈ form.suffixes d, m.1 c = true ∧ cs ∈ following d kind m.2 := by
  have hsized : form ≠ .sized := by
    rintro rfl
    cases hint
  by_cases hd : d = .luaJIT <;> cases kind <;>
    simp [Numeral.suffixes, partedSuffix, imaginarySuffix, following, cons_mem_oneOf,
      Language.notMem_zero, hd, hsized, hcomplex, hint]

theorem cons_mem_following_int : c :: cs ∈ following d kind .int ↔
    c.isDigit = true ∧ cs ∈ following d kind .int ∨
      ['.'].contains c = true ∧ cs ∈ following d kind .float ∨
      ['e', 'E'].contains c = true ∧ cs ∈ following d kind .exponentMark ∨
      c :: cs ∈ wholeSuffix d kind :=
  cons_mem_digitsRest

/-- A number goes on after a form with a character of one of its classes, and after that like any
number after the form that the class leads to. -/
theorem cons_mem_following : c :: cs ∈ following d kind form ↔
    ∃ m ∈ form.extensions d ++ form.suffixes d, m.1 c = true ∧ cs ∈ following d kind m.2 := by
  simp only [List.mem_append, or_and_right, exists_or]
  cases form with
  | zero =>
    rw [← cons_mem_wholeSuffix rfl (by decide), mem_following_zero, cons_mem_following_int,
      cons_mem_oneOf_mul, cons_mem_oneOf_mul]
    by_cases hd : d = .luaJIT <;>
      simp only [Numeral.extensions, Numeral.extensions.decimal, hd, if_true, if_false,
        List.cons_append, List.nil_append, List.exists_mem_cons_iff, List.not_mem_nil, false_and,
        true_and, exists_false, or_false, or_assoc, or_comm (a := c :: cs ∈ wholeSuffix _ _)]
  | int =>
    rw [← cons_mem_wholeSuffix rfl (by decide)]
    simp only [Numeral.extensions, Numeral.extensions.decimal, List.exists_mem_cons_iff,
      List.not_mem_nil, false_and, exists_false, or_false, or_assoc]
    exact cons_mem_digitsRest
  | float =>
    rw [← cons_mem_partedSuffix rfl (by decide)]
    simp only [Numeral.extensions, List.exists_mem_cons_iff, List.not_mem_nil, false_and,
      exists_false, or_false, or_assoc]
    exact cons_mem_fractionRest
  | hex =>
    rw [← cons_mem_wholeSuffix rfl (by decide)]
    simp only [Numeral.extensions, List.exists_mem_cons_iff, List.not_mem_nil, false_and,
      exists_false, or_false, or_assoc]
    exact cons_mem_digitsRest
  | hexFloat =>
    rw [← cons_mem_partedSuffix rfl (by decide)]
    simp only [Numeral.extensions, List.exists_mem_cons_iff, List.not_mem_nil, false_and,
      exists_false, or_false, or_assoc]
    exact cons_mem_fractionRest
  | exponentMark =>
    rw [← cons_mem_partedSuffix rfl (by decide)]
    simp only [Numeral.extensions, List.exists_mem_cons_iff, List.not_mem_nil, false_and,
      exists_false, or_false, or_assoc]
    exact cons_mem_exponentRest
  | exponent =>
    rw [← cons_mem_partedSuffix rfl (by decide)]
    simp only [Numeral.extensions, List.exists_mem_cons_iff, List.not_mem_nil, false_and,
      exists_false, or_false]
    exact cons_mem_manyOf_mul
  | binary =>
    rw [← cons_mem_wholeSuffix rfl (by decide)]
    simp only [Numeral.extensions, List.exists_mem_cons_iff, List.not_mem_nil, false_and,
      exists_false, or_false]
    exact cons_mem_manyOf_mul
  | sized =>
    by_cases hd : d = .luaJIT <;> by_cases hkind : kind = .int <;>
      simp [Numeral.extensions, Numeral.suffixes, Numeral.isInteger, following, sizeSuffix,
        cons_mem_manyOf, Language.notMem_zero, hd, hkind]
  | complex =>
    by_cases hkind : kind = .complex <;>
      simp [Numeral.extensions, Numeral.suffixes, Numeral.isInteger, following,
        Language.notMem_zero, hkind]

theorem exists_following_of_step : c :: cs ∈ following d kind form ↔
    ∃ form', form.step d c = some form' ∧ cs ∈ following d kind form' := by
  simp only [cons_mem_following, Numeral.step_eq_some_iff]
  constructor
  · rintro ⟨m, hm, hc, hcs⟩
    exact ⟨m.2, ⟨m, hm, hc, rfl⟩, hcs⟩
  · rintro ⟨_, ⟨m, hm, hc, rfl⟩, hcs⟩
    exact ⟨m, hm, hc, hcs⟩

/-- A run from a form reads what comes after it in a number, and ends in a form of the same kind. -/
theorem mem_following_iff : cs ∈ following d kind form ↔
    ∃ last, cs.foldlM (Numeral.step d) form = some last ∧ last.kind = kind := by
  induction cs generalizing form with
  | nil =>
    rw [nil_mem_following, List.foldlM_nil]
    simp
  | cons c cs ih =>
    rw [exists_following_of_step, List.foldlM_cons]
    simp only [ih, Option.bind_eq_bind, Option.bind_eq_some_iff]
    grind

/-! ### Numbers at the start of a text -/

/-- The characters start with a digit, or with a point and a digit. -/
def StartsNumber : List Char → Prop
  | c :: cs => c.isDigit = true ∨ c = '.' ∧ ∃ c' ∈ cs.head?, c'.isDigit = true
  | [] => False

/-- The form of a number after its first digit. -/
def Numeral.ofDigit (c : Char) : Numeral :=
  if c = '0' then .zero else .int

theorem cons_mem_numeralsOf : c :: cs ∈ numeralsOf d kind ↔
    c.isDigit = true ∧ cs ∈ following d kind (.ofDigit c) ∨
      c = '.' ∧ cs ∈ oneOf Char.isDigit * following d kind .float := by
  have hsplit : c :: cs ∈ numeralsOf d kind ↔
      c.isDigit = true ∧ cs ∈ following d kind .int ∨
        c = '.' ∧ cs ∈ oneOf Char.isDigit * following d kind .float ∨
        c = '0' ∧ (cs ∈ oneOf ['x', 'X'].contains * following d kind .hex ∨
          d = .luaJIT ∧ cs ∈ oneOf ['b', 'B'].contains * following d kind .binary) := by
    by_cases hd : d = .luaJIT <;>
      simp [numeralsOf, numeralsEnding, Language.mem_add, cons_mem_oneOf_mul, hd,
        following, following.decimal, following.hexadecimal, following.binary, and_or_left,
        or_assoc]
  by_cases hzero : c = '0'
  · subst hzero
    rw [hsplit, Numeral.ofDigit, if_pos rfl, mem_following_zero]
    simp
  · simp only [hsplit, Numeral.ofDigit, hzero, if_false, false_and, or_false]

theorem startsNumber_of_mem (h : cs ∈ numeralsOf d kind) : StartsNumber cs := by
  cases cs with
  | nil =>
    have hbinary : [] ∉ (if d = .luaJIT then oneOf ['0'].contains * (oneOf ['b', 'B'].contains *
        (manyOf ['0', '1'].contains * wholeSuffix d kind)) else 0) := by
      split
      · exact nil_notMem_oneOf_mul
      · exact Language.notMem_zero []
    simp [numeralsOf, numeralsEnding, Language.mem_add, nil_notMem_oneOf_mul, hbinary] at h
  | cons c cs =>
    rcases cons_mem_numeralsOf.mp h with ⟨hc, -⟩ | ⟨rfl, hcs⟩
    · exact .inl hc
    · cases cs with
      | nil => exact absurd hcs nil_notMem_oneOf_mul
      | cons c' cs => exact .inr ⟨rfl, c', rfl, (cons_mem_oneOf_mul.mp hcs).1⟩

namespace LexState

theorem start_of_isDigit (opensText : Bool) (h : c.isDigit = true) :
    start opensText c = number (.ofDigit c) := by
  have hne : c ∉ ['\n', '\r', ' ', '\t', '\x0b', '\x0c', '"', '\x27', '[', '#'] :=
    Numeral.notMem_of_all (by decide) h
  simp only [List.mem_cons, List.not_mem_nil, or_false, not_or] at hne
  simp [start, Text.isLineBreak, isBlank, hne, h, Numeral.ofDigit, apply_ite number]

theorem foldlM_number (form : Numeral) (cs : List Char) :
    cs.foldlM (step d) (number form) = (cs.foldlM (Numeral.step d) form).map number := by
  induction cs generalizing form with
  | nil => rfl
  | cons c cs ih =>
    rw [List.foldlM_cons, List.foldlM_cons, step]
    cases form.step d c with
    | none => rfl
    | some form' => exact ih form'

theorem step_point (d : Dialect) (opensText : Bool) (h : c.isDigit = true) :
    step d (start opensText '.') c = some (number .float) := by
  have hpoint : c ≠ '.' := by
    rintro rfl
    cases h
  have hstart : start opensText '.' = symbol .dot := by
    cases opensText <;> decide
  simp [hstart, step, extendSymbol, h]

/-- A run over characters that start like a number is one over the forms of a number. -/
theorem exists_foldlM_start (d : Dialect) (opensText : Bool) (h : StartsNumber (c :: cs)) :
    ∃ form rest, cs.foldlM (step d) (start opensText c) =
        (rest.foldlM (Numeral.step d) form).map number ∧
      ∀ kind, c :: cs ∈ numeralsOf d kind ↔ rest ∈ following d kind form := by
  rcases h with hc | ⟨rfl, c', hc', hdigit⟩
  · refine ⟨.ofDigit c, cs, ?_, fun kind => ?_⟩
    · rw [start_of_isDigit opensText hc, foldlM_number]
    · have hpoint : c ≠ '.' := by
        rintro rfl
        cases hc
      simp only [cons_mem_numeralsOf, hc, hpoint, true_and, false_and, or_false]
  · obtain ⟨rest, rfl⟩ : ∃ rest, cs = c' :: rest := List.head?_eq_some_iff.mp hc'
    refine ⟨.float, rest, ?_, fun kind => ?_⟩
    · rw [List.foldlM_cons, step_point d opensText hdigit]
      exact foldlM_number .float rest
    · have hpoint : '.'.isDigit = false := by decide
      simp [cons_mem_numeralsOf, cons_mem_oneOf_mul, hdigit, hpoint]

/-- A run over characters that start like a number ends in a form of the kind of the number. -/
theorem exists_form_of_accepts {opensText : Bool} {state : LexState} (h : StartsNumber (c :: cs))
    (haccepts : cs.foldlM (step d) (start opensText c) = some state) :
    ∃ form, state = number form ∧ ∀ kind, c :: cs ∈ numeralsOf d kind ↔ form.kind = kind := by
  obtain ⟨form, rest, hrun, hmem⟩ := exists_foldlM_start d opensText h
  rw [hrun, Option.map_eq_some_iff] at haccepts
  obtain ⟨last, hlast, rfl⟩ := haccepts
  refine ⟨last, rfl, fun kind => ?_⟩
  rw [hmem, mem_following_iff, hlast]
  simp

theorem accepts_of_mem (opensText : Bool) (h : c :: cs ∈ numeralsOf d kind) :
    (cs.foldlM (step d) (start opensText c)).isSome = true := by
  obtain ⟨form, rest, hrun, hmem⟩ := exists_foldlM_start d opensText (startsNumber_of_mem h)
  obtain ⟨last, hlast, -⟩ := mem_following_iff.mp ((hmem kind).mp h)
  rw [hrun, hlast]
  rfl

end LexState

theorem Lexeme.Leads.number {l : Lexeme} {opensText : Bool} {rest : List Char}
    (h : l.Leads d opensText rest) (hstarts : StartsNumber (l.chars ++ rest)) :
    l.chars ∈ numerals d ∧
      (∀ longer ∈ numerals d, longer <+: l.chars ++ rest → longer.length ≤ l.chars.length) ∧
      ∀ kind, l.chars ∈ numeralsOf d kind ↔ l.kind = kind := by
  cases h with
  | @intro c taken _ state h =>
    have htaken : StartsNumber (c :: taken) := by
      rcases hstarts with hc | ⟨rfl, c', hc', hdigit⟩
      · exact .inl hc
      · cases taken with
        | nil =>
          obtain rfl : LexState.start opensText '.' = state := Option.some.inj h.accepts
          have hstop := h.stops c' hc'
          rw [LexState.step_point d opensText hdigit] at hstop
          cases hstop
        | cons first taken => exact .inr ⟨rfl, c', hc', hdigit⟩
    obtain ⟨form, rfl, hmem⟩ := LexState.exists_form_of_accepts htaken h.accepts
    refine ⟨mem_numerals_iff.mpr ⟨form.kind, (hmem _).mpr rfl⟩, ?_, hmem⟩
    intro longer hlonger hinitial
    obtain ⟨kind, hkind⟩ := mem_numerals_iff.mp hlonger
    cases longer with
    | nil => exact Nat.zero_le _
    | cons c' longer =>
      obtain ⟨rfl, htail⟩ := List.cons_prefix_cons.mp hinitial
      exact Nat.succ_le_succ (h.length_le htail (LexState.accepts_of_mem opensText hkind))

/-- A token that starts with a digit, or with a point and a digit, is the longest number there is at
its place. It is complex if it has the suffix `i`, otherwise an integer if it has neither a point
nor an exponent, and otherwise a float. -/
theorem lex_number {text : String} {t : Token} {before cs : List Char} (ht : t ∈ lex d text)
    (htext : text.toList = before ++ cs) (hstart : t.span.start = String.utf8Len before)
    (hcs : StartsNumber cs) :
    ∃ chars rest, cs = chars ++ rest ∧ t.span.length = String.utf8Len chars ∧
      chars ∈ numerals d ∧
      (∀ longer ∈ numerals d, longer <+: cs → longer.length ≤ chars.length) ∧
      (t.kind = .complex ↔ chars ∈ basicNumerals d * imaginarySuffix d) ∧
      (t.kind = .int ↔ chars ∈ integers d * sizeSuffix d) ∧
      (t.kind = .float ↔ chars ∉ basicNumerals d * imaginarySuffix d ∧
        chars ∉ integers d * sizeSuffix d) := by
  obtain ⟨ls, hls⟩ := exists_lexes d true text.toList
  rw [lex_of_lexes hls, List.mem_toArray] at ht
  obtain ⟨earlier, l, later, rfl, rfl⟩ := exists_append_of_mem_layOut ht
  have hchars := hls.flatMap_chars
  rw [List.flatMap_append, List.flatMap_cons, htext] at hchars
  obtain ⟨rfl, rfl⟩ : before = earlier.flatMap Lexeme.chars ∧
      cs = l.chars ++ later.flatMap Lexeme.chars := by
    have hbefore := Text.splitBytes?_append before cs
    rw [← hstart, ← hchars, Nat.zero_add, sizes, Text.splitBytes?_append] at hbefore
    exact Prod.mk.inj (Option.some.inj hbefore.symm)
  obtain ⟨_, hleads⟩ := hls.leads
  obtain ⟨hmem, hlongest, hkind⟩ := hleads.number hcs
  refine ⟨l.chars, later.flatMap Lexeme.chars, rfl, rfl, hmem, hlongest, ?_, ?_, ?_⟩
  · rw [← numeralsOf_complex, hkind]
  · rw [← numeralsOf_int, hkind]
  · rw [← numeralsOf_complex, ← numeralsOf_int, hkind, hkind]
    constructor
    · intro hfloat
      rw [show l.kind = .float from hfloat]
      decide
    · rintro ⟨hcomplex, hint⟩
      by_contra hfloat
      have hself := (hkind l.kind).mpr rfl
      rw [numeralsOf_eq_zero hint hfloat hcomplex] at hself
      exact Language.notMem_zero _ hself

/-- A complex number in hexadecimal, with a point and an exponent, between a concatenation and a
name. -/
theorem lex_number_complex :
    let text := "1ULL..0xA.8p-1ix"
    let chars := "0xA.8p-1i".toList
    ⟨.complex, 6, 9⟩ ∈ lex .luaJIT text ∧ text.toList = "1ULL..".toList ++ (chars ++ ['x']) ∧
      StartsNumber (chars ++ ['x']) ∧ chars ∈ basicNumerals .luaJIT * imaginarySuffix .luaJIT ∧
      ∀ longer ∈ numerals .luaJIT, longer <+: chars ++ ['x'] → longer.length ≤ chars.length := by
  intro text chars
  have ht : ⟨.complex, 6, 9⟩ ∈ lex .luaJIT text := by decide +kernel
  have htext : text.toList = "1ULL..".toList ++ (chars ++ ['x']) := by decide +kernel
  have hstarts : StartsNumber (chars ++ ['x']) := .inl (by decide)
  obtain ⟨taken, rest, hsplit, hlength, -, hlongest, hcomplex, -, -⟩ :=
    lex_number ht htext (by decide) hstarts
  have htaken : Text.splitBytes? (String.utf8Len taken) (taken ++ rest) = some (taken, rest) :=
    Text.splitBytes?_append taken rest
  rw [← hsplit, ← hlength] at htaken
  obtain rfl : chars = taken := congrArg Prod.fst (Option.some.inj htaken)
  exact ⟨ht, htext, hstarts, hcomplex.mp rfl, hlongest⟩

end LuaFold
