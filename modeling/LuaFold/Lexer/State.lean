import LuaFold.Lexer.Numeral
import LuaFold.Text.LineBreak
import LuaFold.Text.Numeric

/-! The states of a token that is read one character at a time. A token ends before the first
character that its state does not accept. So no state looks ahead, and what follows a token has no
part in its kind. -/

namespace LuaFold

/-- Where a line break is read. -/
inductive BreakSite
  /-- On its own, as a token. -/
  | token
  /-- Inside quotes, after a backslash. -/
  | escape (quote : Char)
  /-- Inside quotes, among the blanks and line breaks that a backslash and a `z` skip. -/
  | blankEscape (quote : Char)
  | long (kind : TokenKind) (width : Nat)
deriving DecidableEq

/-- What the characters read so far of a token may become. -/
inductive LexState
  | finished (kind : TokenKind)
  /-- A symbol, which may be the start of a longer one. -/
  | symbol (kind : TokenKind)
  /-- The character `first` of a line break, which one more character may join. -/
  | newLine (site : BreakSite) (first : Char)
  | blanks
  | word
  | number (form : Numeral)
  /-- A `#` at the start of the text. -/
  | hash
  /-- A comment or a shebang line, up to a line break. -/
  | restOfLine (kind : TokenKind)
  | dashes
  /-- An opening bracket, of a comment or not, with `width` equals signs after it. -/
  | bracket (comment : Bool) (width : Nat)
  | long (kind : TokenKind) (width : Nat)
  /-- Inside a long bracket, after a closing bracket and `seen` equals signs. -/
  | longClosing (kind : TokenKind) (width seen : Nat)
  | quoted (quote : Char)
  /-- Inside quotes, after a backslash. -/
  | escape (quote : Char)
  /-- Inside quotes, in the blanks and line breaks that a backslash and a `z` skip. -/
  | blankEscape (quote : Char)
deriving DecidableEq

/-- The state past a line break at the site. -/
def BreakSite.past : BreakSite → LexState
  | token => .finished .endOfLine
  | escape quote => .quoted quote
  | blankEscape quote => .blankEscape quote
  | long kind width => .long kind width

namespace LexState

def isBlank (c : Char) : Bool :=
  c == ' ' || c == '\t' || c == '\x0b' || c == '\x0c'

def isWordStart (c : Char) : Bool :=
  Text.isAlphabetic c || c == '_'

def isWordPart (c : Char) : Bool :=
  Text.isAlphanumeric c || c == '_'

/-- The symbol of one character, the brackets that may open a long string aside. -/
def symbolOf? : Char → Option TokenKind
  | '+' => some .plus
  | '-' => some .minus
  | '*' => some .mul
  | '/' => some .div
  | '.' => some .dot
  | ',' => some .comma
  | '=' => some .assign
  | '<' => some .lt
  | '>' => some .gt
  | '%' => some .mod
  | '^' => some .pow
  | '#' => some .len
  | '&' => some .bitAnd
  | '|' => some .bitOr
  | '~' => some .bitXor
  | ':' => some .colon
  | ';' => some .semicolon
  | ']' => some .rightBracket
  | '(' => some .leftParen
  | ')' => some .rightParen
  | '\x7b' => some .leftBrace
  | '\x7d' => some .rightBrace
  | _ => none

/-- The state after the first character of a token. With `opensText`, a `#` may start a shebang
line. -/
def start (opensText : Bool) (c : Char) : LexState :=
  if Text.isLineBreak c then newLine .token c
  else if isBlank c then blanks
  else if c == '"' || c == '\x27' then quoted c
  else if c == '[' then bracket false 0
  else if c == '#' && opensText then hash
  else if c == '0' then number .zero
  else if c.isDigit then number .int
  else match symbolOf? c with
    | some kind => symbol kind
    | none => if isWordStart c then word else finished .unknown

theorem start_eq_of_ne {c : Char} (h : c ≠ '#') : start true c = start false c := by
  simp [start, h]

def extendSymbol : TokenKind → Char → Option LexState
  | .minus, '-' => some dashes
  | .div, '/' => some (symbol .idiv)
  | .dot, '.' => some (symbol .concat)
  | .dot, c => if c.isDigit then some (number .float) else none
  | .concat, '.' => some (symbol .dots)
  | .assign, '=' => some (symbol .eq)
  | .lt, '=' => some (symbol .le)
  | .lt, '<' => some (symbol .shl)
  | .gt, '=' => some (symbol .ge)
  | .gt, '>' => some (symbol .shr)
  | .bitXor, '=' => some (symbol .ne)
  | .colon, ':' => some (symbol .doubleColon)
  | _, _ => none

/-- The state inside quotes after one more character. A line break ends the token. -/
def stepQuoted (quote c : Char) : Option LexState :=
  if c == quote then some (finished .string)
  else if Text.isLineBreak c then none
  else if c == '\\' then some (escape quote)
  else some (quoted quote)

theorem extendSymbol_eq_some {kind : TokenKind} {c : Char} {state : LexState}
    (h : extendSymbol kind c = some state) :
    state = dashes ∨ (∃ kind', state = symbol kind') ∨ ∃ form, state = number form := by
  unfold extendSymbol at h
  split at h <;> (try split at h) <;> cases h <;> simp

theorem stepQuoted_eq_some {quote c : Char} {state : LexState}
    (h : stepQuoted quote c = some state) :
    state = finished .string ∨ state = escape quote ∨ state = quoted quote := by
  unfold stepQuoted at h
  split at h
  · exact .inl (Option.some.inj h).symm
  split at h
  · cases h
  split at h
  · exact .inr (.inl (Option.some.inj h).symm)
  · exact .inr (.inr (Option.some.inj h).symm)

/-- The state in the blanks and line breaks that a backslash and a `z` skip, after one more
character. -/
def stepBlankEscape (quote c : Char) : Option LexState :=
  if isBlank c then some (blankEscape quote)
  else if Text.isLineBreak c then some (newLine (.blankEscape quote) c)
  else stepQuoted quote c

/-- The state in a long bracket after one more character. -/
def stepLong (kind : TokenKind) (width : Nat) (c : Char) : LexState :=
  if c == ']' then longClosing kind width 0
  else if Text.isLineBreak c then newLine (.long kind width) c
  else long kind width

/-- The state after a line break at the site and a character that does not join it. -/
def stepPast : BreakSite → Char → Option LexState
  | .token, _ => none
  | .escape quote, c => stepQuoted quote c
  | .blankEscape quote, c => stepBlankEscape quote c
  | .long kind width, c => some (stepLong kind width c)

/-- The state after one more character, if the token goes on. -/
def step (d : Dialect) : LexState → Char → Option LexState
  | finished _, _ => none
  | symbol kind, c => extendSymbol kind c
  | newLine site first, c =>
    if c == Text.lineBreakPartner first then some site.past else stepPast site c
  | blanks, c => if isBlank c then some blanks else none
  | word, c => if isWordPart c then some word else none
  | number form, c => (form.step d c).map number
  | hash, c => if c == '!' then some (restOfLine .shebang) else none
  | restOfLine kind, c => if Text.isLineBreak c then none else some (restOfLine kind)
  | dashes, c =>
    if c == '[' then some (bracket true 0)
    else if Text.isLineBreak c then none
    else some (restOfLine .shortComment)
  | bracket comment width, c =>
    if c == '=' then some (bracket comment (width + 1))
    else if c == '[' then some (long (if comment then .longComment else .longString) width)
    else if comment && !Text.isLineBreak c then some (restOfLine .shortComment)
    else none
  | long kind width, c => some (stepLong kind width c)
  | longClosing kind width seen, c =>
    some <|
      if c == '=' then longClosing kind width (seen + 1)
      else if c == ']' && seen = width then finished kind
      else stepLong kind width c
  | quoted quote, c => stepQuoted quote c
  | escape quote, c =>
    some <|
      if c == 'z' then blankEscape quote
      else if Text.isLineBreak c then newLine (.escape quote) c
      else quoted quote
  | blankEscape quote, c => stepBlankEscape quote c

theorem step_past (d : Dialect) (site : BreakSite) (c : Char) :
    site.past.step d c = stepPast site c := by
  cases site <;> rfl

theorem step_newLine_partner (d : Dialect) (site : BreakSite) (first : Char) :
    (newLine site first).step d (Text.lineBreakPartner first) = some site.past :=
  if_pos (beq_self_eq_true _)

theorem step_newLine_of_ne {site : BreakSite} {first c : Char} (d : Dialect)
    (h : c ≠ Text.lineBreakPartner first) :
    (newLine site first).step d c = stepPast site c :=
  if_neg (by simpa using h)

/-- The number of the line once a character has led to the state. A line break is counted where its
first character is read. -/
def countLine (line : Nat) : LexState → Nat
  | newLine _ _ => line + 1
  | _ => line

/-- The state and the number of the line after one more character. -/
def stepLine (d : Dialect) (s : LexState × Nat) (c : Char) : Option (LexState × Nat) :=
  (s.1.step d c).map fun state => (state, state.countLine s.2)

/-- The kind of a token that ends in this state; `none` for a word, whose letters decide. -/
def kind? : LexState → Option TokenKind
  | finished kind => some kind
  | symbol kind => some kind
  | newLine .token _ => some .endOfLine
  | newLine (.escape _) _ | newLine (.blankEscape _) _ => some .string
  | newLine (.long kind _) _ => some kind
  | blanks => some .whitespace
  | word => none
  | number form => some form.kind
  | hash => some .len
  | restOfLine kind => some kind
  | dashes => some .shortComment
  | bracket true _ => some .shortComment
  | bracket false 0 => some .leftBracket
  | bracket false (_ + 1) => some .longString
  | long kind _ => some kind
  | longClosing kind _ _ => some kind
  | quoted _ | escape _ | blankEscape _ => some .string

end LexState

end LuaFold
