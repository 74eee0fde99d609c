/-! The kinds of token: their order, their classes, and the text that stands for each. -/

namespace LuaFold

/-- What a token is. `absent` and `eof` are kinds of no token that the lexer makes: the first says
that there is none, the second that the tokens are over. -/
inductive TokenKind
  | absent
  | kwAnd | kwBreak | kwDo | kwElse | kwElseIf | kwEnd | kwFalse | kwFor | kwFunction | kwGoto
  | kwIf | kwIn | kwLocal | kwNil | kwNot | kwOr | kwRepeat | kwReturn | kwSelf | kwThen | kwTrue
  | kwUntil | kwWhile
  | whitespace | endOfLine
  | plus | minus | mul | div | idiv | dot | concat | dots | comma | assign | eq | ge | le | ne
  | shl | shr | lt | gt | mod | pow | len | bitAnd | bitOr | bitXor | colon | doubleColon
  | semicolon | leftBracket | rightBracket | leftParen | rightParen | leftBrace | rightBrace
  | complex | int | float | name | string | longString
  | shortComment | longComment | shebang
  | eof | unknown
deriving DecidableEq, Inhabited

namespace TokenKind

/-- Every kind, in order. -/
def all : List TokenKind :=
  [.absent, .kwAnd, .kwBreak, .kwDo, .kwElse, .kwElseIf, .kwEnd, .kwFalse, .kwFor, .kwFunction,
   .kwGoto, .kwIf, .kwIn, .kwLocal, .kwNil, .kwNot, .kwOr, .kwRepeat, .kwReturn, .kwSelf, .kwThen,
   .kwTrue, .kwUntil, .kwWhile, .whitespace, .endOfLine, .plus, .minus, .mul, .div, .idiv, .dot,
   .concat, .dots, .comma, .assign, .eq, .ge, .le, .ne, .shl, .shr, .lt, .gt, .mod, .pow, .len,
   .bitAnd, .bitOr, .bitXor, .colon, .doubleColon, .semicolon, .leftBracket, .rightBracket,
   .leftParen, .rightParen, .leftBrace, .rightBrace, .complex, .int, .float, .name, .string,
   .longString, .shortComment, .longComment, .shebang, .eof, .unknown]

def count : Nat := 70

def index (k : TokenKind) : Nat :=
  k.ctorIdx

/-- The text that stands for the kind in messages: its spelling where it has only one. -/
def label : TokenKind → String
  | kwAnd => "and"
  | kwBreak => "break"
  | kwDo => "do"
  | kwElse => "else"
  | kwElseIf => "elseif"
  | kwEnd => "end"
  | kwFalse => "false"
  | kwFor => "for"
  | kwFunction => "function"
  | kwGoto => "goto"
  | kwIf => "if"
  | kwIn => "in"
  | kwLocal => "local"
  | kwNil => "nil"
  | kwNot => "not"
  | kwOr => "or"
  | kwRepeat => "repeat"
  | kwReturn => "return"
  | kwSelf => "self"
  | kwThen => "then"
  | kwTrue => "true"
  | kwUntil => "until"
  | kwWhile => "while"
  | plus => "+"
  | minus => "-"
  | mul => "*"
  | div => "/"
  | idiv => "//"
  | dot => "."
  | concat => ".."
  | dots => "..."
  | comma => ","
  | assign => "="
  | eq => "=="
  | ge => ">="
  | le => "<="
  | ne => "~="
  | shl => "<<"
  | shr => ">>"
  | lt => "<"
  | gt => ">"
  | mod => "%"
  | pow => "^"
  | len => "#"
  | bitAnd => "&"
  | bitOr => "|"
  | bitXor => "~"
  | colon => ":"
  | doubleColon => "::"
  | semicolon => ";"
  | leftBracket => "["
  | rightBracket => "]"
  | leftParen => "("
  | rightParen => ")"
  | leftBrace => "\x7b"
  | rightBrace => "\x7d"
  | int => "<integer>"
  | float => "<number>"
  | complex => "<complex>"
  | name => "<name>"
  | string | longString => "<string>"
  | whitespace => "<whitespace>"
  | endOfLine => "<eol>"
  | shortComment | longComment => "<comment>"
  | shebang => "<shebang>"
  | eof => "<eof>"
  | absent | unknown => "<unknown>"

def keywords : List (String × TokenKind) :=
  [("and", kwAnd), ("break", kwBreak), ("do", kwDo), ("else", kwElse), ("elseif", kwElseIf),
   ("end", kwEnd), ("false", kwFalse), ("for", kwFor), ("function", kwFunction), ("goto", kwGoto),
   ("if", kwIf), ("in", kwIn), ("local", kwLocal), ("nil", kwNil), ("not", kwNot), ("or", kwOr),
   ("repeat", kwRepeat), ("return", kwReturn), ("self", kwSelf), ("then", kwThen),
   ("true", kwTrue), ("until", kwUntil), ("while", kwWhile)]

/-- The kind of a word: a reserved word or a name. -/
def ofWord (word : String) : TokenKind :=
  (keywords.lookup word).getD name

def isKeyword (k : TokenKind) : Bool :=
  kwAnd.index ≤ k.index && k.index ≤ kwWhile.index

/-- A word is a name or a reserved word. -/
theorem ofWord_eq_name_or_isKeyword (word : String) :
    ofWord word = name ∨ (ofWord word).isKeyword = true := by
  have hkeywords : ∀ entry ∈ keywords, entry.2.isKeyword = true := by decide
  unfold ofWord
  cases h : keywords.lookup word with
  | none => exact .inl rfl
  | some kind =>
    obtain ⟨before, after, hsplit, -⟩ := List.lookup_eq_some_iff.mp h
    exact .inr (hkeywords (word, kind) (by simp [hsplit]))

/-- A token that no grammar rule sees: white space, a line break, a comment or the shebang line. -/
def isTrivia : TokenKind → Bool
  | shortComment | longComment | endOfLine | whitespace | shebang => true
  | _ => false

def isWhitespace : TokenKind → Bool
  | whitespace | endOfLine => true
  | _ => false

def isComment : TokenKind → Bool
  | shortComment | longComment => true
  | _ => false

theorem getElem?_all_index (k : TokenKind) : all[k.index]? = some k := by
  cases k <;> rfl

theorem index_lt_count (k : TokenKind) : k.index < count :=
  (List.getElem?_eq_some_iff.mp (getElem?_all_index k)).1

theorem mem_all (k : TokenKind) : k ∈ all :=
  List.mem_of_getElem? (getElem?_all_index k)

theorem index_injective {a b : TokenKind} (h : a.index = b.index) : a = b := by
  have ha := getElem?_all_index a
  rw [h, getElem?_all_index b] at ha
  exact (Option.some.inj ha).symm

end TokenKind

end LuaFold
