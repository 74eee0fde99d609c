import LuaFold.Token.Basic

/-! The tokens of a text with the places between them. A place is before a token that is not trivia
or at the end, so the view forward never shows trivia. -/

namespace LuaFold

/-- A text and its tokens, trivia included. -/
structure TokenStream where
  text : String
  tokens : Array Token
deriving Inhabited

/-- A place in a token stream: `index` is that of the next token that is not trivia, or the number
of tokens, and `consumed` is just past the last such token consumed, or 0. -/
structure Place where
  index : Nat
  consumed : Nat
deriving DecidableEq, Inhabited

namespace TokenStream

/-- The kind of the token at `index`, trivia or not; `none` when there is none. -/
def kindAt? (s : TokenStream) (index : Nat) : Option TokenKind :=
  s.tokens[index]?.map Token.kind

def kinds (s : TokenStream) (start stop : Nat) : List TokenKind :=
  (s.tokens.extract start stop).toList.map Token.kind

/-- The first index from `index` on that is not of trivia. -/
def skipTrivia (s : TokenStream) (index : Nat) : Nat :=
  if h : index < s.tokens.size then
    if s.tokens[index].isTrivia then s.skipTrivia (index + 1) else index
  else index
termination_by s.tokens.size - index

/-- The start of the run of trivia that ends before `index`. -/
def triviaStart (s : TokenStream) : Nat → Nat
  | 0 => 0
  | index + 1 =>
    if s.tokens[index]?.any Token.isTrivia then s.triviaStart index else index + 1

/-- The kind of the last token before `index` that is not trivia. -/
def kindBefore? (s : TokenStream) : Nat → Option TokenKind
  | 0 => none
  | index + 1 =>
    match s.kindAt? index with
    | none => none
    | some kind => if kind.isTrivia then s.kindBefore? index else some kind

/-- The byte offset where the token at `index` starts, or the length of the text. -/
def offsetAt (s : TokenStream) (index : Nat) : Nat :=
  match s.tokens[index]? with
  | some t => t.span.start
  | none => s.text.utf8ByteSize

/-- The place before the first token that is not trivia. -/
def first (s : TokenStream) : Place :=
  ⟨s.skipTrivia 0, 0⟩

def atEnd (s : TokenStream) (p : Place) : Bool :=
  s.tokens.size ≤ p.index

/-- The kind of the token at the place, `eof` at the end. -/
def current (s : TokenStream) (p : Place) : TokenKind :=
  (s.kindAt? p.index).getD .eof

/-- The place after the token at the place. The end stays where it is. -/
def advance (s : TokenStream) (p : Place) : Place :=
  if s.atEnd p then p else ⟨s.skipTrivia (p.index + 1), p.index + 1⟩

theorem le_skipTrivia (s : TokenStream) (index : Nat) : index ≤ s.skipTrivia index := by
  fun_induction skipTrivia s index with
  | case1 index _ _ ih => omega
  | case2 => exact Nat.le_refl _
  | case3 => exact Nat.le_refl _

theorem index_lt_size {s : TokenStream} {p : Place} (h : s.atEnd p = false) :
    p.index < s.tokens.size := by
  simpa [atEnd] using h

theorem index_lt_advance {s : TokenStream} {p : Place} (h : s.atEnd p = false) :
    p.index < (s.advance p).index := by
  simp only [advance, h]
  exact s.le_skipTrivia (p.index + 1)

theorem index_le_advance (s : TokenStream) (p : Place) : p.index ≤ (s.advance p).index := by
  cases h : s.atEnd p with
  | true => simp [advance, h]
  | false => exact Nat.le_of_lt (index_lt_advance h)

end TokenStream

end LuaFold
