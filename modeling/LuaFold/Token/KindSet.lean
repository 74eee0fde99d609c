import LuaFold.Token.Kind

/-! Sets of token kinds, as words with one bit for each kind. -/

namespace LuaFold

/-- The number of bits in the word of a set. There are fewer kinds. -/
def KindSet.width : Nat := 128

/-- A set of token kinds: `k` is in the set when the bit `k.index` is on. -/
structure KindSet where
  bits : BitVec KindSet.width
deriving DecidableEq

namespace KindSet

def empty : KindSet := ⟨0⟩

instance : EmptyCollection KindSet := ⟨empty⟩

instance : Inhabited KindSet := ⟨empty⟩

/-- The word in which only the bit of `k` is on. -/
def mask (k : TokenKind) : BitVec width :=
  1 <<< k.index

def insert (s : KindSet) (k : TokenKind) : KindSet :=
  ⟨s.bits ||| mask k⟩

def ofList (kinds : List TokenKind) : KindSet :=
  kinds.foldl insert ∅

def contains (s : KindSet) (k : TokenKind) : Bool :=
  s.bits &&& mask k != 0

instance : Membership TokenKind KindSet := ⟨fun s k => s.contains k = true⟩

instance (k : TokenKind) (s : KindSet) : Decidable (k ∈ s) :=
  inferInstanceAs (Decidable (s.contains k = true))

def isDisjoint (a b : KindSet) : Bool :=
  a.bits &&& b.bits == 0

def isEmpty (s : KindSet) : Bool :=
  s.bits == 0

/-- The members in the order of the kinds. -/
def toList (s : KindSet) : List TokenKind :=
  TokenKind.all.filter s.contains

/-- The places of the bits that are on, from the lowest, between braces. -/
def debugText (s : KindSet) : String :=
  "\x7b" ++ ", ".intercalate (((List.range width).filter s.bits.getLsbD).map toString) ++ "\x7d"

end KindSet

end LuaFold
