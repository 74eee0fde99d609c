/-! The dialects of Lua that the lexer reads, their order, and the forms of number that set them
apart. -/

namespace LuaFold

inductive Dialect
  | lua54
  | luaJIT
  | lua55
deriving DecidableEq

namespace Dialect

/-- A text whose dialect is not known is read as Lua 5.5. -/
instance : Inhabited Dialect := ⟨lua55⟩

def all : List Dialect :=
  [lua54, luaJIT, lua55]

def rank : Dialect → Nat
  | lua54 => 0
  | luaJIT => 1
  | lua55 => 2

instance : LT Dialect := ⟨fun a b => a.rank < b.rank⟩

instance (a b : Dialect) : Decidable (a < b) :=
  inferInstanceAs (Decidable (a.rank < b.rank))

/-- The dialect as it is shown to a reader. -/
def label : Dialect → String
  | lua54 => "Lua 5.4"
  | luaJIT => "LuaJIT"
  | lua55 => "Lua 5.5"

/-- A number may end in `i`. -/
def hasComplexNumbers (d : Dialect) : Bool :=
  d == luaJIT

/-- An integer may end in letters `u` and `l` that give its size. -/
def hasSizedIntegers (d : Dialect) : Bool :=
  d == luaJIT

/-- An integer may be written in binary, after `0b`. -/
def hasBinaryIntegers (d : Dialect) : Bool :=
  d == luaJIT

end Dialect

end LuaFold
