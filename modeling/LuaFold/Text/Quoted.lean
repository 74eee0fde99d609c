import LuaFold.Text.Printable

/-! Quoted texts: between double quotes, with the quote, the backslash and all that does not print
escaped. -/

namespace LuaFold.Text

/-- The character inside double quotes: as it is, by a letter, or by its code point in
hexadecimal. -/
def escapeChar (c : Char) : List Char :=
  match c with
  | '\x00' => ['\\', '0']
  | '\t' => ['\\', 't']
  | '\r' => ['\\', 'r']
  | '\n' => ['\\', 'n']
  | '"' => ['\\', '"']
  | '\\' => ['\\', '\\']
  | c =>
    if isPrintable c then [c]
    else ['\\', 'u', '\x7b'] ++ Nat.toDigits 16 c.toNat ++ ['\x7d']

def quote (cs : List Char) : String :=
  String.ofList ('"' :: cs.flatMap escapeChar ++ ['"'])

end LuaFold.Text
