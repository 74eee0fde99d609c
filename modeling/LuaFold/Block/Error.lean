import LuaFold.Token.Kind

/-! Why a search for the end of a block or of a bracket fails. -/

namespace LuaFold

inductive SearchError
  /-- The delimiter `opener` has no `closer`. -/
  | unbalanced (opener closer : TokenKind)
  /-- A token of this kind opens nothing. -/
  | unknownOpener (kind : TokenKind)
  /-- The block that `opener` opened has no end. -/
  | unterminated (opener : TokenKind)
deriving DecidableEq

def SearchError.message : SearchError → String
  | unbalanced opener closer =>
    "unbalanced '" ++ opener.label ++ "': input ended before the matching '" ++ closer.label ++ "'"
  | unknownOpener kind => "'" ++ kind.label ++ "' does not open a block"
  | unterminated opener => "block opened by '" ++ opener.label ++ "' is not terminated"

abbrev SearchResult := Except SearchError Unit

instance SearchResult.instDecidableEq : DecidableEq SearchResult
  | .ok (), .ok () => isTrue rfl
  | .ok _, .error _ => isFalse nofun
  | .error _, .ok _ => isFalse nofun
  | .error e, .error e' => decidable_of_iff (e = e') (by simp)

end LuaFold
