import LuaFold.Lexer.State
import LuaFold.Text.Scanner
import LuaFold.Token.Basic

/-! The lexer: the tokens of a text, each as long as it can be. Every character is in a token, and
a literal that is not closed ends where its state stops, so no text is refused. -/

namespace LuaFold

/-- A text that is read up to a token boundary, in the line `line`, counted from 1. -/
structure Lexer where
  dialect : Dialect
  scanner : Scanner
  line : Nat

namespace Lexer

def ofString (dialect : Dialect) (text : String) : Lexer :=
  ⟨dialect, .ofString text, 1⟩

/-- The next character is the first of a line, and that is the first line. -/
def atTextStart (lx : Lexer) : Bool :=
  lx.scanner.atLineStart && lx.line == 1

/-- The next token and the lexer after it; `none` at the end of the text. -/
def next? (lx : Lexer) : Option (Token × Lexer) :=
  match lx.scanner.rest with
  | [] => none
  | c :: _ =>
    let first := LexState.start lx.atTextStart c
    let ((state, line), scanner) :=
      lx.scanner.mark.advance.munch (LexState.stepLine lx.dialect) (first, first.countLine lx.line)
    let kind := state.kind?.getD (TokenKind.ofWord scanner.text)
    some (⟨kind, scanner.span⟩, { lx with scanner, line })

theorem length_rest_next?_lt {lx lx' : Lexer} {t : Token} (h : lx.next? = some (t, lx')) :
    lx'.scanner.rest.length < lx.scanner.rest.length := by
  unfold next? at h
  split at h
  · cases h
  · rename_i c rest hrest
    simp only [Option.some.injEq, Prod.mk.injEq] at h
    obtain ⟨_, rfl⟩ := h
    refine Nat.lt_of_le_of_lt (Scanner.length_rest_munch_le _ _ _) ?_
    simp [hrest]

/-- `done` followed by the tokens from here on. -/
def readFrom (done : Array Token) (lx : Lexer) : Array Token :=
  match _ : lx.next? with
  | none => done
  | some (t, lx') => readFrom (done.push t) lx'
termination_by lx.scanner.rest.length
decreasing_by exact length_rest_next?_lt (by assumption)

end Lexer

def lex (dialect : Dialect) (text : String) : Array Token :=
  (Lexer.ofString dialect text).readFrom #[]

end LuaFold
