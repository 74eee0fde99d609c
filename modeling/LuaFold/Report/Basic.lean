import LuaFold.Outline
import LuaFold.Text.Quoted
import LuaFold.Text.WhiteSpace

/-! The report of a text: its outermost blocks, one to a line, each with its lines, its bytes and
the first characters of its body. -/

namespace LuaFold.Report

/-- Counts line feeds in the first `bytes` bytes of a text, from `found` on. -/
def lineFeeds (found bytes : Nat) : List Char → Nat
  | [] => found
  | c :: rest =>
    if bytes = 0 then found
    else lineFeeds (if c == '\n' then found + 1 else found) (bytes - c.utf8Size) rest

/-- The line of the byte at `offset`, counted from 1. Only line feeds end lines. -/
def lineOf (text : String) (offset : Nat) : Nat :=
  lineFeeds 0 offset text.toList + 1

/-- The most characters of a body that a report shows. -/
def previewLength : Nat := 40

/-- The start of a body, quoted, without the white space around the body. -/
def preview (body : String) : String :=
  Text.quote ((Text.trim body.toList).take previewLength)

def padIndex (n : Nat) : String :=
  let digits := toString n
  String.ofList (List.replicate (3 - digits.length) ' ') ++ digits

def blockLine (text : String) (index : Nat) (n : Node) : String :=
  let firstLine := lineOf text n.span.start
  let lastLine := lineOf text (max (n.span.stop - 1) n.span.start)
  "[" ++ padIndex index ++ "] lines " ++ toString firstLine ++ "-" ++ toString lastLine
    ++ " bytes " ++ toString n.span.start ++ ".." ++ toString n.span.stop
    ++ " " ++ preview ((Text.slice? text n.span).getD "")

def lines (text : String) : List String :=
  let blocks := (outermostBodies default text).toList
  (toString blocks.length ++ " top-level blocks")
    :: blocks.zipIdx.map fun (n, index) => blockLine text index n

/-- The text of a file, or why it is none. -/
def decode (bytes : ByteArray) : Except String String :=
  match String.fromUTF8? bytes with
  | some text => .ok text
  | none => .error "stream did not contain valid UTF-8"

/-- What a run of the program leaves: its exit code and what it wrote. -/
structure Output where
  exitCode : UInt32
  stdout : String
  stderr : String
deriving DecidableEq, Inhabited

def usage : Output :=
  ⟨0, "Usage: block_dump <source_file.lua>\n", ""⟩

def ofFile (file : String) (contents : Except String ByteArray) : Output :=
  match contents >>= decode with
  | .error reason => ⟨1, "", "Error reading file '" ++ file ++ "': " ++ reason ++ "\n"⟩
  | .ok text =>
    ⟨0, "=== File: " ++ file ++ " ===\n\n" ++ String.join ((lines text).map (· ++ "\n")), ""⟩

/-- Runs the program with these arguments, of which only the first one counts. A file is read by
`read`, which gives its bytes or why it cannot. -/
def run {M : Type → Type} [Monad M] (read : String → M (Except String ByteArray)) :
    List String → M Output
  | [] => return usage
  | file :: _ => return ofFile file (← read file)

end LuaFold.Report
