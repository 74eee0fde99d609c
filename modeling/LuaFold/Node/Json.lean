import LuaFold.Node.Basic

/-! Nodes as JSON, two spaces deeper at each level. -/

namespace LuaFold.Node

def jsonLines (n : Node) : List String :=
  ["  \x7b",
   "    \"kind\": \"" ++ n.kind.tag ++ "\",",
   "    \"collapsed\": " ++ (if n.collapsed then "true" else "false") ++ ",",
   "    \"token_start\": " ++ toString n.tokenStart ++ ",",
   "    \"token_end\": " ++ toString n.tokenEnd ++ ",",
   "    \"range\": \x7b",
   "      \"start_offset\": " ++ toString n.span.start ++ ",",
   "      \"length\": " ++ toString n.span.length,
   "    \x7d",
   "  \x7d"]

/-- A list of nodes as an array. An empty one has no line breaks. -/
def renderJson (nodes : List Node) : String :=
  if nodes.isEmpty then "[]"
  else "[\n" ++ ",\n".intercalate (nodes.map fun n => "\n".intercalate n.jsonLines) ++ "\n]"

end LuaFold.Node
