import LuaFold.Report.Basic

/-! The command line: the report of a file, or how to ask for one. -/

namespace LuaFold.Report

/-- Why the system cannot read a file, in its own words. Its number may come negated. -/
def systemReason : IO.Error → String
  | .noFileOrDirectory _ code details | .inappropriateType _ code details
  | .permissionDenied _ code details | .invalidArgument _ code details =>
    details.capitalize ++ " (os error " ++ toString (min code (-code)) ++ ")"
  | e => toString e

def readFile (file : String) : IO (Except String ByteArray) := do
  try
    return .ok (← IO.FS.readBinFile file)
  catch e =>
    return .error (systemReason e)

end LuaFold.Report

/-- Writes the report of the file that the first argument names. -/
def main (args : List String) : IO UInt32 := do
  let output ← LuaFold.Report.run LuaFold.Report.readFile args
  IO.print output.stdout
  IO.eprint output.stderr
  return output.exitCode
