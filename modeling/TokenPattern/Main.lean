import TokenPattern.CommandLine.Report

/-!
# The command line

Reads the pattern file that the command names, prints the report and ends with its code.
-/

namespace TokenPattern.CommandLine

/-- Why the system did not open or read a file. -/
def ReadFault.ofError : IO.Error → ReadFault
  | .noFileOrDirectory .. => missing
  | .inappropriateType _ code _ => if code = 21 then directory else notDirectory
  | .permissionDenied .. => denied
  | e => other (toString e)

/-- The content of a file. -/
def contentOf (path : String) : IO (Except ReadFault String) := do
  try
    let bytes ← IO.FS.readBinFile path
    match String.fromUTF8? bytes with
    | some text => return .ok text
    | none => return .error .notText
  catch e => return .error (.ofError e)

/-- The report on some arguments. -/
def reportOn (arguments : List String) : IO Report := do
  match Command.parse arguments with
  | .error e => return e.report
  | .ok c =>
    match c.patternFile? with
    | some path => return c.report (← contentOf path)
    | none => return c.report (.error .missing)

end TokenPattern.CommandLine

open TokenPattern.CommandLine

/-- Runs one command. -/
def main (arguments : List String) : IO UInt32 := do
  let r ← reportOn arguments
  (← IO.getStdout).putStr r.output
  (← IO.getStderr).putStr r.errors
  return r.code.toUInt32
