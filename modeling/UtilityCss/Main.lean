import UtilityCss.CommandLine.Basic

/-!
# The program

Reads the files that the command line may name, runs it and prints what it gives.
-/

namespace UtilityCss.CommandLine

/-- What is found at a path. -/
def readFile (path : Text) : IO Document.File := do
  let name := String.ofList path
  try
    match String.fromUTF8? (← IO.FS.readBinFile name) with
    | some content => return .text content.toList
    | none => return .binary
  catch
    | .noFileOrDirectory _ _ _ => return .missing
    | _ => return .directory

/-- The paths that a command line may name. -/
def candidatePaths (arguments : List Text) : List Text :=
  arguments ++ arguments.filterMap (Text.dropStart? "--rules=".toList)

end UtilityCss.CommandLine

open UtilityCss in
/-- Runs the program. -/
def main (arguments : List String) : IO UInt32 := do
  let arguments := arguments.map String.toList
  let paths := CommandLine.candidatePaths arguments
  let files ← paths.mapM fun path => do return (path, ← CommandLine.readFile path)
  let output := CommandLine.run (fun path => (files.lookup path).getD .missing) arguments
  IO.print (String.ofList output.out)
  IO.eprint (String.ofList output.err)
  if output.misuse.isSome then IO.eprintln "Malformed data."
  return UInt32.ofNat output.exit
