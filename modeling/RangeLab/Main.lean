import RangeLab.CommandLine

/-!
# The program

Compiles the scenario named on the command line and prints its inventory, or the names of the
machines that the environment selects. Everything is decided by `CommandLine.run`; this module
hands it the variables and the files of the system.
-/

namespace RangeLab

def variableNames : List String :=
  ["SCENARIO_PATH", "EDITION_PATH", "RANGE_INSTANCES", "RANGE_GUESTS", "RANGE_COPIES",
   "RANGE_EXCLUDE", "RANGE_ALL_MACHINES"]

def readText (path : String) : IO (Except CommandLine.FileFault String) := do
  try
    let bytes ← IO.FS.readBinFile path
    match String.fromUTF8? bytes with
    | some text => return .ok text
    | none => return .error .notText
  catch
    | .noFileOrDirectory .. => return .error .missing
    | e => return .error (.other (toString e))

end RangeLab

open RangeLab in
def main (args : List String) : IO UInt32 := do
  let values ← variableNames.mapM fun name => return (name, ← IO.getEnv name)
  let env : CommandLine.Environment := fun name => (values.lookup name).join
  let paths := args.head?.toList ++ (["SCENARIO_PATH", "EDITION_PATH"].filterMap env)
  let contents ← paths.mapM fun path => return (path, ← readText path)
  let files : CommandLine.Files := fun path => (contents.lookup path).getD (.error .missing)
  let outcome := CommandLine.run args env files
  IO.print outcome.output
  for line in outcome.report do
    IO.eprintln line
  return outcome.exitCode
