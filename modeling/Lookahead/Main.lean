import Lookahead.Program.Run

/-!
# The command

Reads the arguments and the grammar file, and prints what the run came to.
-/

namespace Lookahead.Program

/-- The name and version of the program. -/
def versionText : String :=
  "firstfollow 0.1.0\n"

/-- The help text. -/
def helpText : String :=
  "Computes FIRST and FOLLOW sets of a BNF grammar\n\n" ++
  "Usage: firstfollow [OPTIONS] <FILE>\n\n" ++
  "Arguments:\n" ++
  "  <FILE>  File containing the grammar\n\n" ++
  "Options:\n" ++
  "  -s, --start <SYMBOL>  Start symbol (default: first in the file)\n" ++
  "      --first           Only print FIRST sets\n" ++
  "      --follow          Only print FOLLOW sets\n" ++
  "      --suffixes        Also print the FIRST set of every line suffix\n" ++
  "  -h, --help            Print help\n" ++
  "  -V, --version         Print version\n"

/-- What is said about refused arguments. -/
def UsageFault.message : UsageFault → String
  | .unknownArgument => "error: unexpected argument\n"
  | .invalidValue => "error: a value is required\n"
  | .tooManyValues => "error: unexpected value\n"
  | .conflict => "error: the arguments cannot be used together\n"
  | .missingFile => "error: the following required argument was not provided: <FILE>\n"

/-- The outcome when no run takes place. -/
def Stop.outcome (stop : Stop) : Outcome :=
  match stop with
  | .help => ⟨stop.status, helpText, ""⟩
  | .version => ⟨stop.status, versionText, ""⟩
  | .refused fault => ⟨stop.status, "", fault.message⟩

/-- Read a file as text. -/
def readFile (path : String) : IO (Except ReadFault String) := do
  if let some fault := pathFault? path then
    return .error fault
  try
    return decodeText (← IO.FS.readBinFile path)
  catch
    | .noFileOrDirectory .. => return .error .missing
    | .invalidArgument .. => return .error .tooLong
    | .inappropriateType _ 21 _ => return .error .isDirectory
    | .inappropriateType .. => return .error .throughFile
    | .permissionDenied .. => return .error .denied
    | failure => return .error (.other (toString failure))

end Lookahead.Program

open Lookahead.Program in
/-- Run the program on its arguments. -/
def main (arguments : List String) : IO UInt32 := do
  let outcome ← match Options.ofArguments arguments with
    | .error stop => pure stop.outcome
    | .ok options => do
        let content ← readFile options.file
        pure (Outcome.ofRun (run options content))
  IO.print outcome.output
  IO.eprint outcome.errors
  return outcome.status.toUInt32
