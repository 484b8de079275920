import Multipath.Trace.Report

/-!
# The command line

Reads the files that the options name, prints the report, and ends with status 0, with
status 1 after a failure, or with status 2 when the options are wrong.
-/

namespace Multipath.CommandLine

/-- A system's error number arrives as it is or negated, by the call that met it. -/
def isNumbered (number code : UInt32) : Bool :=
  code == number || code == 0 - number

/-- Number 21 is that of a directory where a file is wanted, and 36 that of too long a name. -/
def readFailure : IO.Error → ReadFailure
  | .noFileOrDirectory .. => .missing
  | .inappropriateType _ code _ => if isNumbered 21 code then .directory else .notDirectory
  | .permissionDenied .. => .denied
  | fault@(.invalidArgument _ code _) =>
    if isNumbered 36 code then .nameTooLong else .other (toString fault)
  | fault => .other (toString fault)

def readText (path : String) : IO (Except ReadFailure String) := do
  match ← (IO.FS.readBinFile path).toBaseIO with
  | .error fault => return .error (readFailure fault)
  | .ok bytes =>
    match String.fromUTF8? bytes with
    | some text => return .ok text
    | none => return .error .invalidEncoding

def readAll (paths : List String) : IO Files := do
  let texts ← paths.mapM fun path => return (path, ← readText path)
  return fun path => (texts.lookup path).getD (.error .missing)

def usage : String :=
  "usage: multipath (--topology FILE | --fat-tree-k K) [--config FILE] [--state NODE]\n" ++
    "         [--src NODE --dst NODE] [--protocol NAME] [--src-port PORT] [--dst-port PORT]\n" ++
    "         [--flows COUNT]"

def run (args : List String) : IO UInt32 := do
  match Options.ofArgs? args with
  | none =>
    IO.eprintln usage
    return 2
  | some o =>
    let files ← readAll (o.config.toList ++ o.topology.toList)
    let report := Report.ofOptions files o
    IO.print report.output
    if let some failure := report.failure then
      IO.eprintln s!"error: {failure.message}"
    return report.status

end Multipath.CommandLine

def main (args : List String) : IO UInt32 :=
  Multipath.CommandLine.run args
