import BlockHeap.CommandLine.Run

/-!
# The program

Reads the trace files that the arguments name, runs them and prints what comes of it, the errors of
the log among it.
-/

namespace BlockHeap

namespace CommandLine

/-- Why a file could not be read.  A directory can be opened and fails where it is read, with an
error that names no file. -/
def fileError : IO.Error → FileError
  | .inappropriateType none .. => .isDirectory
  | .inappropriateType (some _) .. => .notDirectory
  | .permissionDenied .. => .forbidden
  | .invalidArgument .. => .nameTooLong
  | _ => .notFound

/-- The bytes of a file, or why there are none. -/
def readFile (name : String) : IO (Except FileError ByteArray) := do
  try
    return .ok (← IO.FS.readBinFile name)
  catch error =>
    return .error (fileError error)

/-- Prints the outcome of a run and answers with its exit code. -/
def report (outcome : Except Fault Outcome) : IO UInt32 := do
  match outcome with
  | .ok outcome =>
    IO.print (outcome.output .errors)
    IO.eprint outcome.errorOutput
    return outcome.exit.toUInt32
  | .error fault =>
    IO.eprintln fault.message
    return 101

/-- Reads the files, runs them and prints. -/
def execute (arguments : List String) : IO UInt32 := do
  match Options.parse arguments with
  | .error error => report (.ok (.ofUsageError error))
  | .ok options => do
    let contents ← options.traces.mapM fun name => return (name, ← readFile name)
    let read (name : String) := (contents.lookup name).getD (.error .notFound)
    report (runTraces options ⟨read, Arena.usualRoom⟩)

end CommandLine

end BlockHeap

/-- Runs the command line. -/
def main (arguments : List String) : IO UInt32 :=
  BlockHeap.CommandLine.execute arguments
