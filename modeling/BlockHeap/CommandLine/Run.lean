import BlockHeap.CommandLine.Options
import BlockHeap.CommandLine.Output
import BlockHeap.FileTree
import BlockHeap.Heap.Construct
import BlockHeap.Trace.Replay

/-!
# Running trace files

Every trace file is replayed on a fresh heap.  For each, the output has its name, a line that
sums up the replay and, if that is asked for, a listing of the heap; or a line that says what
failed, with the texts of all causes.  The run fails if a trace does.

A run relies on its surroundings in four ways: for the bytes of files, for room, for the mapping of
arenas and for reading its arguments.
-/

namespace BlockHeap

/-- The text of an error of the arena, then those of its causes. -/
def ArenaError.chain : ArenaError → List String
  | exhausted requested available => [message (exhausted requested available)]
  | map cause => [message (map cause), cause.message]

/-- The text of an error of the heap, then those of its causes. -/
def HeapError.chain : HeapError → List String
  | arena error => error.chain
  | error => [error.message]

/-- The text of an error of a replay, then those of its causes. -/
def ReplayError.chain : ReplayError → List String
  | allocate line id source => message (allocate line id source) :: source.chain
  | error => [error.message]

namespace CommandLine

/-! ## Surroundings -/

/-- What a run finds around it: the bytes of the file with a name, or why there are none, and the
number of bytes for which an owned arena finds room. -/
structure Environment where
  read : String → Except FileError ByteArray
  room : Nat

/-- The files of a tree. -/
def Environment.ofTree (tree : FileTree) (room : Nat) : Environment := ⟨tree.read, room⟩

/-- What reads the arguments of a run, and what maps its arenas. -/
structure Platform where
  parse : List String → Except UsageError Options := Options.parse
  space : AddressSpace := .usual

/-! ## One file -/

/-- The outcome of a trace file: what was put on standard output, and the texts of the error that
ended it, if one did. -/
structure TraceOutcome where
  name : String
  entries : List Entry
  failure : Option (List String) := none
  deriving DecidableEq, Repr

/-- The entries of a trace file, with those for its failure. -/
def TraceOutcome.stdout (outcome : TraceOutcome) : List Entry :=
  match outcome.failure with
  | none => outcome.entries
  | some chain =>
    outcome.entries ++
      [.record (.failed outcome.name chain), .line ("  FAILED: " ++ ": ".intercalate chain)]

/-- The result of a computation, with what it has logged. -/
def capture {α : Type} (x : Traced α) : Except Fault (List Entry × α) := do
  return (Entry.ofEvents x.events, ← x.outcome)

/-- Replays a trace on a heap and checks it at the end. -/
def replayOn (options : Options) (h : Heap) (trace : Trace) :
    Except Fault (List Entry × Option (List String)) := do
  let (replayLog, h, result) ← capture (h.replay trace options.check)
  match result with
  | .error error => return (replayLog, some error.chain)
  | .ok summary => do
    let (checkLog, inspection) ← capture (h.check options.verbose)
    let entries :=
      replayLog ++ .line ("  " ++ summary.text) :: inspection.listing.map .line ++ checkLog
    let violations := inspection.report.violations
    if violations.isEmpty then
      return (entries, none)
    else
      let records := ", ".intercalate (violations.map Violation.record)
      return (entries, some ["heap inconsistent after replay: [" ++ records ++ "]"])

/-- A fresh heap as the options ask for, with room for so many bytes. -/
def freshHeap (options : Options) (room : Nat) (space : AddressSpace) :
    Traced (Except HeapError Heap) :=
  if options.mapped then Heap.withMapping options.config space
  else Heap.withConfig options.config room

/-- What is put on standard output about a trace before it is replayed. -/
def heading (name : String) (trace : Trace) : List Entry :=
  [.record (.loaded name trace.length), .line (name ++ ":")]

/-- Runs one trace file. -/
def runTrace (options : Options) (environment : Environment) (space : AddressSpace)
    (name : String) : Except Fault TraceOutcome :=
  match Trace.ofFile (environment.read name) with
  | .error error => return ⟨name, [], some (("loading " ++ name) :: error.chain)⟩
  | .ok trace => do
    let (makeLog, made) ← capture (freshHeap options environment.room space)
    match made with
    | .error error => return ⟨name, heading name trace ++ makeLog, some error.chain⟩
    | .ok h => do
      let (entries, failure) ← replayOn options h trace
      return ⟨name, heading name trace ++ makeLog ++ entries, failure⟩

/-! ## All files -/

/-- Failures are counted in numbers below this bound, the 31st power of two.  A program is told the
number of its arguments in such a number, so that there are never as many of them. -/
def failureBound : Nat := 0x80000000

/-- Puts the outcomes of all trace files together. -/
def Outcome.ofTraces (outcomes : List TraceOutcome) : Except Fault Outcome :=
  let stdout := outcomes.flatMap TraceOutcome.stdout
  let failed := outcomes.countP fun outcome => outcome.failure.isSome
  if failureBound ≤ failed then .error .overflow
  else if failed = 0 then .ok ⟨0, stdout, []⟩
  else .ok ⟨1, stdout, [s!"Error: {failed} of {outcomes.length} traces failed"]⟩

/-- The outcome of a run with a configuration that is not valid. -/
def Outcome.ofConfigError (error : ConfigError) : Outcome :=
  ⟨1, [], ["Error: invalid heap configuration", "", "Caused by:", "    " ++ error.message]⟩

/-- The outcome of a run with arguments that are refused. -/
def Outcome.ofUsageError (error : UsageError) : Outcome :=
  ⟨2, [], ["error: " ++ error.message]⟩

/-- Runs all trace files. -/
def runTraces (options : Options) (environment : Environment) (space : AddressSpace := .usual) :
    Except Fault Outcome :=
  match options.config.validate with
  | .error error => return .ofConfigError error
  | .ok () => do
    let outcomes ← options.traces.mapM (runTrace options environment space)
    Outcome.ofTraces outcomes

/-- Runs with the given arguments. -/
def run (arguments : List String) (environment : Environment) (platform : Platform := {}) :
    Except Fault Outcome :=
  match platform.parse arguments with
  | .error error => return .ofUsageError error
  | .ok options => runTraces options environment platform.space

end CommandLine

end BlockHeap
