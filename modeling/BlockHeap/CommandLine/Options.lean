import BlockHeap.Config
import BlockHeap.Text.Numeral

/-!
# Command-line options

The arguments name the trace files to run.  Flags may stand anywhere among them up to an argument
`--`, after which every argument is a file name.  A flag that takes a number finds it after an
equals sign or in the next argument.  No flag may be given twice, and there must be a file.
-/

namespace BlockHeap

namespace CommandLine

/-- What the arguments ask for: which trace files to run, in order, whether to check the heap after
every operation, to list its blocks after each trace, and to map the arena, and the tuning of the
heaps. -/
structure Options where
  traces : List String
  check : Bool
  verbose : Bool
  mapped : Bool
  config : Config
  deriving DecidableEq, Repr

/-- Why the arguments are refused. -/
inductive UsageError where
  | unknownFlag (flag : String)
  | repeatedFlag (flag : String)
  | unexpectedValue (flag : String)
  | missingValue (flag : String)
  | malformedValue (flag : String) (error : Text.NumeralError)
  | emptyName
  | noTraces
  deriving DecidableEq, Repr

/-- The text of the error. -/
def UsageError.message : UsageError → String
  | unknownFlag flag => "unknown flag " ++ flag
  | repeatedFlag flag => "flag " ++ flag ++ " is given twice"
  | unexpectedValue flag => "flag " ++ flag ++ " takes no value"
  | missingValue flag => "flag " ++ flag ++ " needs a value"
  | malformedValue flag error => "bad value for " ++ flag ++ ": " ++ error.message
  | emptyName => "empty file name"
  | noTraces => "no trace file"

/-- The flags that are on or off. -/
inductive Switch where
  | check
  | verbose
  | mapped
  deriving DecidableEq, Repr

/-- The flags that take a number. -/
inductive Setting where
  | chunkSize
  | fitWindow
  | maxHeap
  deriving DecidableEq, Repr

/-- What a single argument is.  Several short flags may share one argument, and the value of a flag
that takes a number may be attached to it. -/
inductive Argument where
  | endOfFlags
  | file
  | letters (letters : List Char)
  | switch (name : String) (switch : Switch)
  | setting (name : String) (setting : Setting) (value : Option String)
  deriving DecidableEq, Repr

namespace Argument

/-- The meaning of a flag written out, and of the value attached to it if there is one. -/
def ofLong (name : String) (value : Option String) : Except UsageError Argument :=
  let plain (which : Switch) : Except UsageError Argument :=
    if value.isSome then throw (.unexpectedValue name) else return .switch name which
  match name with
  | "--check" => plain .check
  | "--verbose" => plain .verbose
  | "--mmap" => plain .mapped
  | "--chunk-size" => return .setting name .chunkSize value
  | "--fit-window" => return .setting name .fitWindow value
  | "--max-heap" => return .setting name .maxHeap value
  | _ => throw (.unknownFlag name)

/-- Reads a single argument. -/
def read (argument : String) : Except UsageError Argument :=
  match argument.toList with
  | ['-', '-'] => return .endOfFlags
  | '-' :: '-' :: text =>
    let name := "--" ++ String.ofList (text.takeWhile (· ≠ '='))
    match text.dropWhile (· ≠ '=') with
    | [] => ofLong name none
    | _ :: value => ofLong name (some (String.ofList value))
  | '-' :: first :: more => return .letters (first :: more)
  | _ => return .file

end Argument

/-- What the arguments seen so far ask for, the last trace file first. -/
structure Arguments where
  traces : List String := []
  switches : List Switch := []
  settings : List (Setting × Nat) := []
  deriving DecidableEq, Repr

namespace Arguments

/-- Turns a switch on. -/
def addSwitch (seen : Arguments) (flag : String) (switch : Switch) : Except UsageError Arguments :=
  if switch ∈ seen.switches then throw (.repeatedFlag flag)
  else return { seen with switches := switch :: seen.switches }

/-- Sets a number. -/
def addSetting (seen : Arguments) (flag : String) (setting : Setting) (value : String) :
    Except UsageError Arguments :=
  match seen.settings.lookup setting with
  | some _ => throw (.repeatedFlag flag)
  | none =>
    match Text.numeral value.toList with
    | .error error => throw (.malformedValue flag error)
    | .ok number => return { seen with settings := (setting, number) :: seen.settings }

/-- Adds a file. -/
def addTrace (seen : Arguments) (name : String) : Except UsageError Arguments :=
  if name.isEmpty then throw .emptyName else return { seen with traces := name :: seen.traces }

/-- Adds the switches in the letters of a short flag. -/
def addLetters (seen : Arguments) (flag : String) : List Char → Except UsageError Arguments
  | [] => return seen
  | 'v' :: rest => do
    let seen ← seen.addSwitch flag .verbose
    seen.addLetters flag rest
  | _ => throw (.unknownFlag flag)

/-- Adds arguments in order. -/
def addAll (seen : Arguments) : List String → Except UsageError Arguments
  | [] => return seen
  | argument :: rest => do
    match ← Argument.read argument with
    | .endOfFlags => rest.foldlM addTrace seen
    | .file => do
      let seen ← seen.addTrace argument
      seen.addAll rest
    | .letters letters => do
      let seen ← seen.addLetters argument letters
      seen.addAll rest
    | .switch name switch => do
      let seen ← seen.addSwitch name switch
      seen.addAll rest
    | .setting name setting (some value) => do
      let seen ← seen.addSetting name setting value
      seen.addAll rest
    | .setting name setting none =>
      match rest with
      | [] => throw (.missingValue name)
      | value :: rest => do
        let seen ← seen.addSetting name setting value
        seen.addAll rest

/-- The options in all arguments. -/
def toOptions (seen : Arguments) : Except UsageError Options :=
  let setting (which : Setting) (default : Nat) := (seen.settings.lookup which).getD default
  let defaults : Config := {}
  if seen.traces.isEmpty then throw .noTraces
  else
    return {
      traces := seen.traces.reverse
      check := Switch.check ∈ seen.switches
      verbose := Switch.verbose ∈ seen.switches
      mapped := Switch.mapped ∈ seen.switches
      config := {
        chunkSize := setting .chunkSize defaults.chunkSize
        fitWindow := setting .fitWindow defaults.fitWindow
        maxHeap := setting .maxHeap defaults.maxHeap } }

end Arguments

/-- Reads arguments. -/
def Options.parse (arguments : List String) : Except UsageError Options := do
  let seen ← Arguments.addAll {} arguments
  seen.toOptions

end CommandLine

end BlockHeap
