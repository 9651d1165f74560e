import BlockHeap.Text.Blank
import BlockHeap.Text.Numeral
import BlockHeap.Text.Quoted
import BlockHeap.Trace.Operation

/-!
# Reading traces

A trace is plain text with one operation on a line:

```text
  # id  size
  a 0 512        allocate 512 bytes as block 0
  c 1 16 8       allocate 16 times 8 zero bytes as block 1
  r 0 1024       resize block 0 to 1024 bytes
  f 1            release block 1
```

What follows a `#` on its line is ignored, and so is a line without any field.  Every operation
keeps the number of its line, counted from one over all lines.  The first line that is not of this
form decides how reading fails; on it, fields are looked at from the left, except that the number
of the block is read before the kind of operation is judged.
-/

namespace BlockHeap

/-- The numbers of an operation. -/
inductive Operand where
  | id
  | size
  | count
  deriving DecidableEq, Repr

/-- What the operand is called. -/
def Operand.name : Operand → String
  | id => "id"
  | size => "size"
  | count => "count"

/-- Why a line is no operation. -/
inductive LineError where
  | missing (operand : Operand)
  | malformed (operand : Operand) (field : List Char) (error : Text.NumeralError)
  | unknownOperation (field : List Char)
  | unexpectedField (field : List Char)
  deriving DecidableEq, Repr

/-- The text of the error. -/
def LineError.message : LineError → String
  | missing operand => "missing " ++ operand.name
  | malformed operand field error =>
    "bad " ++ operand.name ++ " " ++ Text.quoted field ++ ": " ++ error.message
  | unknownOperation field => "unknown operation " ++ Text.quoted field
  | unexpectedField field => "unexpected field " ++ Text.quoted field

/-- A line that is no operation, by its number, and what is wrong with it. -/
structure ParseError where
  line : Nat
  reason : LineError
  deriving DecidableEq, Repr

/-- The text of the error. -/
def ParseError.message (error : ParseError) : String :=
  s!"line {error.line}: " ++ error.reason.message

namespace Operation

/-- Reads one operand off the fields. -/
def takeOperand (operand : Operand) :
    List (List Char) → Except LineError (Nat × List (List Char))
  | [] => throw (.missing operand)
  | field :: rest =>
    match Text.numeral field with
    | .ok value => return (value, rest)
    | .error error => throw (.malformed operand field error)

/-- Reads the operands after the number of the block, for the kind of operation that the first
field names. -/
def takeKind (kind : List Char) (id : Nat) (fields : List (List Char)) :
    Except LineError (Operation × List (List Char)) :=
  match kind with
  | ['a'] => do
    let (size, rest) ← takeOperand .size fields
    return (.allocate id size, rest)
  | ['f'] => return (.release id, fields)
  | ['r'] => do
    let (size, rest) ← takeOperand .size fields
    return (.resize id size, rest)
  | ['c'] => do
    let (count, rest) ← takeOperand .count fields
    let (size, rest) ← takeOperand .size rest
    return (.zeroedAllocate id count size, rest)
  | _ => throw (.unknownOperation kind)

/-- Reads the fields of a line; no operation if there are none. -/
def ofFields : List (List Char) → Except LineError (Option Operation)
  | [] => return none
  | kind :: fields => do
    let (id, rest) ← takeOperand .id fields
    let (operation, rest) ← takeKind kind id rest
    match rest with
    | [] => return some operation
    | extra :: _ => throw (.unexpectedField extra)

/-- Reads a line. -/
def ofLine (line : List Char) : Except LineError (Option Operation) :=
  ofFields (Text.fields (line.takeWhile (· ≠ '#')))

end Operation

/-- A sequence of operations, each with the number of its line. -/
structure Trace where
  ops : List (Nat × Operation)
  deriving DecidableEq, Repr

namespace Trace

/-- Reads lines, the first of which has the given number. -/
def parseLines (number : Nat) : List (List Char) → Except ParseError (List (Nat × Operation))
  | [] => return []
  | line :: rest =>
    match Operation.ofLine line with
    | .error reason => throw ⟨number, reason⟩
    | .ok none => parseLines (number + 1) rest
    | .ok (some operation) => do
      let ops ← parseLines (number + 1) rest
      return (number, operation) :: ops

/-- Reads a text. -/
def parse (text : String) : Except ParseError Trace := do
  let ops ← parseLines 1 (Text.lines text.toList)
  return ⟨ops⟩

/-- How many operations there are. -/
def length (trace : Trace) : Nat := trace.ops.length

/-- Whether there is no operation. -/
def isEmpty (trace : Trace) : Bool := trace.ops.isEmpty

end Trace

end BlockHeap
