import BlockHeap.Check.Report
import BlockHeap.Heap.Resize
import BlockHeap.Trace.Ledger
import BlockHeap.Trace.Parser

/-!
# Replaying traces

A replay runs the operations of a trace on a heap.  It fills every payload with a pattern that
depends on the number of the block, and looks for the pattern again before the block is resized or
given back, so that a heap that writes over live payloads is found out.  It can also check the
whole heap after every operation.

The first operation that cannot be carried out ends the replay.  The heap is then what the
operations before have made of it.
-/

namespace BlockHeap

/-- Why a replay ended early.  The first two are about numbers that are not live or live already,
the next two about requests that the heap refused, and the last two about a payload or a heap that
is not as it was left. -/
inductive ReplayError where
  | unknownId (line id : Nat)
  | duplicateId (line id : Nat)
  | allocate (line id : Nat) (source : HeapError)
  | resize (line id size : Nat)
  | corrupted (line id : Nat)
  | inconsistent (line : Nat) (violations : List Violation)
  deriving DecidableEq, Repr

/-- The text of the error. -/
def ReplayError.message : ReplayError → String
  | unknownId line id => s!"line {line}: block {id} is not live"
  | duplicateId line id => s!"line {line}: block {id} is already live"
  | allocate line id source => s!"line {line}: allocating block {id} failed: " ++ source.message
  | resize line id size => s!"line {line}: resizing block {id} to {size} bytes failed"
  | corrupted line id => s!"line {line}: payload of block {id} was overwritten"
  | inconsistent line violations =>
    s!"line {line}: heap check found {violations.length} violation(s)"

/-- The byte that a replay writes at an index of the payload of a block. -/
def patternByte (id index : Nat) : UInt8 :=
  UInt8.ofNat (id * 131) ^^^ UInt8.ofNat index

namespace Replay

/-! ## Payload patterns -/

/-- Whether the first `length` bytes of a payload hold the pattern of the block; a block without
pointer has nothing that could be wrong. -/
def intact (h : Heap) (id : Nat) (ptr : Option Ptr) (length : Nat) : Except Fault Bool :=
  match ptr with
  | none => return true
  | some ptr => do
    let span ← h.payloadFront ptr length
    return h.agrees span (patternByte id)

/-- Whether the first `length` bytes of a payload are zero. -/
def cleared (h : Heap) (ptr : Option Ptr) (length : Nat) : Except Fault Bool :=
  match ptr with
  | none => return true
  | some ptr => do
    let span ← h.payloadFront ptr length
    return h.agrees span fun _ => 0

/-- Writes the pattern over the bytes that were asked for. -/
def fill (h : Heap) (id : Nat) (block : LiveBlock) : Except Fault Heap :=
  match block.ptr with
  | none => return h
  | some ptr => do
    let span ← h.payloadFront ptr block.size
    return h.overwrite span (patternByte id)

/-! ## Operations -/

/-- Fills a block and enters it into the books. -/
def enter (h : Heap) (ledger : Ledger) (id : Nat) (block : LiveBlock) :
    Except Fault (Heap × Except ReplayError Ledger) := do
  let h ← fill h id block
  let ledger ← ledger.insert id block
  return (h, .ok ledger)

/-- The pointer to book for a request, if it was served; a request for no bytes is, and has
none. -/
def served? : Except HeapError Ptr → Except HeapError (Option Ptr)
  | .ok ptr => .ok (some ptr)
  | .error .zeroSize => .ok none
  | .error error => .error error

/-- Allocates a block. -/
def allocate (h : Heap) (ledger : Ledger) (line id size : Nat) :
    Traced (Heap × Except ReplayError Ledger) := do
  let (h, result) ← h.tryAllocate size
  match served? result with
  | .error source => return (h, .error (.allocate line id source))
  | .ok ptr => enter h ledger id ⟨ptr, size⟩

/-- Allocates a block of zeros and sees that it is one. -/
def zeroedAllocate (h : Heap) (ledger : Ledger) (line id count size : Nat) :
    Traced (Heap × Except ReplayError Ledger) := do
  let (h, result) ← h.tryZeroedAllocate count size
  match served? result with
  | .error source => return (h, .error (.allocate line id source))
  | .ok ptr => do
    let bytes ← Checked.mul count size
    if ← cleared h ptr bytes then
      enter h ledger id ⟨ptr, bytes⟩
    else
      return (h, .error (.corrupted line id))

/-- Gives a live block back. -/
def release (h : Heap) (ledger : Ledger) (line id : Nat) (block : LiveBlock) :
    Traced (Heap × Except ReplayError Ledger) := do
  let ledger ← ledger.remove id block
  if ← intact h id block.ptr block.size then
    let h ← h.release block.ptr
    return (h, .ok ledger)
  else
    return (h, .error (.corrupted line id))

/-- Makes a live block hold `size` bytes. -/
def resize (h : Heap) (ledger : Ledger) (line id size : Nat) (block : LiveBlock) :
    Traced (Heap × Except ReplayError Ledger) := do
  let ledger ← ledger.remove id block
  if ← intact h id block.ptr block.size then
    let (h, ptr) ← h.resize block.ptr size
    if size = 0 then
      enter h ledger id ⟨none, 0⟩
    else if ptr.isNone then
      return (h, .error (.resize line id size))
    else if ← intact h id ptr (min block.size size) then
      enter h ledger id ⟨ptr, size⟩
    else
      return (h, .error (.corrupted line id))
  else
    return (h, .error (.corrupted line id))

/-- Carries one operation out. -/
def apply (h : Heap) (ledger : Ledger) (line : Nat) :
    Operation → Traced (Heap × Except ReplayError Ledger)
  | .allocate id size =>
    if ledger.contains id then return (h, .error (.duplicateId line id))
    else allocate h ledger line id size
  | .zeroedAllocate id count size =>
    if ledger.contains id then return (h, .error (.duplicateId line id))
    else zeroedAllocate h ledger line id count size
  | .release id =>
    match ledger.find? id with
    | none => return (h, .error (.unknownId line id))
    | some block => release h ledger line id block
  | .resize id size =>
    match ledger.find? id with
    | none => return (h, .error (.unknownId line id))
    | some block => resize h ledger line id size block

/-- Checks the heap after the operation on a line. -/
def verify (h : Heap) (line : Nat) : Traced (Except ReplayError Unit) := do
  let inspection ← h.check false
  if inspection.report.isConsistent then
    return .ok ()
  else
    return .error (.inconsistent line inspection.report.violations)

/-- Carries one operation out, counts it, and checks the heap after it if that is asked for. -/
def step (h : Heap) (ledger : Ledger) (checkEach : Bool) (line : Nat) (op : Operation) :
    Traced (Heap × Except ReplayError Ledger) := do
  Traced.emit (.replaying line op)
  let (h, result) ← apply h ledger line op
  match result with
  | .error error => return (h, .error error)
  | .ok ledger =>
    if checkEach then
      match ← verify h line with
      | .error error => return (h, .error error)
      | .ok () => return (h, .ok ledger.tick)
    else
      return (h, .ok ledger.tick)

/-- Carries operations out in order, up to the first that fails. -/
def run (checkEach : Bool) :
    List (Nat × Operation) → Heap → Ledger → Traced (Heap × Except ReplayError Ledger)
  | [], h, ledger => return (h, .ok ledger)
  | (line, op) :: rest, h, ledger => do
    let (h, result) ← step h ledger checkEach line op
    match result with
    | .error error => return (h, .error error)
    | .ok ledger => run checkEach rest h ledger

end Replay

namespace Heap

/-- Runs a trace on the heap. -/
def replay (h : Heap) (trace : Trace) (checkEach : Bool) :
    Traced (Heap × Except ReplayError Summary) := do
  Traced.emit (.replayStarted trace.length checkEach)
  let (h, result) ← Replay.run checkEach trace.ops h {}
  match result with
  | .error error => return (h, .error error)
  | .ok ledger => do
    let summary : Summary := ⟨ledger.ops, ledger.peakPayload, h.memory.size⟩
    Traced.emit (.replayFinished summary)
    return (h, .ok summary)

end Heap

end BlockHeap
