import BlockHeap.Heap.Basic

/-!
# Ledgers

A replay keeps a ledger of the blocks in use: under the number of each, the pointer the heap gave
for it and the number of bytes that were asked for.  A request for no bytes has no pointer and
still counts as live.  The ledger also carries the sum of the bytes asked for and the highest value
that sum has had.
-/

namespace BlockHeap

/-- A block that a trace has asked for and not given back: where it is, unless it has no bytes, and
how many were asked for. -/
structure LiveBlock where
  ptr : Option Ptr
  size : Nat
  deriving DecidableEq, Repr

/-- The books of a replay: the live blocks, each number at most once, the bytes asked for by them
together and the highest value of that sum, and how many operations were carried out. -/
structure Ledger where
  live : List (Nat × LiveBlock) := []
  liveBytes : Nat := 0
  peakPayload : Nat := 0
  ops : Nat := 0
  deriving DecidableEq, Repr

namespace Ledger

/-- The live block with a number. -/
def find? (ledger : Ledger) (id : Nat) : Option LiveBlock :=
  ledger.live.lookup id

/-- Whether a number is in use. -/
def contains (ledger : Ledger) (id : Nat) : Bool :=
  (ledger.find? id).isSome

/-- Puts a block under a number that is not in use. -/
def insert (ledger : Ledger) (id : Nat) (block : LiveBlock) : Except Fault Ledger := do
  let liveBytes ← Checked.add ledger.liveBytes block.size
  return { ledger with
    live := (id, block) :: ledger.live
    liveBytes
    peakPayload := max ledger.peakPayload liveBytes }

/-- Takes a block from under its number. -/
def remove (ledger : Ledger) (id : Nat) (block : LiveBlock) : Except Fault Ledger := do
  let liveBytes ← Checked.sub ledger.liveBytes block.size
  return { ledger with live := ledger.live.filter fun entry => entry.1 ≠ id, liveBytes }

/-- Counts an operation that was carried out. -/
def tick (ledger : Ledger) : Ledger :=
  { ledger with ops := ledger.ops + 1 }

end Ledger

end BlockHeap
