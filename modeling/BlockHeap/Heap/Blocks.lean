import BlockHeap.Heap.Basic

/-!
# The blocks of a heap

`Heap.blocks` walks from the end of the prologue to the first block of size zero, which in a sound
heap is the epilogue.  `Heap.stats` counts what the walk meets.
-/

namespace BlockHeap

/-- A physical block: the offset of its payload, and its size with header and footer. -/
structure BlockInfo where
  offset : Nat
  size : Nat
  allocated : Bool
  deriving DecidableEq, Repr

/-- The blocks of a heap in numbers; the sizes of the blocks count, and the largest free one has
size zero if there is none. -/
structure Stats where
  arenaBytes : Nat := 0
  allocatedBlocks : Nat := 0
  allocatedBytes : Nat := 0
  freeBlocks : Nat := 0
  freeBytes : Nat := 0
  largestFree : Nat := 0
  deriving DecidableEq, Repr

namespace Stats

/-- Counts one more block. -/
def count (stats : Stats) (block : BlockInfo) : Stats :=
  if block.allocated then
    { stats with
      allocatedBlocks := stats.allocatedBlocks + 1
      allocatedBytes := stats.allocatedBytes + block.size }
  else
    { stats with
      freeBlocks := stats.freeBlocks + 1
      freeBytes := stats.freeBytes + block.size
      largestFree := max stats.largestFree block.size }

end Stats

namespace Heap

/-- The block at an offset, unless its size is zero, and where the block after it starts. -/
def blockAt? (m : Memory) (offset : Nat) : Except Fault (Option (BlockInfo × Nat)) := do
  let tag ← Block.header m offset
  if tag.size = 0 then
    return none
  else
    let next ← Checked.add offset tag.size
    return some (⟨offset, tag.size, tag.allocated⟩, next)

/-- The blocks from an offset on. -/
def blocksFrom (m : Memory) : (fuel offset : Nat) → Except Fault (List BlockInfo)
  | 0, _ => throw .endless
  | fuel + 1, offset => do
    match ← blockAt? m offset with
    | none => return []
    | some (block, next) => do
      let rest ← blocksFrom m fuel next
      return block :: rest

/-- The offset of the first block. -/
def firstBlock (h : Heap) : Except Fault Nat :=
  Checked.add h.prologue Block.prologueSize

/-- The blocks between prologue and epilogue in address order.  Every block but a last one lies in
the memory and has at least one byte, so a walk has fewer steps than the memory has bytes. -/
def blocks (h : Heap) : Except Fault (List BlockInfo) := do
  let first ← h.firstBlock
  blocksFrom h.memory (h.memory.size + 1) first

/-- The block a number of blocks after the one at an offset. -/
def nthFrom (m : Memory) : (index offset : Nat) → Except Fault (Option BlockInfo)
  | 0, offset => do
    let block ← blockAt? m offset
    return block.map Prod.fst
  | index + 1, offset => do
    match ← blockAt? m offset with
    | none => return none
    | some (_, next) => nthFrom m index next

/-- The block with the given number, counted from zero, if there are so many; blocks after it are
not looked at. -/
def nthBlock (h : Heap) (index : Nat) : Except Fault (Option BlockInfo) := do
  let first ← h.firstBlock
  nthFrom h.memory index first

/-- The blocks in numbers. -/
def stats (h : Heap) : Except Fault Stats := do
  let blocks ← h.blocks
  return blocks.foldl Stats.count { arenaBytes := h.memory.size }

end Heap

end BlockHeap
