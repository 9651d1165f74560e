import BlockHeap.Memory
import BlockHeap.Tag

/-!
# Blocks

A block is named by the offset of its payload.  Its tag stands twice, in the word before the
payload and in the last word of the block:

```text
            payload offset
            |
   +--------+---------------------------------+--------+
   | header | payload                         | footer |
   |  8 B   | (free: next 8 B, prev 8 B, ...) |  8 B   |
   +--------+---------------------------------+--------+
   <--------------------- size ------------------------>
```

The size counts header and footer.  The footer makes the block before this one reachable in one
step.  Offsets are checked numbers, so a garbage tag leads to a fault and never to a wrapped
offset.
-/

namespace BlockHeap

namespace Block

/-- Bytes of bookkeeping in every block: one header and one footer. -/
def overhead : Nat := 2 * Memory.wordSize

/-- The least size of a block: header, footer and room for two links. -/
def minSize : Nat := 4 * Memory.wordSize

/-- The size of the prologue, a header and a footer with nothing between them. -/
def prologueSize : Nat := overhead

/-- Where the header of the block stands. -/
def headerOffset (block : Nat) : Except Fault Nat :=
  Checked.sub block Memory.wordSize

/-- Where the footer of a block of the given size stands. -/
def footerOffset (block size : Nat) : Except Fault Nat := do
  let stop ← Checked.add block size
  Checked.sub stop overhead

/-- The tag in the header of the block. -/
def header (m : Memory) (block : Nat) : Except Fault Tag := do
  let pos ← headerOffset block
  let word ← m.readWord pos
  return ⟨word⟩

/-- The size in the header of the block. -/
def size (m : Memory) (block : Nat) : Except Fault Nat := do
  let tag ← header m block
  return tag.size

/-- Writes the header of the block. -/
def writeHeader (m : Memory) (block : Nat) (tag : Tag) : Except Fault Memory := do
  let pos ← headerOffset block
  m.writeWord pos tag.raw

/-- Writes the tag into the header of the block and into the footer that goes with its size. -/
def write (m : Memory) (block : Nat) (tag : Tag) : Except Fault Memory := do
  let m ← writeHeader m block tag
  let pos ← footerOffset block tag.size
  m.writeWord pos tag.raw

/-- The block that starts where this one ends. -/
def next (m : Memory) (block : Nat) : Except Fault Nat := do
  let size ← size m block
  Checked.add block size

/-- The tag in the footer of the block that ends where this one starts. -/
def precedingTag (m : Memory) (block : Nat) : Except Fault Tag := do
  let pos ← Checked.sub block overhead
  let word ← m.readWord pos
  return ⟨word⟩

/-- The block before this one, if its footer says that it is free. -/
def freePredecessor? (m : Memory) (block : Nat) : Except Fault (Option Nat) := do
  let tag ← precedingTag m block
  if tag.allocated then
    return none
  else
    let prev ← Checked.sub block tag.size
    return some prev

/-- The block after this one, if its header says that it is free. -/
def freeSuccessor? (m : Memory) (block : Nat) : Except Fault (Option Nat) := do
  let next ← next m block
  let tag ← header m next
  return if tag.allocated then none else some next

end Block

end BlockHeap
