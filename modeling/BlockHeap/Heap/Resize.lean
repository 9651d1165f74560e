import BlockHeap.Heap.Allocate

/-!
# Giving back and resizing

A released block is marked free and joined with its free neighbours.

Resizing prefers to leave the block where it is.  A smaller block is cut down if what it gives up
can stand alone; a larger one takes in the block after it if that is free and large enough; and
only otherwise a new block is allocated, the payload copied and the old block released.
-/

namespace BlockHeap

namespace Heap

/-- Gives a block back. -/
def releaseBlock (h : Heap) (block : Nat) : Traced Heap := do
  let size ← Block.size h.memory block
  let tag ← Tag.pack size false
  let h ← h.modifyMemory fun m => Block.write m block tag
  Traced.emit (.released block size)
  let (h, _) ← h.coalesce block
  return h

/-- Gives the block of a pointer back; without a pointer nothing happens. -/
def release (h : Heap) (ptr : Option Ptr) : Traced Heap :=
  match ptr with
  | none => return h
  | some ptr => h.releaseBlock ptr.offset

/-- Cuts a block of `oldSize` bytes down to `newSize`, if the rest can stand alone as a free
block. -/
def shrink (h : Heap) (block oldSize newSize : Nat) : Traced Heap := do
  let left ← Checked.sub oldSize newSize
  if Block.minSize ≤ left then
    let usedTag ← Tag.pack newSize true
    let rest ← Checked.add block newSize
    let restTag ← Tag.pack left false
    let h ← h.modifyMemory fun m => do
      let m ← Block.write m block usedTag
      Block.write m rest restTag
    Traced.emit (.shrank block oldSize newSize)
    let (h, _) ← h.coalesce rest
    return h
  else
    return h

/-- Lets a block of `oldSize` bytes take in the free block after it. -/
def absorbNext (h : Heap) (block oldSize next : Nat) : Traced Heap := do
  let (h, nextSize) ← h.unlink next
  let merged ← Checked.add oldSize nextSize
  let tag ← Tag.pack merged true
  let h ← h.modifyMemory fun m => Block.write m block tag
  Traced.emit (.absorbed block oldSize merged)
  return h

/-- Copies `count` bytes from one place of the arena to another; the two may overlap. -/
def copyBytes (h : Heap) (source target count : Nat) : Except Fault Heap := do
  let sourceStop ← Checked.add source count
  if sourceStop ≤ h.memory.size ∧ target + count ≤ h.memory.size then
    let bytes := h.memory.slice source sourceStop
    return h.overwrite ⟨target, count⟩ fun i => bytes.get! i
  else
    throw .outOfBounds

/-- Allocates a block of `size` bytes, copies the payload of a block of `oldSize` bytes into it and
gives that block back.  If there is no room the old block stays. -/
def move (h : Heap) (block oldSize size : Nat) : Traced (Heap × Option Ptr) := do
  let (h, moved) ← h.allocate size
  match moved with
  | none => return (h, none)
  | some target => do
    let usable ← Checked.sub oldSize Block.overhead
    let keep := min usable size
    let h ← h.copyBytes block target.offset keep
    Traced.emit (.moved block target.offset keep)
    let h ← h.releaseBlock block
    return (h, some target)

/-- Makes the block a larger one of `needed` bytes or more. -/
def growBlock (h : Heap) (block oldSize size needed : Nat) : Traced (Heap × Option Ptr) := do
  let next ← Block.next h.memory block
  let nextTag ← Block.header h.memory next
  let joint ← if nextTag.allocated then pure none else some <$> Checked.add oldSize nextTag.size
  if joint.any (needed ≤ ·) then
    let h ← h.absorbNext block oldSize next
    return (h, some ⟨block⟩)
  else
    h.move block oldSize size

/-- Makes the block of a pointer hold `size` bytes, which are more than none. -/
def resizeBlock (h : Heap) (ptr : Ptr) (size : Nat) : Traced (Heap × Option Ptr) :=
  match blockSize? size with
  | none => return (h, none)
  | some needed => do
    let oldSize ← Block.size h.memory ptr.offset
    if needed = oldSize then
      return (h, some ptr)
    else if needed < oldSize then
      let h ← h.shrink ptr.offset oldSize needed
      return (h, some ptr)
    else
      h.growBlock ptr.offset oldSize size needed

/-- Makes the block of a pointer hold `size` bytes and keeps as many payload bytes as fit both.
No bytes means to give the block back; no pointer means to allocate.  If the block would have to
move and there is no room, no pointer is returned and the old one stays good. -/
def resize (h : Heap) (ptr : Option Ptr) (size : Nat) : Traced (Heap × Option Ptr) :=
  if size = 0 then do
    let h ← h.release ptr
    return (h, none)
  else
    match ptr with
    | none => h.allocate size
    | some ptr => h.resizeBlock ptr size

end Heap

end BlockHeap
