import BlockHeap.Heap.Basic

/-!
# Joining free neighbours

```text
  [ alloc ][ block ][ alloc ]   ->  [ alloc ][ block ][ alloc ]
  [ alloc ][ block ][ free  ]   ->  [ alloc ][ block + next   ]
  [ free  ][ block ][ alloc ]   ->  [ prev + block   ][ alloc ]
  [ free  ][ block ][ free  ]   ->  [ prev + block + next     ]
```

A free neighbour leaves its list before the joint size is written, and only then does the joint
block enter the list of its class.
-/

namespace BlockHeap

namespace Heap

/-- Takes a free block off the list of its class and answers with its size. -/
def unlink (h : Heap) (block : Nat) : Except Fault (Heap × Nat) := do
  let size ← Block.size h.memory block
  let h ← h.modifyLists fun lists m => lists.remove m (SizeClass.ofSize size) block
  return (h, size)

/-- Takes the free neighbours of a block of the given size off their lists.  Answers with the
start and the size of the three together. -/
def unlinkNeighbours (h : Heap) (block size : Nat) (prev next : Option Nat) :
    Except Fault (Heap × Nat × Nat) :=
  match prev, next with
  | none, none => return (h, block, size)
  | none, some next => do
    let (h, nextSize) ← h.unlink next
    let merged ← Checked.add size nextSize
    return (h, block, merged)
  | some prev, none => do
    let (h, prevSize) ← h.unlink prev
    let merged ← Checked.add size prevSize
    return (h, prev, merged)
  | some prev, some next => do
    let (h, nextSize) ← h.unlink next
    let (h, prevSize) ← h.unlink prev
    let merged ← Checked.add prevSize size
    let merged ← Checked.add merged nextSize
    return (h, prev, merged)

/-- Writes the tags of a free block and puts it in front of the list of its class. -/
def insertFree (h : Heap) (block size : Nat) : Except Fault Heap :=
  h.modifyLists fun lists m => do
    let tag ← Tag.pack size false
    let m ← Block.write m block tag
    lists.insertHead m (SizeClass.ofSize size) block

/-- Joins a block, marked free and on no list, with its free neighbours.  Answers with the start
of the joint block, which is then the first of its class. -/
def coalesce (h : Heap) (block : Nat) : Traced (Heap × Nat) := do
  let size ← Block.size h.memory block
  let prev ← Block.freePredecessor? h.memory block
  let next ← Block.freeSuccessor? h.memory block
  let (h, start, merged) ← h.unlinkNeighbours block size prev next
  Traced.emit (.coalesced block start size merged prev.isSome next.isSome)
  let h ← h.insertFree start merged
  return (h, start)

end Heap

end BlockHeap
