import BlockHeap.Heap.Coalesce

/-!
# Allocation

A request is rounded up to a block size.  The search goes through the classes from that of the
block size upwards; the first class with a sufficient block decides, and in it the first
`fitWindow` sufficient blocks are compared for the smallest.  If no class has one, the arena grows
by a chunk at least.  A block that is larger by a whole block than needed is split.

`Heap.tryAllocate` answers with the heap in either case: a refused request has to leave a usable
heap behind, and that it is the old one is a theorem and not a convention.
-/

namespace BlockHeap

/-- The size of the block that serves a request, if it is a machine number. -/
def blockSize? (size : Nat) : Option Nat :=
  if size ≤ Block.overhead then some Block.minSize
  else if size + Block.overhead < Checked.bound then alignUp? (size + Block.overhead)
  else none

namespace Heap

/-! ## The search -/

/-- The sufficient blocks of a list that a search has seen so far: the earliest of the smallest
ones, with its size, and how many there were. -/
structure Candidates where
  best : Option (Nat × Nat) := none
  seen : Nat := 0

/-- Takes one more sufficient block into account. -/
def Candidates.consider (found : Candidates) (block size : Nat) : Candidates :=
  match found.best with
  | none => ⟨some (block, size), found.seen + 1⟩
  | some (_, smallest) =>
    if size < smallest then ⟨some (block, size), found.seen + 1⟩
    else ⟨found.best, found.seen + 1⟩

/-- Searches a list from `cursor` on for a block of `needed` bytes, comparing up to `window`
sufficient ones.  A block of exactly that size ends the search. -/
def searchList (m : Memory) (needed window : Nat) :
    (fuel : Nat) → Candidates → (cursor : Option Nat) → Except Fault (Option Nat)
  | _, found, none => return found.best.map Prod.fst
  | 0, _, some _ => throw .endless
  | fuel + 1, found, some block =>
    if found.seen = window then
      return found.best.map Prod.fst
    else do
      let size ← Block.size m block
      if size = needed then
        return some block
      else
        let next ← Link.next m block
        searchList m needed window fuel (if needed < size then found.consider block size else found)
          next

/-- More steps than a search can make without coming back to a block with as many sufficient
blocks seen as before: blocks lie in the memory, and up to `window` are counted. -/
def searchFuel (m : Memory) (window : Nat) : Nat := (m.size + 1) * (window + 1)

/-- The answer of the first class that has one. -/
def searchClasses (h : Heap) (needed : Nat) : List SizeClass → Except Fault (Option Nat)
  | [] => return none
  | cls :: rest => do
    let window := h.config.fitWindow
    match ← searchList h.memory needed window (searchFuel h.memory window) {}
      (h.lists.head cls) with
    | some block => return some block
    | none => h.searchClasses needed rest

/-- A free block that can hold `needed` bytes, tags included. -/
def findFit (h : Heap) (needed : Nat) : Except Fault (Option Nat) :=
  h.searchClasses needed (SizeClass.ofSize needed).upFrom

/-! ## Placing and growing -/

/-- Makes a free block an allocated one of `needed` bytes.  What is left over becomes a free block
if it can stand alone, and stays part of the block otherwise. -/
def place (h : Heap) (block needed : Nat) : Traced Heap := do
  let (h, size) ← h.unlink block
  let left ← Checked.sub size needed
  if Block.minSize ≤ left then
    let usedTag ← Tag.pack needed true
    let rest ← Checked.add block needed
    let restTag ← Tag.pack left false
    let h ← h.modifyMemory fun m => do
      let m ← Block.write m block usedTag
      Block.write m rest restTag
    let (h, _) ← h.coalesce rest
    return h
  else
    let tag ← Tag.pack size true
    h.modifyMemory fun m => Block.write m block tag

/-- Turns the `size` bytes from the old top on into a free block before a new epilogue. -/
def frameChunk (h : Heap) (top size : Nat) : Except Fault Heap := do
  let freeTag ← Tag.pack size false
  let epilogue ← Checked.add top size
  let epilogueTag ← Tag.pack 0 true
  h.modifyMemory fun m => do
    let m ← Block.write m top freeTag
    Block.writeHeader m epilogue epilogueTag

/-- Grows the arena by `size` bytes and joins them with a free block that ended at the old top.
Answers with the start of the free block. -/
def extend (h : Heap) (size : Nat) : Traced (Heap × Except ArenaError Nat) := do
  let ⟨arena, lists, prologue, config⟩ := h
  let (arena, grown) ← arena.grow size
  match grown with
  | .error error => do
    Traced.emit (.growthFailed size arena.size error)
    return (⟨arena, lists, prologue, config⟩, .error error)
  | .ok top => do
    Traced.emit (.grew top size arena.size)
    let h ← frameChunk ⟨arena, lists, prologue, config⟩ top size
    let (h, start) ← h.coalesce top
    return (h, .ok start)

/-! ## Requests -/

/-- Serves a request for `size` bytes by a block of `needed` bytes at the top of a grown arena. -/
def allocateByGrowth (h : Heap) (size needed : Nat) : Traced (Heap × Except HeapError Ptr) := do
  let chunk ← h.config.alignedChunk
  let (h, grown) ← h.extend (max needed chunk)
  match grown with
  | .error error => return (h, .error (.arena error))
  | .ok block => do
    let h ← h.place block needed
    Traced.emit (.allocatedByGrowth block size needed)
    return (h, .ok ⟨block⟩)

/-- Allocates at least `size` bytes, or says why not. -/
def tryAllocate (h : Heap) (size : Nat) : Traced (Heap × Except HeapError Ptr) :=
  if size = 0 then
    return (h, .error .zeroSize)
  else
    match blockSize? size with
    | none => return (h, .error (.tooLarge size))
    | some needed => do
      match ← h.findFit needed with
      | some block => do
        let h ← h.place block needed
        Traced.emit (.reused block size needed)
        return (h, .ok ⟨block⟩)
      | none => h.allocateByGrowth size needed

/-- Allocates at least `size` bytes; no pointer if that is refused. -/
def allocate (h : Heap) (size : Nat) : Traced (Heap × Option Ptr) := do
  let (h, result) ← h.tryAllocate size
  return (h, result.toOption)

/-- Allocates `count` times `size` bytes and clears the whole payload, or says why not. -/
def tryZeroedAllocate (h : Heap) (count size : Nat) : Traced (Heap × Except HeapError Ptr) :=
  if count * size < Checked.bound then do
    let (h, result) ← h.tryAllocate (count * size)
    match result with
    | .error error => return (h, .error error)
    | .ok ptr => do
      let span ← h.payload ptr
      return (h.overwrite span fun _ => 0, .ok ptr)
  else
    return (h, .error (.overflow count size))

/-- Allocates `count` times `size` zero bytes; no pointer if that is refused. -/
def zeroedAllocate (h : Heap) (count size : Nat) : Traced (Heap × Option Ptr) := do
  let (h, result) ← h.tryZeroedAllocate count size
  return (h, result.toOption)

end Heap

end BlockHeap
