import BlockHeap.Heap.Allocate

/-!
# Making heaps

A heap is made by writing its frame at the top of an arena and growing by one chunk.  Bytes that
the arena already has stay in front of the frame and are never touched.
-/

namespace BlockHeap

namespace Heap

/-- Writes padding word, prologue and epilogue from `base` on, with nothing between them. -/
def frame (h : Heap) (base : Nat) : Except Fault Heap := do
  let prologue ← Checked.add base (2 * Memory.wordSize)
  let prologueTag ← Tag.pack Block.prologueSize true
  let epilogue ← Checked.add prologue Block.prologueSize
  let epilogueTag ← Tag.pack 0 true
  let h ← h.modifyMemory fun m => do
    let m ← m.writeWord base 0
    let m ← Block.write m prologue prologueTag
    Block.writeHeader m epilogue epilogueTag
  return { h with prologue := prologue }

/-- Makes a heap at the top of an arena, with one free chunk. -/
def withArena (arena : Arena) (config : Config) : Traced (Except HeapError Heap) :=
  match config.validate with
  | .error error => return .error (.config error)
  | .ok () => do
    let start := arena.size
    let aligned ← alignUp start
    let padding ← Checked.sub aligned start
    let frameBytes ← Checked.add padding Config.sentinelBytes
    let (arena, grown) ← arena.grow frameBytes
    match grown with
    | .error error => return .error (.arena error)
    | .ok top => do
      let base ← Checked.add top padding
      let h ← frame ⟨arena, FreeLists.empty, 0, config⟩ base
      let chunk ← config.alignedChunk
      let (h, extended) ← h.extend chunk
      match extended with
      | .error error => return .error (.arena error)
      | .ok _ => return .ok h

/-- Makes a heap over an owned arena of its own, with room for so many bytes. -/
def withConfig (config : Config) (room : Nat) : Traced (Except HeapError Heap) :=
  match config.validate with
  | .error error => return .error (.config error)
  | .ok () => withArena (.owned config.maxHeap room) config

/-- Makes a heap over a mapped arena of its own. -/
def withMapping (config : Config) (space : AddressSpace := .usual) :
    Traced (Except HeapError Heap) :=
  match config.validate with
  | .error error => return .error (.config error)
  | .ok () =>
    match Arena.mapped config.maxHeap space with
    | .error error => return .error (.arena error)
    | .ok arena => withArena arena config

/-- Makes a heap with the default configuration over an owned arena, with room for so many bytes. -/
def new (room : Nat) : Traced (Except HeapError Heap) :=
  withConfig {} room

end Heap

end BlockHeap
