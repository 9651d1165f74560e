import BlockHeap.Config
import BlockHeap.FreeLists
import BlockHeap.Traced

/-!
# Heaps

A heap is an arena with a fixed frame around its blocks, the free lists of its free blocks, and a
configuration:

```text
   0        8                 24                                  top
   +--------+-----------------+----------+----------+-----+--------+
   | padding| prologue [16:a] | block    | block    | ... | [0:a]  |
   |        |  header footer  |          |          |     |epilogue|
   +--------+-----------------+----------+----------+-----+--------+
```

Prologue and epilogue are allocated for good, so every block has an allocated or free neighbour on
either side and none is a special case.  If the arena was not empty when the heap was made, the
frame starts at the next aligned offset.

A pointer is the offset of a payload.  `Heap.payload` finds the bytes that belong to it.
-/

namespace BlockHeap

/-- The offset of the first payload byte of a block. -/
structure Ptr where
  offset : Nat
  deriving DecidableEq, Repr

namespace Ptr

/-- The offset in hexadecimal. -/
def text (ptr : Ptr) : String := Text.hex ptr.offset

end Ptr

/-- Why a request is refused: nothing was asked for, the bytes asked for or the block that would
hold them are more than a machine number, the arena could not serve, or the configuration is not
valid. -/
inductive HeapError where
  | zeroSize
  | overflow (count size : Nat)
  | tooLarge (size : Nat)
  | arena (error : ArenaError)
  | config (error : ConfigError)
  deriving DecidableEq, Repr

namespace HeapError

/-- The text of the error. -/
def message : HeapError → String
  | zeroSize => "zero-sized allocation"
  | overflow count size => s!"element count {count} times size {size} overflows"
  | tooLarge size => s!"request of {size} bytes cannot be represented as a block"
  | arena error => error.message
  | config error => error.message

end HeapError

/-- A segregated free-list heap over one growing arena; `prologue` is the payload offset of its
prologue. -/
structure Heap where
  arena : Arena
  lists : FreeLists
  prologue : Nat
  config : Config

/-- A part of the arena, by its start and its number of bytes. -/
structure Span where
  start : Nat
  length : Nat
  deriving DecidableEq, Repr

namespace Heap

/-- The bytes of the arena. -/
def memory (h : Heap) : Memory := h.arena.memory

/-- Replaces the bytes of the arena. -/
def modifyMemory (h : Heap) (f : Memory → Except Fault Memory) : Except Fault Heap :=
  match h with
  | ⟨⟨memory, limit, backing⟩, lists, prologue, config⟩ => do
    let memory ← f memory
    return ⟨⟨memory, limit, backing⟩, lists, prologue, config⟩

/-- Replaces the bytes of the arena and the heads of the free lists. -/
def modifyLists (h : Heap) (f : FreeLists → Memory → Except Fault (FreeLists × Memory)) :
    Except Fault Heap :=
  match h with
  | ⟨⟨memory, limit, backing⟩, lists, prologue, config⟩ => do
    let (lists, memory) ← f lists memory
    return ⟨⟨memory, limit, backing⟩, lists, prologue, config⟩

theorem modifyMemory_eq_ok_iff {h h' : Heap} {f : Memory → Except Fault Memory} :
    h.modifyMemory f = .ok h' ↔
      ∃ m, f h.memory = .ok m ∧ h' = { h with arena := { h.arena with memory := m } } := by
  obtain ⟨⟨memory, limit, backing⟩, lists, prologue, config⟩ := h
  simp only [modifyMemory, Heap.memory, bind_eq_ok_iff]
  exact ⟨fun ⟨m, hf, hm⟩ => ⟨m, hf, by cases hm; rfl⟩, fun ⟨m, hf, hm⟩ => ⟨m, hf, by rw [hm]; rfl⟩⟩

theorem modifyLists_eq_ok_iff {h h' : Heap}
    {f : FreeLists → Memory → Except Fault (FreeLists × Memory)} :
    h.modifyLists f = .ok h' ↔
      ∃ lists m, f h.lists h.memory = .ok (lists, m) ∧
        h' = { h with arena := { h.arena with memory := m }, lists } := by
  obtain ⟨⟨memory, limit, backing⟩, lists, prologue, config⟩ := h
  simp only [modifyLists, Heap.memory, bind_eq_ok_iff]
  exact ⟨fun ⟨⟨lists, m⟩, hf, hm⟩ => ⟨lists, m, hf, by cases hm; rfl⟩,
    fun ⟨lists, m, hf, hm⟩ => ⟨(lists, m), hf, by rw [hm]; rfl⟩⟩

/-! ## Payloads -/

/-- How many payload bytes the block of a pointer has. -/
def usableSize (h : Heap) (ptr : Ptr) : Except Fault Nat := do
  let size ← Block.size h.memory ptr.offset
  Checked.sub size Block.overhead

/-- The payload of a pointer, as a part of the arena. -/
def payload (h : Heap) (ptr : Ptr) : Except Fault Span := do
  let size ← Block.size h.memory ptr.offset
  let stop ← Block.footerOffset ptr.offset size
  if ptr.offset ≤ stop ∧ stop ≤ h.memory.size then
    return ⟨ptr.offset, stop - ptr.offset⟩
  else
    throw .outOfBounds

/-- The first `length` bytes of the payload of a pointer. -/
def payloadFront (h : Heap) (ptr : Ptr) (length : Nat) : Except Fault Span := do
  let span ← h.payload ptr
  if length ≤ span.length then return ⟨span.start, length⟩ else throw .outOfBounds

/-- Writes `f 0`, `f 1`, … over a part of the arena. -/
def overwrite (h : Heap) (span : Span) (f : Nat → UInt8) : Heap :=
  match h with
  | ⟨⟨memory, limit, backing⟩, lists, prologue, config⟩ =>
    ⟨⟨memory.overwrite span.start span.length f, limit, backing⟩, lists, prologue, config⟩

/-- Whether a part of the arena holds `f 0`, `f 1`, …. -/
def agrees (h : Heap) (span : Span) (f : Nat → UInt8) : Bool :=
  h.memory.agrees span.start span.length f

end Heap

end BlockHeap
