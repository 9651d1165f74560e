import BlockHeap.SizeClass

/-!
# Free lists

The free blocks of each size class form a doubly linked list.  The head stands in `FreeLists`, the
links stand in the payloads of the blocks themselves: the word at the payload offset leads to the
next block, the word after it to the previous one.  The word zero means that there is none; no
payload starts at offset zero, because the sentinels stand before every block.

Removal needs no search.  A block's own links name its neighbours, and `FreeLists.splice` joins
them.
-/

namespace BlockHeap

namespace Link

/-- What a link word says: zero is no block, any other word is an offset. -/
def decode (word : UInt64) : Option Nat :=
  if word = 0 then none else some word.toNat

/-- The word of a link. -/
def encode (link : Option Nat) : UInt64 :=
  UInt64.ofNat (link.getD 0)

theorem decode_encode_none : decode (encode none) = none := rfl

theorem decode_encode_some {offset : Nat} (hpos : 0 < offset) (hlt : offset < Checked.bound) :
    decode (encode (some offset)) = some offset := by
  have hnat : (encode (some offset)).toNat = offset := by
    simp only [encode, Option.getD_some, UInt64.toNat_ofNat']
    exact Nat.mod_eq_of_lt hlt
  rw [decode, if_neg, hnat]
  intro h
  rw [h] at hnat
  exact Nat.ne_of_lt hpos hnat

/-- The block after a free block. -/
def next (m : Memory) (block : Nat) : Except Fault (Option Nat) := do
  let word ← m.readWord block
  return decode word

/-- The block before a free block. -/
def prev (m : Memory) (block : Nat) : Except Fault (Option Nat) := do
  let pos ← Checked.add block Memory.wordSize
  let word ← m.readWord pos
  return decode word

/-- Makes a free block lead to the one after it. -/
def setNext (m : Memory) (block : Nat) (next : Option Nat) : Except Fault Memory :=
  m.writeWord block (encode next)

/-- Makes a free block lead to the one before it. -/
def setPrev (m : Memory) (block : Nat) (prev : Option Nat) : Except Fault Memory := do
  let pos ← Checked.add block Memory.wordSize
  m.writeWord pos (encode prev)

/-- Makes `prev` the block before `block?`, if that is a block. -/
def setPrevOf (m : Memory) (block? : Option Nat) (prev : Option Nat) : Except Fault Memory :=
  match block? with
  | some block => setPrev m block prev
  | none => .ok m

end Link

/-- The first block of every class, if it has any. -/
structure FreeLists where
  heads : Vector (Option Nat) SizeClass.count
  deriving DecidableEq, Repr

namespace FreeLists

/-- No block is free. -/
def empty : FreeLists := ⟨Vector.replicate SizeClass.count none⟩

/-- The first block of a class. -/
def head (lists : FreeLists) (cls : SizeClass) : Option Nat :=
  lists.heads[cls]

/-- Makes a block, or none, the first of a class. -/
def setHead (lists : FreeLists) (cls : SizeClass) (head : Option Nat) : FreeLists :=
  ⟨lists.heads.set cls head⟩

/-- Puts a block in front of a class. -/
def insertHead (lists : FreeLists) (m : Memory) (cls : SizeClass) (block : Nat) :
    Except Fault (FreeLists × Memory) := do
  let oldHead := lists.head cls
  let m ← Link.setNext m block oldHead
  let m ← Link.setPrev m block none
  let m ← Link.setPrevOf m oldHead (some block)
  return (lists.setHead cls (some block), m)

/-- Joins `prev` and `next` and drops what stood between them.  Without a `prev`, `next` becomes
the head of the class. -/
def splice (lists : FreeLists) (m : Memory) (cls : SizeClass) (prev next : Option Nat) :
    Except Fault (FreeLists × Memory) :=
  match prev with
  | some block => do
    let m ← Link.setNext m block next
    let m ← Link.setPrevOf m next prev
    return (lists, m)
  | none => do
    let m ← Link.setPrevOf m next prev
    return (lists.setHead cls next, m)

/-- Takes a block out of its class, by its own links. -/
def remove (lists : FreeLists) (m : Memory) (cls : SizeClass) (block : Nat) :
    Except Fault (FreeLists × Memory) := do
  let prev ← Link.prev m block
  let next ← Link.next m block
  lists.splice m cls prev next

theorem head_setHead (lists : FreeLists) (cls other : SizeClass) (head : Option Nat) :
    (lists.setHead cls head).head other = if cls = other then head else lists.head other := by
  simp only [FreeLists.head, setHead, Fin.getElem_fin, Vector.getElem_set, Fin.val_inj]

end FreeLists

end BlockHeap
