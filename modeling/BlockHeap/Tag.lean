import BlockHeap.Alignment

/-!
# Tags

A tag is the word at either end of a block.  Since sizes are multiples of eight, the low three
bits of a size are free; the lowest of them says whether the block is allocated.  `Tag.pack`
writes a tag and refuses a size that would spill into those bits; `Tag.size` and
`Tag.allocated` read any word as a tag, whatever it holds.
-/

namespace BlockHeap

/-- A header or footer word, as it stands in memory. -/
structure Tag where
  raw : UInt64
  deriving DecidableEq, Repr

namespace Tag

/-- The block size: the word with its low three bits cleared. -/
def size (tag : Tag) : Nat := alignDown tag.raw.toNat

/-- Whether the lowest bit is set. -/
def allocated (tag : Tag) : Bool := tag.raw.toNat % 2 == 1

/-- The tag of a block of the given size and state; a size that is not aligned is a fault. -/
def pack (size : Nat) (allocated : Bool) : Except Fault Tag :=
  if isAligned size then .ok ⟨UInt64.ofNat (size + allocated.toNat)⟩
  else .error (.misaligned size)

/-- The short form of a tag, such as `[48:a]` or `[48:f]`. -/
def text (tag : Tag) : String :=
  "[" ++ toString tag.size ++ (if tag.allocated then ":a]" else ":f]")

theorem isAligned_size (tag : Tag) : isAligned tag.size = true :=
  isAligned_alignDown _

/-- A packed tag holds the size it was made of. -/
theorem size_of_pack {size : Nat} {allocated : Bool} {tag : Tag} (hlt : size < Checked.bound)
    (h : pack size allocated = .ok tag) : tag.size = size := by
  unfold pack at h
  split at h
  · next hal =>
    cases h
    rw [isAligned_iff] at hal
    have := Bool.toNat_le allocated
    simp only [Tag.size, alignDown, alignment, UInt64.toNat_ofNat', Checked.bound] at *
    omega
  · cases h

/-- A packed tag holds the state it was made of. -/
theorem allocated_of_pack {size : Nat} {allocated : Bool} {tag : Tag}
    (h : pack size allocated = .ok tag) : tag.allocated = allocated := by
  unfold pack at h
  split at h
  · next hal =>
    cases h
    rw [isAligned_iff] at hal
    cases allocated <;> simp [Tag.allocated] <;> omega
  · cases h

end Tag

end BlockHeap
