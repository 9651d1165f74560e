import BlockHeap.Block
import BlockHeap.Proofs.Words

/-!
# Tags in memory

`Tag.of` is the tag that `Tag.pack` makes of an aligned size, and reading it gives the size and the
state back.  `Block.write_eq` is the total form of writing both tags of a block: it succeeds
whenever the two words lie in the memory, and `Block.setTags_changedOnly` says that nothing else is
touched.
-/

namespace BlockHeap

namespace Tag

/-- The tag of a block of the given size and state. -/
def of (size : Nat) (allocated : Bool) : Tag := ⟨UInt64.ofNat (size + allocated.toNat)⟩

lemma pack_eq {size : Nat} (allocated : Bool) (h : size % 8 = 0) :
    pack size allocated = .ok (of size allocated) :=
  if_pos (isAligned_iff.2 h)

lemma size_of {size : Nat} (allocated : Bool) (h : size % 8 = 0) (hlt : size < Checked.bound) :
    (of size allocated).size = size :=
  size_of_pack hlt (pack_eq allocated h)

lemma allocated_of {size : Nat} (allocated : Bool) (h : size % 8 = 0) :
    (of size allocated).allocated = allocated :=
  allocated_of_pack (pack_eq allocated h)

/-! ## The tags of the sentinels -/

@[simp] lemma size_of_prologue : (of 16 true).size = 16 := size_of true (by decide) (by decide)

@[simp] lemma allocated_of_prologue : (of 16 true).allocated = true := allocated_of true (by decide)

@[simp] lemma size_of_epilogue : (of 0 true).size = 0 := size_of true (by decide) (by decide)

@[simp] lemma allocated_of_epilogue : (of 0 true).allocated = true := allocated_of true (by decide)

end Tag

namespace Block

/-! ## Reading tags -/

variable {m : Memory} {block : Nat}

lemma header_eq (hlo : 8 ≤ block) (hhi : block ≤ m.size) :
    header m block = .ok ⟨m.wordAt (block - 8)⟩ := by
  simp only [header, headerOffset, Memory.wordSize, Checked.sub_eq hlo, Fault.ok_bind]
  rw [Memory.readWord_eq (by omega)]
  rfl

lemma precedingTag_eq (hlo : 16 ≤ block) (hhi : block ≤ m.size) :
    precedingTag m block = .ok ⟨m.wordAt (block - 16)⟩ := by
  simp only [precedingTag, overhead, Memory.wordSize, Checked.sub_eq (show 2 * 8 ≤ block from hlo),
    Fault.ok_bind]
  rw [Memory.readWord_eq (by omega)]
  rfl

/-! ## Writing tags -/

/-- The memory with a tag written at both ends of a block of the given size. -/
def setTags (m : Memory) (block size : Nat) (tag : Tag) : Memory :=
  (m.setWord (block - 8) tag.raw).setWord (block + size - 16) tag.raw

@[simp] lemma size_setTags (m : Memory) (block size : Nat) (tag : Tag) :
    (setTags m block size tag).size = m.size := by
  simp [setTags]

lemma writeHeader_eq (tag : Tag) (hlo : 8 ≤ block) (hhi : block ≤ m.size) :
    writeHeader m block tag = .ok (m.setWord (block - 8) tag.raw) := by
  simp only [writeHeader, headerOffset, Memory.wordSize, Checked.sub_eq hlo, Fault.ok_bind]
  exact Memory.writeWord_eq _ (by omega)

lemma write_eq {tag : Tag} (hlo : 8 ≤ block) (hsize : 16 ≤ tag.size)
    (hhi : block + tag.size ≤ m.size + 8) (hm : m.size + 8 < Checked.bound) :
    write m block tag = .ok (setTags m block tag.size tag) := by
  have hfooter : footerOffset block tag.size = .ok (block + tag.size - 16) := by
    simp only [footerOffset, Checked.add_eq (show block + tag.size < Checked.bound by omega),
      Fault.ok_bind, overhead, Memory.wordSize]
    exact Checked.sub_eq (by omega)
  rw [write, writeHeader_eq tag hlo (by omega), Fault.ok_bind, hfooter, Fault.ok_bind,
    Memory.writeWord_eq _ (by rw [Memory.size_setWord]; omega)]
  rfl

/-- Writing the tags of a block touches its first and its last word only. -/
lemma setTags_changedOnly (m : Memory) (block size : Nat) (tag : Tag) :
    Memory.ChangedOnly
      (fun pos => block - 8 ≤ pos ∧ pos < block - 8 + 8 ∨
        block + size - 16 ≤ pos ∧ pos < block + size - 16 + 8)
      m (setTags m block size tag) :=
  ((Memory.setWord_changedOnly _ _ _).mono fun _ h => Or.inl h).trans
    ((Memory.setWord_changedOnly _ _ _).mono fun _ h => Or.inr h)

lemma header_setTags {size : Nat} (tag : Tag) (hlo : 8 ≤ block) (hsize : 16 ≤ size)
    (hhi : block + size ≤ m.size + 8) :
    (setTags m block size tag).wordAt (block - 8) = tag.raw := by
  rw [setTags, Memory.wordAt_setWord_of_disjoint _ _ (by omega),
    Memory.wordAt_setWord _ (by omega)]

lemma footer_setTags {size : Nat} (tag : Tag) (hsize : 16 ≤ size)
    (hhi : block + size ≤ m.size + 8) :
    (setTags m block size tag).wordAt (block + size - 16) = tag.raw :=
  Memory.wordAt_setWord _ (by rw [Memory.size_setWord]; omega)

end Block

end BlockHeap
