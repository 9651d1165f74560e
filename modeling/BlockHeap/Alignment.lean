import BlockHeap.Fault

/-!
# Alignment

Every block size and every payload offset is a multiple of `alignment`.  Rounding up comes in two
forms: `alignUp?` answers `none` where no machine number is large enough, and `alignUp` faults as
soon as the sum it forms on the way leaves the range.
-/

namespace BlockHeap

/-- The quantum of block sizes and payload offsets, in bytes. -/
def alignment : Nat := 8

/-- Whether an offset or size is a multiple of the quantum. -/
def isAligned (n : Nat) : Bool :=
  n % alignment == 0

/-- The largest multiple of the quantum that is at most `n`. -/
def alignDown (n : Nat) : Nat :=
  n / alignment * alignment

/-- The least multiple of the quantum that is at least `n`, if one is a machine number. -/
def alignUp? (n : Nat) : Option Nat :=
  if n + (alignment - 1) < Checked.bound then some (alignDown (n + (alignment - 1))) else none

/-- The least multiple of the quantum that is at least `n`; the sum `n + alignment` is formed on
the way and has to be a machine number. -/
def alignUp (n : Nat) : Except Fault Nat := do
  let sum ← Checked.add n alignment
  let last ← Checked.sub sum 1
  return alignDown last

theorem isAligned_iff {n : Nat} : isAligned n = true ↔ n % 8 = 0 := by
  simp [isAligned, alignment]

theorem isAligned_alignDown (n : Nat) : isAligned (alignDown n) = true := by
  simp [isAligned, alignDown]

end BlockHeap
