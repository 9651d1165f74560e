import BlockHeap.Block

/-!
# Size classes

Block sizes are measured in units of the least block and divided into five classes by powers of
six; the last class has no upper end.

```text
  class 0: [6^0, 6^1)      units of 32 B
  class 1: [6^1, 6^2)
  class 2: [6^2, 6^3)
  class 3: [6^3, 6^4)
  class 4: [6^4, ...)
```
-/

namespace BlockHeap

namespace SizeClass

/-- How many classes there are. -/
def count : Nat := 5

/-- The ratio between the lower ends of neighbouring classes. -/
def ratio : Nat := 6

/-- The number of units at which the last class starts. -/
def lastFloor : Nat := 1296

/-- How often `units` can be divided by the ratio before it is zero, less one, and `cap` at
most. -/
def rank : (cap units : Nat) → Nat
  | 0, _ => 0
  | cap + 1, units => if units / ratio = 0 then 0 else rank cap (units / ratio) + 1

theorem rank_le (cap units : Nat) : rank cap units ≤ cap := by
  induction cap generalizing units with
  | zero => exact Nat.le_refl 0
  | succ cap ih =>
    rw [rank]
    split
    · exact Nat.zero_le _
    · exact Nat.succ_le_succ (ih _)

end SizeClass

/-- The number of a class. -/
abbrev SizeClass := Fin SizeClass.count

namespace SizeClass

/-- The class without an upper end. -/
def last : SizeClass := ⟨count - 1, by decide⟩

/-- The class of blocks of the given size. -/
def ofSize (size : Nat) : SizeClass :=
  let units := size / Block.minSize
  if lastFloor ≤ units then last
  else ⟨rank (count - 1) units, Nat.lt_succ_of_le (rank_le ..)⟩

/-- The classes from the given one up, in increasing order. -/
def upFrom (c : SizeClass) : List SizeClass :=
  (List.finRange count).drop c

end SizeClass

end BlockHeap
