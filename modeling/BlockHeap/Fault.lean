/-!
# Faults and checked arithmetic

A *fault* ends a computation on the spot: a word outside the arena was touched, a machine number
left its range, a tag was asked to hold a size it has no room for, or a walk would never end.
Faults are not errors a caller can handle.  A well-formed heap never meets one, while an
overwritten heap may, and then no result exists.

Sizes and offsets are natural numbers below `Checked.bound`.  `Checked.add`, `Checked.sub` and
`Checked.mul` are the exact operations wherever the exact result is again such a number, and a
fault elsewhere, and `Checked.count` is what counting up to a number comes to.
-/

namespace BlockHeap

/-- What can end a computation without a result: a read or a write that leaves the arena, a sum,
difference or product that is no machine number, a tag for a size whose low bits are not zero, and a
walk that comes back to where it has been. -/
inductive Fault where
  | outOfBounds
  | overflow
  | misaligned (size : Nat)
  | endless
  deriving DecidableEq, Repr

namespace Fault

/-- One line of text about the fault. -/
def message : Fault → String
  | outOfBounds => "access outside the arena"
  | overflow => "arithmetic overflow"
  | misaligned size => s!"block size {size} is not 8-byte aligned"
  | endless => "walk does not end"

end Fault

/-- A sequence has a result exactly if its first part has one from which its second part has it. -/
theorem bind_eq_ok_iff {ε α β : Type} {x : Except ε α} {f : α → Except ε β} {b : β} :
    x >>= f = .ok b ↔ ∃ a, x = .ok a ∧ f a = .ok b := by
  cases x <;> simp [bind, Except.bind]

/-- A result that was put into a pair is the first part of it. -/
theorem eq_ok_of_map_pair {ε α β : Type} {x : Except ε α} {a : α} {b c : β}
    (h : x.map (fun a => (a, b)) = .ok (a, c)) : x = .ok a := by
  cases x with
  | error _ => cases h
  | ok _ =>
    obtain ⟨rfl, -⟩ := Prod.mk.inj (Except.ok.inj h)
    rfl

namespace Checked

/-- Machine numbers are the natural numbers below this bound, the 64th power of two. -/
def bound : Nat := 0x10000000000000000

/-- The sum, if it is a machine number. -/
def add (a b : Nat) : Except Fault Nat :=
  if a + b < bound then .ok (a + b) else .error .overflow

/-- The difference, if it is not negative. -/
def sub (a b : Nat) : Except Fault Nat :=
  if b ≤ a then .ok (a - b) else .error .overflow

/-- The product, if it is a machine number. -/
def mul (a b : Nat) : Except Fault Nat :=
  if a * b < bound then .ok (a * b) else .error .overflow

/-- A number that was counted one by one, if it is a machine number.  Counting goes up only, so that
it leaves the machine numbers on its way exactly if it ends outside them. -/
def count (n : Nat) : Except Fault Nat :=
  if n < bound then .ok n else .error .overflow

theorem add_eq_ok_iff {a b c : Nat} : add a b = .ok c ↔ a + b < bound ∧ c = a + b := by
  unfold add
  split
  · simp [*, eq_comm]
  · simp [*]

theorem sub_eq_ok_iff {a b c : Nat} : sub a b = .ok c ↔ b ≤ a ∧ c = a - b := by
  unfold sub
  split
  · simp [*, eq_comm]
  · simp [*]

theorem count_eq_ok_iff {n k : Nat} : count n = .ok k ↔ n < bound ∧ k = n := by
  unfold count
  split
  · simp [*, eq_comm]
  · simp [*]

end Checked

end BlockHeap
