import BlockHeap.SizeClass
import Mathlib.Algebra.Group.Nat.Defs
import Mathlib.Data.Nat.Log
import Mathlib.Order.Bounds.Defs
import Mathlib.Tactic.Common

/-!
# The order of size classes

The class of a size is found by dividing by the ratio.  However often that can be done, the count
is the logarithm of the number of units (`SizeClass.divideOut_eq_log`), and with a cap it is the
lesser of the two (`SizeClass.rank_eq_min_log`).  `SizeClass.ofSize` does not divide at all from
`SizeClass.lastFloor` on.  That number is the power of the ratio at which the cap is reached
(`SizeClass.lastFloor_le_iff`), so the shortcut makes no difference, and `SizeClass.ofSize_exact`
says what the class of every size is.

A larger size is never in a lower class (`SizeClass.ofSize_mono`).  This is what lets a search
start at the class of the size it needs: every sufficient block is in that class or a higher one,
and `SizeClass.mem_upFrom` says that the search goes through all of those.
-/

namespace BlockHeap

namespace SizeClass

/-! ## Divisions and logarithms -/

/-- Divides by the ratio until nothing is left, and counts the quotients on the way. -/
def divideOut (quotient seen : Nat) : Nat :=
  if quotient = 0 then seen else divideOut (quotient / ratio) (seen + 1)
termination_by quotient
decreasing_by exact Nat.div_lt_self (Nat.pos_of_ne_zero ‹_›) (by decide)

lemma log_eq (units : Nat) : Nat.log ratio units =
    if units / ratio = 0 then 0 else Nat.log ratio (units / ratio) + 1 := by
  split
  · next hquot => exact Nat.log_of_lt ((Nat.div_eq_zero_iff_lt (by decide)).1 hquot)
  · next hquot => exact Nat.log_of_one_lt_of_le (by decide) (Nat.div_ne_zero_iff.1 hquot).2

lemma rank_eq_min_log (cap units : Nat) : rank cap units = min cap (Nat.log ratio units) := by
  induction cap generalizing units with
  | zero => rw [rank, Nat.zero_min]
  | succ cap ih =>
    rw [rank, log_eq, ih]
    split
    · rw [Nat.min_zero]
    · rw [Nat.add_min_add_right]

lemma divideOut_eq_log (units seen : Nat) :
    divideOut (units / ratio) seen = seen + Nat.log ratio units := by
  induction units using Nat.strong_induction_on generalizing seen with
  | _ units ih =>
    rw [divideOut, log_eq]
    split
    · rfl
    · next hquot =>
      have hpos : 0 < units := Nat.pos_of_div_pos (Nat.pos_of_ne_zero hquot)
      rw [ih _ (Nat.div_lt_self hpos (by decide))]
      omega

lemma isGreatest_log {units : Nat} (h : units ≠ 0) :
    IsGreatest {i | ratio ^ i ≤ units} (Nat.log ratio units) :=
  ⟨Nat.pow_log_le_self _ h, fun _ hi => Nat.le_log_of_pow_le (by decide) hi⟩

/-! ## The class of a size -/

lemma lastFloor_eq : lastFloor = ratio ^ (count - 1) := rfl

/-- The last class starts where the cap is reached. -/
lemma lastFloor_le_iff {units : Nat} : lastFloor ≤ units ↔ count - 1 ≤ Nat.log ratio units := by
  rw [lastFloor_eq]
  rcases Nat.eq_zero_or_pos units with rfl | hpos
  · decide
  · exact (Nat.le_log_iff_pow_le (by decide) hpos.ne').symm

/-- The shortcut answers what the count with a cap would have come to. -/
lemma ofSize_eq_rank (size : Nat) :
    (ofSize size : Nat) = rank (count - 1) (size / Block.minSize) := by
  simp only [ofSize]
  split
  · next hlast =>
    rw [rank_eq_min_log, Nat.min_eq_left (lastFloor_le_iff.1 hlast)]
    rfl
  · rfl

lemma ofSize_eq_min_log (size : Nat) :
    (ofSize size : Nat) = min (count - 1) (Nat.log ratio (size / Block.minSize)) :=
  (ofSize_eq_rank size).trans (rank_eq_min_log ..)

/-- A larger size is never in a lower class. -/
lemma ofSize_mono {size size' : Nat} (h : size ≤ size') : ofSize size ≤ ofSize size' := by
  have hlog := Nat.log_mono_right (b := ratio) (Nat.div_le_div_right (c := Block.minSize) h)
  rw [Fin.le_def, ofSize_eq_min_log, ofSize_eq_min_log]
  omega

/-- **The class of a size is a logarithm.**  Sizes of less than one unit are in class 0, and any
other size is in the class whose number is the largest exponent of a power of 6 in its units, or in
class 4 if that exponent is larger.  Where the shortcut is taken it comes to what the count with a
cap would have come to, and it is taken exactly where the count without a cap would reach the last
class, so the two together are that count cut off there.  There is such a class for every size, and
a larger size is never in a lower one. -/
theorem ofSize_exact (size : Nat) :
    (size / 32 = 0 → (ofSize size : Nat) = 0) ∧
      (size / 32 ≠ 0 →
        ∃ i, IsGreatest {i | 6 ^ i ≤ size / 32} i ∧ (ofSize size : Nat) = min 4 i) ∧
      (ofSize size : Nat) = rank (count - 1) (size / 32) ∧
      (lastFloor ≤ size / 32 ↔ count - 1 ≤ divideOut (size / 32 / ratio) 0) ∧
      (ofSize size : Nat) = min (count - 1) (divideOut (size / 32 / ratio) 0) ∧
      (ofSize size : Nat) < count ∧
      ∀ larger, size ≤ larger → ofSize size ≤ ofSize larger := by
  have hmin : (ofSize size : Nat) = min 4 (Nat.log 6 (size / 32)) := ofSize_eq_min_log size
  have hcount : divideOut (size / 32 / ratio) 0 = Nat.log ratio (size / 32) :=
    (divideOut_eq_log ..).trans (Nat.zero_add _)
  rw [hcount]
  refine ⟨?_, ?_, ofSize_eq_rank size, lastFloor_le_iff, hmin, (ofSize size).isLt,
    fun _ => ofSize_mono⟩
  · intro hzero
    rw [hmin, hzero, Nat.log_zero_right, Nat.min_zero]
  · intro hunits
    exact ⟨_, isGreatest_log hunits, hmin⟩

/-- The last size in front of the last class, and the first one in it. -/
example : (ofSize (1296 * 32 - 1) : Nat) = 3 ∧ (ofSize (1296 * 32) : Nat) = 4 := by decide

lemma mem_upFrom {c c' : SizeClass} : c' ∈ upFrom c ↔ c ≤ c' := by
  revert c c'
  decide

end SizeClass

end BlockHeap
