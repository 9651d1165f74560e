import BlockHeap.Alignment
import BlockHeap.Proofs.Words

/-!
# Rounding up

Both ways to round a number up add to it and clear the low three bits of the sum.  `alignUp?` adds
seven.  The bound of machine numbers is a multiple of the quantum, so the sum is a machine number
exactly if the least multiple is one, and `alignUp?` has an answer wherever there is one
(`alignUp?_eq`).  `alignUp` adds eight and takes one away again.  The two come to the same sum, but
the number on the way is larger by one, and it is out of range for one number for which the sum is
not: the last multiple of the quantum, which needs no rounding (`alignUp_overflows_at_a_multiple`).
`alignUp_exact` says that the two agree everywhere else.
-/

namespace BlockHeap

variable {n k : Nat}

/-- The least multiple of the quantum that is at least `n`. -/
def LeastMultiple (n a : Nat) : Prop := a % 8 = 0 ∧ n ≤ a ∧ ∀ k, k % 8 = 0 → n ≤ k → a ≤ k

lemma leastMultiple_alignDown (n : Nat) : LeastMultiple n (alignDown (n + 7)) := by
  unfold LeastMultiple alignDown alignment
  exact ⟨by omega, by omega, fun k _ _ => by omega⟩

lemma LeastMultiple.eq_alignDown (hk : LeastMultiple n k) : k = alignDown (n + 7) := by
  obtain ⟨haligned, hle, hleast⟩ := hk
  obtain ⟨haligned', hle', hleast'⟩ := leastMultiple_alignDown n
  exact Nat.le_antisymm (hleast _ haligned' hle') (hleast' _ haligned hle)

lemma le_alignDown_add (n : Nat) : n ≤ alignDown (n + 7) := (leastMultiple_alignDown n).2.1

/-- No multiple of the quantum is between a number in range and the bound. -/
lemma alignDown_add_lt_iff : alignDown (n + 7) < Checked.bound ↔ n + 7 < Checked.bound := by
  have hbound : Checked.bound = 18446744073709551616 := rfl
  unfold alignDown alignment
  omega

/-- Clearing the low three bits of a word rounds it down. -/
lemma toNat_clear_low_bits (word : UInt64) :
    (word &&& ~~~(7 : UInt64)).toNat = alignDown word.toNat := by
  have hshift : word &&& ~~~(7 : UInt64) = word >>> 3 <<< 3 :=
    UInt64.toBitVec_inj.1 (BitVec.shiftLeft_ushiftRight (x := word.toBitVec) (n := 3)).symm
  rw [hshift, UInt64.toNat_shiftLeft, UInt64.toNat_shiftRight, Nat.shiftLeft_eq,
    Nat.shiftRight_eq_div_pow]
  exact Nat.mod_eq_of_lt ((Nat.div_mul_le_self ..).trans_lt word.toNat_lt)

/-! ## The two ways -/

lemma alignUp?_eq (n : Nat) :
    alignUp? n = if alignDown (n + 7) < Checked.bound then some (alignDown (n + 7)) else none := by
  simp only [alignDown_add_lt_iff]
  rfl

lemma alignUp_of_lt (h : n + 8 < Checked.bound) : alignUp n = .ok (alignDown (n + 7)) := by
  have hsum : Checked.add n alignment = .ok (n + 8) := Checked.add_eq h
  have hlast : Checked.sub (n + 8) 1 = .ok (n + 7) := Checked.sub_eq (Nat.le_add_left ..)
  rw [alignUp, hsum, Fault.ok_bind, hlast]
  rfl

lemma alignUp_of_le (h : Checked.bound ≤ n + 8) : alignUp n = .error .overflow := by
  have hsum : Checked.add n alignment = .error .overflow := if_neg (Nat.not_lt.2 h)
  rw [alignUp, hsum]
  rfl

/-- **Rounding up, twice.**  `alignUp?` answers the least multiple wherever that is a machine
number, and it is the sum with seven with the low three bits cleared.  `alignUp` overflows where
`alignUp?` has no answer and at one number more, eight below the bound; everywhere else it has the
same answer. -/
theorem alignUp_exact (n : Nat) : ∃ k, LeastMultiple n k ∧
    alignUp? n = (if k < Checked.bound then some k else none) ∧
    (k < Checked.bound → (UInt64.ofNat (n + 7) &&& ~~~(7 : UInt64)).toNat = k) ∧
    (alignUp n = .error .overflow ↔ alignUp? n = none ∨ n + 8 = Checked.bound) ∧
    (n + 8 ≠ Checked.bound → (alignUp n).toOption = alignUp? n) := by
  have hfits := alignDown_add_lt_iff (n := n)
  refine ⟨_, leastMultiple_alignDown n, alignUp?_eq n, ?_, ?_⟩
  · intro hlt
    rw [toNat_clear_low_bits, UInt64.toNat_ofNat_of_lt' (hfits.1 hlt)]
  -- the larger sum is in range, or the bound itself, which sets the two ways apart, or beyond it
  rcases Nat.lt_trichotomy (n + 8) Checked.bound with hlt | heq | hgt
  · have hsome : alignUp? n = some (alignDown (n + 7)) := by
      rw [alignUp?_eq, if_pos (hfits.2 (by omega))]
    rw [alignUp_of_lt hlt, hsome]
    simp [hlt.ne, Except.toOption]
  · simp [alignUp_of_le heq.ge, heq]
  · have hnone : alignUp? n = none := by
      rw [alignUp?_eq, if_neg (mt hfits.1 (by omega))]
    rw [alignUp_of_le hgt.le, hnone]
    simp [Except.toOption]

/-- The last multiple of the quantum is its own least multiple, and `alignUp?` says so, but
`alignUp` overflows there. -/
theorem alignUp_overflows_at_a_multiple :
    LeastMultiple (Checked.bound - 8) (Checked.bound - 8) ∧
      alignUp? (Checked.bound - 8) = some (Checked.bound - 8) ∧
      ¬ (alignUp (Checked.bound - 8) = .error .overflow ↔
        alignUp? (Checked.bound - 8) = none) :=
  ⟨⟨by decide, le_rfl, fun _ _ hle => hle⟩, by decide, by decide⟩

end BlockHeap
