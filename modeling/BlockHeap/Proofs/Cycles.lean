import BlockHeap.Check.Cycle
import Mathlib.Combinatorics.Pigeonhole
import Mathlib.Tactic.Common

/-!
# Two walkers on any memory

`Link.follow m start n` is where `n` links lead from a node on, in a memory that may hold anything.
Links are words at positions in the memory, so a list with more links than the memory has bytes has
been somewhere twice, and what has been somewhere twice goes round for ever (`Link.exists_repeat`,
`Link.endless_of_repeat`).

The two walkers of `Link.hasCycle` stand on `follow m head i` and `follow m head (2 * i)`.  If the
list ends they never meet, since a list on which they meet goes round.  If it goes round, they meet
on it, after a number of steps that is a multiple of its length.  Either way they are done before
their fuel is, so `Link.hasCycle_of_end` and `Link.hasCycle_of_endless` hold of any memory and head.
-/

namespace BlockHeap

namespace Link

variable {m : Memory} {start head : Option Nat} {fuel i j n t x y : Nat}

/-- Where so many links lead, no node once there is none. -/
def follow (m : Memory) (start : Option Nat) (n : Nat) : Option Nat :=
  (·.bind (at? m))^[n] start

/-- The links lead on for ever. -/
def Endless (m : Memory) (start : Option Nat) : Prop := ∀ n, (follow m start n).isSome

lemma follow_succ (m : Memory) (start : Option Nat) (n : Nat) :
    follow m start (n + 1) = (follow m start n).bind (at? m) :=
  Function.iterate_succ_apply' ..

lemma follow_bind (m : Memory) (start : Option Nat) (n : Nat) :
    follow m (start.bind (at? m)) n = follow m start (n + 1) :=
  (Function.iterate_succ_apply ..).symm

lemma follow_add (m : Memory) (start : Option Nat) (n k : Nat) :
    follow m start (n + k) = follow m (follow m start n) k := by
  rw [Nat.add_comm]
  exact Function.iterate_add_apply ..

lemma isSome_of_le (hsome : (follow m start j).isSome) (hle : i ≤ j) :
    (follow m start i).isSome := by
  induction hle with
  | refl => exact hsome
  | step _ ih =>
    rw [follow_succ] at hsome
    exact ih (Option.isSome_of_isSome_bind hsome)

lemma lt_size_of_at? (hlink : at? m x = some y) : x < m.size := by
  obtain ⟨word, hword, -⟩ := Option.bind_eq_some_iff.1 hlink
  unfold Memory.word? Memory.wordSize at hword
  split at hword
  · omega
  · cases hword

/-! ## Going round -/

lemma follow_add_mul (hround : follow m start i = follow m start (i + t)) (hn : i ≤ n) (k : Nat) :
    follow m start (n + t * k) = follow m start n := by
  have hone : ∀ n, i ≤ n → follow m start (n + t) = follow m start n := by
    intro n hn
    obtain ⟨d, rfl⟩ := Nat.exists_eq_add_of_le hn
    rw [Nat.add_right_comm, follow_add, ← hround, ← follow_add]
  induction k with
  | zero => rfl
  | succ k ih => rw [Nat.mul_succ, ← Nat.add_assoc, hone _ (Nat.le_add_right_of_le hn), ih]

/-- A place that is met twice is met again and again. -/
lemma endless_of_repeat (heq : follow m start i = follow m start j) (hlt : i < j)
    (hsome : (follow m start j).isSome) : Endless m start := by
  intro n
  have hround : follow m start i = follow m start (i + (j - i)) := by
    rwa [Nat.add_sub_cancel' hlt.le]
  have hle := Nat.le_mul_of_pos_left n (Nat.sub_pos_of_lt hlt)
  rw [← follow_add_mul hround hlt.le n] at hsome
  exact isSome_of_le hsome (by omega)

/-- More links than bytes meet some place twice. -/
lemma exists_repeat (hsome : (follow m start (m.size + 1)).isSome) :
    ∃ i j, i < j ∧ j ≤ m.size ∧ follow m start i = follow m start j := by
  have hplace : ∀ n ≤ m.size, ∃ x < m.size, follow m start n = some x := by
    intro n hn
    obtain ⟨y, hy⟩ := Option.isSome_iff_exists.1 (isSome_of_le hsome (Nat.succ_le_succ hn))
    rw [follow_succ] at hy
    obtain ⟨x, hx, hlink⟩ := Option.bind_eq_some_iff.1 hy
    exact ⟨x, lt_size_of_at? hlink, hx⟩
  choose! place hlt hplace using hplace
  obtain ⟨i, hi, j, hj, hne, heq⟩ := Finset.exists_ne_map_eq_of_card_lt_of_maps_to
    (s := Finset.range (m.size + 1)) (t := Finset.range m.size) (f := place) (by simp)
    fun n hn => Finset.mem_range.2 (hlt n (Nat.le_of_lt_succ (Finset.mem_range.1 hn)))
  have hi := Nat.le_of_lt_succ (Finset.mem_range.1 hi)
  have hj := Nat.le_of_lt_succ (Finset.mem_range.1 hj)
  have hfollow : follow m start i = follow m start j := by rw [hplace i hi, hplace j hj, heq]
  rcases Nat.lt_or_gt_of_ne hne with hlt | hgt
  · exact ⟨i, j, hlt, hj, hfollow⟩
  · exact ⟨j, i, hgt, hi, hfollow.symm⟩

/-- A list either ends after so many links as the memory has bytes, and one, or never. -/
lemma endless_iff : Endless m start ↔ (follow m start (m.size + 1)).isSome := by
  refine ⟨fun h => h _, fun hsome => ?_⟩
  obtain ⟨i, j, hlt, hj, heq⟩ := exists_repeat hsome
  exact endless_of_repeat heq hlt (isSome_of_le hsome (by omega))

/-! ## The walkers -/

/-- **One move.**  The slow walker goes one link on and the fast one two. -/
lemma chase_succ (m : Memory) (head : Option Nat) (fuel i : Nat) :
    chase m (fuel + 1) (follow m head i) (follow m head (2 * i)) =
      if (follow m head (2 * i + 1)).isSome then
        if (follow m head (i + 1)).isSome ∧ follow m head (i + 1) = follow m head (2 * (i + 1)) then
          .ok true
        else chase m fuel (follow m head (i + 1)) (follow m head (2 * (i + 1)))
      else .ok false := by
  cases hfast : follow m head (2 * i) with
  | none =>
    rw [follow_succ m head (2 * i), hfast]
    cases follow m head i <;> rfl
  | some fast =>
    obtain ⟨slow, hslow⟩ := Option.isSome_iff_exists.1
      (isSome_of_le (Option.isSome_of_eq_some hfast) (show i ≤ 2 * i by omega))
    rw [show 2 * (i + 1) = 2 * i + 1 + 1 from rfl, follow_succ m head (2 * i + 1),
      follow_succ m head (2 * i), follow_succ m head i, hslow, hfast, chase]
    simp only [Option.bind_some]
    cases at? m fast <;> rfl

lemma chase_of_end (hend : follow m head n = none) (hn : n ≤ i + fuel) :
    chase m (fuel + 1) (follow m head i) (follow m head (2 * i)) = .ok false := by
  induction fuel generalizing i with
  | zero =>
    rw [chase_succ, if_neg]
    intro hsome
    have hsomeEnd := isSome_of_le hsome (show n ≤ 2 * i + 1 by omega)
    rw [hend] at hsomeEnd
    cases hsomeEnd
  | succ fuel ih =>
    have hapart : ¬ ((follow m head (i + 1)).isSome ∧
        follow m head (i + 1) = follow m head (2 * (i + 1))) := by
      rintro ⟨hsome, hmeet⟩
      have hsomeEnd := endless_of_repeat hmeet (by omega) (hmeet ▸ hsome) n
      rw [hend] at hsomeEnd
      cases hsomeEnd
    rw [chase_succ, if_neg hapart, ih (by omega), ite_self]

/-- Walkers on a list without an end meet, since there is a place where they would. -/
lemma chase_of_endless (hendless : Endless m head)
    (hmeet : follow m head t = follow m head (2 * t)) (hi : i < t) (ht : t ≤ i + fuel + 1) :
    chase m (fuel + 1) (follow m head i) (follow m head (2 * i)) = .ok true := by
  induction fuel generalizing i with
  | zero =>
    obtain rfl : t = i + 1 := by omega
    rw [chase_succ, if_pos (hendless _), if_pos ⟨hendless _, hmeet⟩]
  | succ fuel ih =>
    rw [chase_succ, if_pos (hendless _)]
    by_cases hnext : t = i + 1
    · rw [if_pos ⟨hendless _, hnext ▸ hmeet⟩]
    · rw [ih (by omega) (by omega), ite_self]

/-- A list that goes round has a place to which so many and twice so many links lead. -/
lemma exists_meeting (hendless : Endless m head) :
    ∃ t, 0 < t ∧ t ≤ m.size ∧ follow m head t = follow m head (2 * t) := by
  obtain ⟨i, j, hlt, hj, heq⟩ := exists_repeat (hendless (m.size + 1))
  -- the first multiple of the length of the circle behind the place where it starts
  have hround : follow m head i = follow m head (i + (j - i)) := by
    rwa [Nat.add_sub_cancel' hlt.le]
  have hdiv := Nat.div_add_mod i (j - i)
  have hmod := Nat.mod_lt i (Nat.sub_pos_of_lt hlt)
  have hmul := Nat.mul_add_one (j - i) (i / (j - i))
  refine ⟨(j - i) * (i / (j - i) + 1), by omega, by omega, ?_⟩
  rw [Nat.two_mul]
  exact (follow_add_mul hround (by omega) _).symm

lemma hasCycle_of_end (hend : follow m head (m.size + 1) = none) :
    hasCycle m head = .ok false :=
  chase_of_end (i := 0) hend (by omega)

lemma hasCycle_of_endless (hendless : Endless m head) : hasCycle m head = .ok true := by
  obtain ⟨t, hpos, hle, hmeet⟩ := exists_meeting hendless
  exact chase_of_endless hendless hmeet hpos (by omega)

end Link

end BlockHeap
