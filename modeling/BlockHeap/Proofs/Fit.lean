import BlockHeap.Heap.Allocate
import BlockHeap.Proofs.Invariant
import Mathlib.Data.List.MinMax

/-!
# The search for a free block

`bestFit` is what the search settles on in one list: the first of the smallest among the first
`window` sufficient blocks.  `fit` is the answer of the first class that has one.  The walk along
the links computes just these (`Heap.Shows.searchList_eq`, `Heap.Sound.findFit_eq`); its invariant
is that the candidates seen so far are a prefix of the sufficient blocks, all of them larger than
needed, so that the early end at a block of the exact size changes nothing.

Since insufficient blocks do not count against the window, and larger blocks are never in lower
classes, `fit` misses no sufficient block (`Listed.fit_eq_none_iff`).
-/

namespace BlockHeap

/-- The block that the search takes from a list. -/
def bestFit (needed window : Nat) (blocks : List BlockInfo) : Option BlockInfo :=
  ((blocks.filter (needed ≤ ·.size)).take window).argmin BlockInfo.size

/-- The block that the search takes. -/
def fit (free : SizeClass → List BlockInfo) (needed window : Nat) : Option BlockInfo :=
  (SizeClass.ofSize needed).upFrom.findSome? fun c => bestFit needed window (free c)

section

variable {m : Memory} {lists : FreeLists} {blocks skip xs ys : List BlockInfo} {b : BlockInfo}
variable {free : SizeClass → List BlockInfo} {needed window : Nat}

/-- A block that is smaller than those before it and no larger than those after it is the one. -/
lemma argmin_append_cons (hxs : ∀ x ∈ xs, b.size < x.size) (hys : ∀ y ∈ ys, b.size ≤ y.size) :
    (xs ++ b :: ys).argmin BlockInfo.size = some b := by
  have hhead : (b :: ys).argmin BlockInfo.size = some b := by
    rw [List.argmin_cons]
    cases hm : ys.argmin BlockInfo.size with
    | none => rfl
    | some y => exact if_neg (Nat.not_lt.2 (hys y (List.argmin_mem hm)))
  induction xs with
  | nil => exact hhead
  | cons x xs ih =>
    rw [List.cons_append, List.argmin_cons, ih fun y hy => hxs y (List.mem_cons_of_mem _ hy)]
    exact if_pos (hxs x List.mem_cons_self)

lemma bestFit_mem (h : bestFit needed window xs = some b) : b ∈ xs ∧ needed ≤ b.size := by
  have hmem := List.mem_of_mem_take (List.argmin_mem h)
  simpa using hmem

lemma bestFit_eq_none_iff (hwindow : window ≠ 0) :
    bestFit needed window xs = none ↔ ∀ b ∈ xs, b.size < needed := by
  simp [bestFit, List.argmin_eq_none, hwindow]

namespace Listed

lemma mem_of_fit (h : Listed m lists blocks [] free) (hfit : fit free needed window = some b) :
    b ∈ blocks ∧ b.allocated = false ∧ needed ≤ b.size := by
  obtain ⟨c, -, hc⟩ := List.exists_of_findSome?_eq_some hfit
  obtain ⟨hmem, hsize⟩ := bestFit_mem hc
  obtain ⟨hb, hfree, -⟩ := (h.mem_iff c b).1 hmem
  exact ⟨hb, hfree, hsize⟩

lemma fit_eq_none_iff (h : Listed m lists blocks [] free) (needed : Nat) (hwindow : window ≠ 0) :
    fit free needed window = none ↔ ∀ b ∈ blocks, b.allocated = false → b.size < needed := by
  simp only [fit, List.findSome?_eq_none_iff, bestFit_eq_none_iff hwindow, SizeClass.mem_upFrom]
  constructor
  · intro hnone b hb hfree
    -- a sufficient block would be in a class that was searched
    by_contra hlt
    have hle : needed ≤ b.size := Nat.le_of_not_lt hlt
    have hmem : b ∈ free (SizeClass.ofSize b.size) := (h.mem_iff _ b).2 ⟨hb, hfree, rfl, nofun⟩
    exact hlt (hnone _ (SizeClass.ofSize_mono hle) b hmem)
  · intro hsmall c _ b hb
    obtain ⟨hmem, hfree, -⟩ := (h.mem_iff c b).1 hb
    exact hsmall b hmem hfree

end Listed

end

namespace Heap

variable {h : Heap} {blocks skip before rest seen : List BlockInfo}
variable {free : SizeClass → List BlockInfo} {needed window fuel : Nat} {c : SizeClass}

/-- The candidates that stand for the sufficient blocks seen so far. -/
def Candidates.of (seen : List BlockInfo) : Candidates :=
  ⟨(seen.argmin BlockInfo.size).map fun b => (b.offset, b.size), seen.length⟩

lemma Candidates.consider_of (seen : List BlockInfo) (b : BlockInfo) :
    (Candidates.of seen).consider b.offset b.size = .of (seen ++ [b]) := by
  unfold Candidates.consider Candidates.of
  rw [List.argmin_concat]
  cases seen.argmin BlockInfo.size with
  | none => simp
  | some x => by_cases hlt : b.size < x.size <;> simp [hlt]

/-- **The search of a list.**  The walk from any node on completes the candidates seen before. -/
lemma Shows.searchList_eq (hh : h.Shows blocks skip free) (hq : free c = before ++ rest)
    (hseen : ∀ b ∈ seen, needed < b.size) (hlen : seen.length ≤ window)
    (hfuel : rest.length ≤ fuel) :
    searchList h.memory needed window fuel (.of seen) (rest.map BlockInfo.offset).head? =
      .ok (((seen ++ rest.filter (needed ≤ ·.size)).take window).argmin BlockInfo.size |>.map
        BlockInfo.offset) := by
  induction rest generalizing before seen fuel with
  | nil =>
    rw [List.filter_nil, List.append_nil, List.take_of_length_le hlen]
    cases fuel <;> simp [searchList, Candidates.of, Function.comp_def]
  | cons b rest ih =>
    obtain ⟨fuel, rfl⟩ : ∃ k, fuel = k + 1 := ⟨fuel - 1, by rw [List.length_cons] at hfuel; omega⟩
    have hb : b ∈ blocks := ((hh.listed.mem_iff c b).1 (hq ▸ by simp)).1
    have hq' : (free c).map BlockInfo.offset =
        before.map BlockInfo.offset ++ b.offset :: rest.map BlockInfo.offset := by simp [hq]
    have hnext : Link.next h.memory b.offset = .ok (rest.map BlockInfo.offset).head? :=
      (FreeLists.neighbours_eq hh.listed.represents hq' (by have := hh.laid.size_lt; omega)).2
    have hfuel' : rest.length ≤ fuel := Nat.le_of_succ_le_succ hfuel
    have hq'' : free c = (before ++ [b]) ++ rest := by simp [hq]
    simp only [List.map_cons, List.head?_cons, searchList]
    by_cases hfull : seen.length = window
    · -- the window is used up
      rw [if_pos (show (Candidates.of seen).seen = window from hfull), List.take_append_of_le_length
        hfull.ge, List.take_of_length_le hlen]
      simp [Candidates.of, Function.comp_def]
    · rw [if_neg (show ¬ (Candidates.of seen).seen = window from hfull), hh.size_eq hb,
        Fault.ok_bind, hnext]
      by_cases hexact : b.size = needed
      · -- nothing after a block of the exact size can be smaller
        obtain ⟨k, hk⟩ : ∃ k, window - seen.length = k + 1 := ⟨window - seen.length - 1, by omega⟩
        have htake : (seen ++ (b :: rest).filter (needed ≤ ·.size)).take window =
            seen ++ b :: (rest.filter (needed ≤ ·.size)).take k := by
          rw [List.filter_cons_of_pos (by simp [hexact]), List.take_append,
            List.take_of_length_le hlen, hk, List.take_succ_cons]
        rw [if_pos hexact, htake, argmin_append_cons]
        · rfl
        · exact fun x hx => hexact ▸ hseen x hx
        · intro y hy
          have := List.mem_of_mem_take hy
          simp only [List.mem_filter, decide_eq_true_eq] at this
          omega
      · rw [if_neg hexact]
        by_cases hlarge : needed < b.size
        · rw [if_pos hlarge, Candidates.consider_of]
          have hseen' : ∀ x ∈ seen ++ [b], needed < x.size := by
            simpa [or_imp, forall_and] using ⟨hseen, hlarge⟩
          have := ih hq'' hseen' (by simp; omega) hfuel'
          simpa [hlarge.le] using this
        · rw [if_neg hlarge]
          have hsmall : ¬ needed ≤ b.size := by omega
          have := ih hq'' hseen hlen hfuel'
          simpa [hsmall] using this

/-- **The search.**  It always comes to an end, and its answer is the block that fits. -/
lemma Sound.findFit_eq (hs : h.Sound blocks free) (needed : Nat) :
    h.findFit needed = .ok ((fit free needed h.config.fitWindow).map BlockInfo.offset) := by
  have hclass : ∀ c, searchList h.memory needed h.config.fitWindow
      (searchFuel h.memory h.config.fitWindow) {} (h.lists.head c) =
        .ok ((bestFit needed h.config.fitWindow (free c)).map BlockInfo.offset) := by
    intro c
    have hfuel : (free c).length ≤ searchFuel h.memory h.config.fitWindow := by
      have := hs.listed.represents.length_le c
      rw [List.length_map] at this
      exact (Nat.le_succ_of_le this).trans (Nat.le_mul_of_pos_right _ (Nat.succ_pos _))
    rw [hs.listed.represents.head c]
    exact hs.searchList_eq (show free c = [] ++ free c from rfl)
      (show ∀ b ∈ ([] : List BlockInfo), needed < b.size from nofun) (Nat.zero_le _) hfuel
  unfold findFit fit
  induction (SizeClass.ofSize needed).upFrom with
  | nil => rfl
  | cons c cs ih =>
    rw [searchClasses, hclass c, Fault.ok_bind, List.findSome?_cons]
    cases bestFit needed h.config.fitWindow (free c) with
    | none => exact ih
    | some b => rfl

end Heap

end BlockHeap
