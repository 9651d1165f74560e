import BlockHeap.Proofs.Invariant
import Mathlib.Data.List.Chain
import Mathlib.Data.List.Induction

/-!
# When two tilings are the same

Two tilings of the same extent are compared.  They are the same if each block says its size in the
word before it, since then a walk up from the start meets the same blocks (`Tiles.eq_of_headers`),
and also if each block says its size in its last word, since then a walk down from the end does
(`Tiles.eq_of_footers`).  And they are the same if they have the same allocated blocks and free
blocks are nowhere neighbours, since then free blocks are the gaps between allocated ones
(`Tiles.eq_of_allocated`).
-/

namespace BlockHeap

/-- The word at the offset says size and state of the block. -/
def BlockInfo.SaidAt (b : BlockInfo) (m : Memory) (pos : Nat) : Prop :=
  (⟨m.wordAt pos⟩ : Tag).size = b.size ∧ (⟨m.wordAt pos⟩ : Tag).allocated = b.allocated

variable {m : Memory} {start stop : Nat} {b b' x y : BlockInfo} {xs ys blocks : List BlockInfo}

lemma BlockInfo.eq_of_fields (hoff : b.offset = b'.offset) (hsize : b.size = b'.size)
    (hall : b.allocated = b'.allocated) : b = b' := by
  cases b
  cases b'
  exact (BlockInfo.mk.injEq ..).mpr ⟨hoff, hsize, hall⟩

/-- Blocks that start alike are the same if one word says size and state of both. -/
lemma BlockInfo.SaidAt.eq {pos : Nat} (h : b.SaidAt m pos) (h' : b'.SaidAt m pos)
    (hoff : b.offset = b'.offset) : b = b' :=
  eq_of_fields hoff (h.1.symm.trans h'.1) (h.2.symm.trans h'.2)

namespace Tiles

/-- Nothing tiles an empty extent but no blocks. -/
lemma eq_nil (h : Tiles start blocks start) (hsize : ∀ b ∈ blocks, 0 < b.size) : blocks = [] := by
  cases blocks with
  | nil => rfl
  | cons b rest =>
    have hle := h.2.le
    have hpos := hsize b List.mem_cons_self
    omega

/-- A tiling that is no shorter than one with a first block has a first block. -/
lemma exists_cons (h : Tiles start (x :: xs) stop) (h' : Tiles start ys stop)
    (hx : 0 < x.size) : ∃ y rest, ys = y :: rest := by
  cases ys with
  | nil =>
    have hle := h.2.le
    have : start = stop := h'
    omega
  | cons y rest => exact ⟨y, rest, rfl⟩

/-- Blocks behind the first one start where it ends or later. -/
lemma le_offset (h : Tiles start (x :: xs) stop) (hb : b ∈ xs) :
    start + x.size ≤ b.offset :=
  (h.2.bounds hb).1

/-! ## Headers and footers -/

lemma eq_of_headers (h : Tiles start xs stop) (h' : Tiles start ys stop)
    (hxs : ∀ b ∈ xs, 0 < b.size ∧ b.SaidAt m (b.offset - 8))
    (hys : ∀ b ∈ ys, 0 < b.size ∧ b.SaidAt m (b.offset - 8)) : xs = ys := by
  induction xs generalizing start ys with
  | nil =>
    obtain rfl : start = stop := h
    exact (h'.eq_nil fun b hb => (hys b hb).1).symm
  | cons x xs ih =>
    obtain ⟨hx, hrest⟩ := List.forall_mem_cons.1 hxs
    obtain ⟨y, ys, rfl⟩ := h.exists_cons h' hx.1
    obtain ⟨hy, hrest'⟩ := List.forall_mem_cons.1 hys
    have hoff : x.offset = y.offset := h.1.trans h'.1.symm
    obtain rfl := hx.2.eq (hoff ▸ hy.2) hoff
    rw [ih h.2 h'.2 hrest hrest']

lemma eq_of_footers (h : Tiles start xs stop) (h' : Tiles start ys stop)
    (hxs : ∀ b ∈ xs, 0 < b.size ∧ b.SaidAt m (b.offset + b.size - 16))
    (hys : ∀ b ∈ ys, 0 < b.size ∧ b.SaidAt m (b.offset + b.size - 16)) : xs = ys := by
  induction xs using List.reverseRecOn generalizing stop ys with
  | nil =>
    obtain rfl : start = stop := h
    exact (h'.eq_nil fun b hb => (hys b hb).1).symm
  | append_singleton xs x ih =>
    obtain ⟨mid, hinit, rfl, hend⟩ := tiles_append.1 h
    obtain ⟨hx, hxsaid⟩ := hxs x (by simp)
    rcases List.eq_nil_or_concat ys with rfl | ⟨ys, y, rfl⟩
    · obtain rfl : start = stop := h'
      exact h.eq_nil fun b hb => (hxs b hb).1
    · rw [List.concat_eq_append] at h' hys ⊢
      obtain ⟨mid', hinit', rfl, hend'⟩ := tiles_append.1 h'
      obtain ⟨hy, hysaid⟩ := hys y (by simp)
      -- both last blocks end at the end, so that one word is the footer of both
      have hstop : x.offset + x.size = stop := hend
      have hstop' : y.offset + y.size = stop := hend'
      rw [hstop] at hxsaid
      rw [hstop'] at hysaid
      have hsize : x.size = y.size := hxsaid.1.symm.trans hysaid.1
      obtain rfl := hxsaid.eq hysaid (by omega)
      rw [ih hinit hinit' (fun b hb => hxs b (by simp [hb])) fun b hb => hys b (by simp [hb])]

/-! ## Allocated blocks -/

/-- A first block that is free ends no later than another one if the next allocated block is behind
both. -/
lemma size_le_of_free (h : Tiles start (x :: xs) stop) (h' : Tiles start (y :: ys) stop)
    (hco : Coalesced (x :: xs)) (hx : x.allocated = false) (hy : y.allocated = false)
    (hsub : ∀ b ∈ xs, b.allocated = true → b ∈ y :: ys) : y.size ≤ x.size := by
  have hle := h'.2.le
  cases xs with
  | nil =>
    have : start + x.size = stop := h.2
    omega
  | cons z xs =>
    have hz : z.allocated = true := by
      simpa [hx] using (List.isChain_cons.1 hco).1 z rfl
    rcases List.mem_cons.1 (hsub z List.mem_cons_self hz) with rfl | hmem
    · exact absurd (hy.symm.trans hz) Bool.false_ne_true
    · have hle := h'.le_offset hmem
      have hoff : z.offset = start + x.size := h.2.1
      omega

lemma eq_of_allocated (h : Tiles start xs stop) (h' : Tiles start ys stop)
    (hxs : ∀ b ∈ xs, 0 < b.size) (hys : ∀ b ∈ ys, 0 < b.size) (hco : Coalesced xs)
    (hco' : Coalesced ys) (hmem : ∀ b, b.allocated = true → (b ∈ xs ↔ b ∈ ys)) : xs = ys := by
  induction xs generalizing start ys with
  | nil =>
    obtain rfl : start = stop := h
    exact (h'.eq_nil hys).symm
  | cons x xs ih =>
    obtain ⟨hx, hrest⟩ := List.forall_mem_cons.1 hxs
    obtain ⟨y, ys, rfl⟩ := h.exists_cons h' hx
    obtain ⟨hy, hrest'⟩ := List.forall_mem_cons.1 hys
    have hoff : x.offset = y.offset := h.1.trans h'.1.symm
    -- an allocated block that stands at the start is the first one of either tiling
    have hfirst : x.allocated = true ∨ y.allocated = true → x = y := by
      rintro (hall | hall)
      · rcases List.mem_cons.1 ((hmem x hall).1 List.mem_cons_self) with rfl | hin
        · rfl
        · have := h'.le_offset hin
          have := h.1
          omega
      · rcases List.mem_cons.1 ((hmem y hall).2 List.mem_cons_self) with rfl | hin
        · rfl
        · have := h.le_offset hin
          have := h'.1
          omega
    have heq : x = y := by
      by_cases hall : x.allocated = true ∨ y.allocated = true
      · exact hfirst hall
      · rw [not_or, Bool.not_eq_true, Bool.not_eq_true] at hall
        have hle := h.size_le_of_free h' hco hall.1 hall.2 fun b hb hb' =>
          (hmem b hb').1 (List.mem_cons_of_mem _ hb)
        have hge := h'.size_le_of_free h hco' hall.2 hall.1 fun b hb hb' =>
          (hmem b hb').2 (List.mem_cons_of_mem _ hb)
        exact BlockInfo.eq_of_fields hoff (Nat.le_antisymm hge hle) (hall.1.trans hall.2.symm)
    subst heq
    congr 1
    refine ih h.2 h'.2 hrest hrest' hco.tail hco'.tail ?_
    intro b hall
    have hne : b ∈ xs ∨ b ∈ ys → b ≠ x := by
      rintro (hb | hb) rfl
      · have := h.le_offset hb
        have := h.1
        omega
      · have := h'.le_offset hb
        have := h'.1
        omega
    have hb := hmem b hall
    simp only [List.mem_cons] at hb
    tauto

end Tiles

end BlockHeap
