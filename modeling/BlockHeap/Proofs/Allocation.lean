import BlockHeap.Proofs.Fit
import BlockHeap.Proofs.Growth
import BlockHeap.Proofs.Placement
import BlockHeap.Proofs.Turnover

/-!
# Allocation

A request for `size` bytes is served by a block of `blockFor size` bytes, unless that is no machine
number.  In a sound heap a request then has one of three outcomes: it is served from the free block
that fits (`Heap.Sound.tryAllocate_of_fit`), from the top of the grown arena
(`Heap.Sound.tryAllocate_of_growth`), or refused because the arena cannot grow, which leaves the
heap as it was (`Heap.Sound.tryAllocate_of_refusal`).  Each is an equation for the outcome
together with the layout, the lists and the bytes afterwards.

`Heap.Sound.tryAllocate` sums the three up for callers that only ask what became of the allocated
blocks; `Heap.Sound.tryZeroedAllocate` adds the clearing of the payload.
-/

namespace BlockHeap

/-! ## The size of a block -/

/-- The size of the block that serves a request for so many bytes. -/
def blockFor (size : Nat) : Nat := max 32 (alignDown (size + 23))

lemma blockFor_spec (size : Nat) :
    blockFor size % 8 = 0 ∧ 32 ≤ blockFor size ∧ size + 16 ≤ blockFor size := by
  unfold blockFor alignDown alignment
  omega

lemma blockFor_le {size n : Nat} (haligned : n % 8 = 0) (hmin : 32 ≤ n) (hroom : size + 16 ≤ n) :
    blockFor size ≤ n := by
  unfold blockFor alignDown alignment
  omega

/-- A request is too large from 23 bytes below the bound of machine numbers on. -/
lemma blockSize?_eq (size : Nat) :
    blockSize? size = if size + 23 < Checked.bound then some (blockFor size) else none := by
  have hbound : Checked.bound = 18446744073709551616 := rfl
  unfold blockSize? blockFor
  by_cases hsmall : size ≤ Block.overhead
  · have hle : size ≤ 16 := hsmall
    have hmax : max 32 (alignDown (size + 23)) = Block.minSize := by
      simp only [alignDown, alignment, Block.minSize, Memory.wordSize]
      omega
    rw [if_pos hsmall, if_pos (by omega), hmax]
  · have hgt : ¬ size ≤ 16 := hsmall
    have hmax : max 32 (alignDown (size + 23)) = alignDown (size + 23) := by
      simp only [alignDown, alignment]
      omega
    rw [if_neg hsmall, hmax]
    by_cases hlt : size + 23 < Checked.bound
    · have hroom : size + Block.overhead < Checked.bound := by
        unfold Block.overhead Memory.wordSize
        omega
      rw [if_pos hroom, if_pos hlt]
      exact if_pos hlt
    · rw [if_neg hlt]
      split
      · exact if_neg hlt
      · rfl

lemma blockSize?_eq_some_iff {size needed : Nat} :
    blockSize? size = some needed ↔ size + 23 < Checked.bound ∧ blockFor size = needed := by
  rw [blockSize?_eq]
  split
  · next hlt => simp [hlt]
  · next hlt => simp [hlt]

/-! ## The allocated block -/

/-- The allocated block that is made of a free one. -/
def taken (b : BlockInfo) (needed : Nat) : BlockInfo :=
  b.front (if 32 ≤ b.size - needed then needed else b.size)

section

variable {m : Memory} {prologue pos needed : Nat} {blocks : List BlockInfo} {b x : BlockInfo}

lemma mem_placed (hx : x.allocated = true) : x ∈ placed b needed ↔ x = taken b needed := by
  unfold placed taken
  split
  · simp only [List.mem_cons, List.not_mem_nil, or_false]
    constructor
    · rintro (rfl | rfl)
      · rfl
      · exact absurd hx Bool.false_ne_true
    · exact Or.inl
  · simp

lemma le_size_taken (h : needed ≤ b.size) : needed ≤ (taken b needed).size := by
  unfold taken
  split
  · exact Nat.le_refl _
  · exact h

/-- The free block at the top starts in the last block, if that is free, or where the epilogue
is. -/
lemma Laid.inFree_or_top (h : Laid m prologue blocks) {n : Nat}
    (hpos : (joint blocks ⟨m.size, n, false⟩ []).offset - 8 ≤ pos) :
    InFree blocks pos ∨ m.size - 8 ≤ pos := by
  rcases List.eq_nil_or_concat blocks with rfl | ⟨xs, x, rfl⟩
  · exact .inr hpos
  · rw [List.concat_eq_append] at h hpos ⊢
    cases hx : x.allocated with
    | true => exact .inr (by simpa [joint, hx] using hpos)
    | false =>
      have hlo : x.offset - 8 ≤ pos := by simpa [joint, hx] using hpos
      obtain ⟨mid, -, hoff, hend⟩ := tiles_append.1 h.tiles
      have htop : x.offset + x.size = m.size := hoff ▸ hend
      by_cases hin : m.size - 8 ≤ pos
      · exact .inr hin
      · refine .inl ⟨x, by simp, hx, hlo, ?_⟩
        omega

end

namespace Heap

variable {h : Heap} {pre post blocks : List BlockInfo} {free : SizeClass → List BlockInfo}
variable {b : BlockInfo} {size needed : Nat}

/-! ## The three outcomes -/

lemma tryAllocate_zero (h : Heap) : (h.tryAllocate 0).outcome = .ok (h, .error .zeroSize) := rfl

lemma tryAllocate_of_tooLarge (h : Heap) (hlt : ¬ size + 23 < Checked.bound) :
    (h.tryAllocate size).outcome = .ok (h, .error (.tooLarge size)) := by
  have hsize : size ≠ 0 := by
    rintro rfl
    exact hlt (by decide)
  rw [Heap.tryAllocate, if_neg hsize, blockSize?_eq, if_neg hlt]
  rfl

/-- A request is served by placing the free block that fits. -/
lemma Sound.tryAllocate_eq_of_fit {h' : Heap} (hs : h.Sound blocks free) (hsize : size ≠ 0)
    (hlt : size + 23 < Checked.bound)
    (hfit : fit free (blockFor size) h.config.fitWindow = some b)
    (hplace : (h.place b.offset (blockFor size)).outcome = .ok h') :
    (h.tryAllocate size).outcome = .ok (h', .ok ⟨b.offset⟩) := by
  have hblock := blockSize?_eq_some_iff.2 ⟨hlt, rfl⟩
  simp only [Heap.tryAllocate, if_neg hsize, hblock, Traced.outcome_bind, Traced.outcome_liftM,
    hs.findFit_eq, hfit, Option.map_some, Fault.ok_bind, hplace, Traced.outcome_emit,
    Traced.outcome_pure]

/-- **Reuse.**  If a free block fits, the request is served from it and the arena does not grow. -/
lemma Sound.tryAllocate_of_fit_exact (hs : h.Sound (pre ++ b :: post) free) (hsize : size ≠ 0)
    (hlt : size + 23 < Checked.bound)
    (hfit : fit free (blockFor size) h.config.fitWindow = some b) :
    ∃ m lists, (h.tryAllocate size).outcome = .ok (h.put m lists, .ok ⟨b.offset⟩) ∧
      (h.put m lists).Sound (pre ++ (placed b (blockFor size) ++ post))
        (placedFree free b (blockFor size)) ∧
      Memory.Stamped
        (InLinks (pre ++ b :: post) (pre ++ (placed b (blockFor size) ++ post)))
        (placing b (blockFor size)) h.memory m := by
  obtain ⟨haligned, hmin, -⟩ := blockFor_spec size
  obtain ⟨-, hfree, hle⟩ := hs.listed.mem_of_fit hfit
  obtain ⟨m, lists, hplace, hsound, hstamped⟩ := hs.place_exact hfree haligned hmin hle
  exact ⟨m, lists, hs.tryAllocate_eq_of_fit hsize hlt hfit hplace, hsound, hstamped⟩

/-- The same for callers who know nothing of the bytes of the free block. -/
lemma Sound.tryAllocate_of_fit (hs : h.Sound (pre ++ b :: post) free) (hsize : size ≠ 0)
    (hlt : size + 23 < Checked.bound)
    (hfit : fit free (blockFor size) h.config.fitWindow = some b) :
    ∃ m lists, (h.tryAllocate size).outcome = .ok (h.put m lists, .ok ⟨b.offset⟩) ∧
      (h.put m lists).Sound (pre ++ (placed b (blockFor size) ++ post))
        (placedFree free b (blockFor size)) ∧
      Memory.ChangedOnly (fun pos => b.Covers pos ∨ InFreeSlot (pre ++ post) pos) h.memory m := by
  obtain ⟨haligned, hmin, -⟩ := blockFor_spec size
  obtain ⟨-, hfree, hle⟩ := hs.listed.mem_of_fit hfit
  obtain ⟨m, lists, hplace, hsound, hframe⟩ := hs.place hfree haligned hmin hle
  exact ⟨m, lists, hs.tryAllocate_eq_of_fit hsize hlt hfit hplace, hsound, hframe⟩

/-- By how much the arena grows if no block fits. -/
def increment (h : Heap) (size : Nat) : Nat := max (blockFor size) h.config.chunk

/-- The free block at the top after growing. -/
def topBlock (h : Heap) (blocks : List BlockInfo) (size : Nat) : BlockInfo :=
  joint blocks (h.chunkAtTop (h.increment size)) []

lemma Sound.increment_spec (hs : h.Sound blocks free) (size : Nat) :
    h.increment size % 8 = 0 ∧ 32 ≤ h.increment size ∧ blockFor size ≤ h.increment size := by
  have h₁ := blockFor_spec size
  have h₂ := hs.accepted.chunk_aligned
  unfold increment
  omega

lemma Sound.blockFor_le_topBlock (hs : h.Sound blocks free) (size : Nat) :
    blockFor size ≤ (h.topBlock blocks size).size := by
  have := (hs.increment_spec size).2.2
  simp only [topBlock, joint, firstFree?_nil, Option.elim_none, Heap.chunkAtTop]
  omega

/-- If no free block fits and the arena can grow, a request is served by placing the free block at
the top. -/
lemma Sound.tryAllocate_eq_of_growth {m : Memory} {lists : FreeLists} {h' : Heap}
    (hs : h.Sound blocks free) (hsize : size ≠ 0) (hlt : size + 23 < Checked.bound)
    (hfit : fit free (blockFor size) h.config.fitWindow = none)
    (hextend : (h.extend (h.increment size)).outcome =
      .ok (h.put m lists, .ok (h.topBlock blocks size).offset))
    (hplace : ((h.put m lists).place (h.topBlock blocks size).offset (blockFor size)).outcome =
      .ok h') :
    (h.tryAllocate size).outcome = .ok (h', .ok ⟨(h.topBlock blocks size).offset⟩) := by
  have hblock := blockSize?_eq_some_iff.2 ⟨hlt, rfl⟩
  have hextend' : (h.extend (max (blockFor size) h.config.chunk)).outcome =
      .ok (h.put m lists, .ok (h.topBlock blocks size).offset) := hextend
  simp only [Heap.tryAllocate, if_neg hsize, hblock, Traced.outcome_bind, Traced.outcome_liftM,
    hs.findFit_eq, hfit, Option.map_none, Fault.ok_bind, Heap.allocateByGrowth,
    hs.accepted.alignedChunk, hextend', hplace, Traced.outcome_emit, Traced.outcome_pure]

/-- **Growth.**  If no free block fits and the arena can grow, the request is served from the free
block at the top. -/
lemma Sound.tryAllocate_of_growth_exact (hs : h.Sound blocks free) (hsize : size ≠ 0)
    (hlt : size + 23 < Checked.bound)
    (hfit : fit free (blockFor size) h.config.fitWindow = none)
    (hgrow : h.arena.CanGrow (h.increment size)) :
    ∃ m lists, (h.tryAllocate size).outcome =
        .ok (h.put m lists, .ok ⟨(h.topBlock blocks size).offset⟩) ∧
      (h.put m lists).Sound
        (beforeJoint blocks ++ placed (h.topBlock blocks size) (blockFor size))
        (placedFree (relist free blocks (h.chunkAtTop (h.increment size)) [])
          (h.topBlock blocks size) (blockFor size)) ∧
      Memory.Stamped
        (fun pos => InFreeSlot blocks pos ∨ Link.InSlot (h.topBlock blocks size).offset pos ∨
          InFreeSlot (beforeJoint blocks ++ placed (h.topBlock blocks size) (blockFor size)) pos)
        (h.chunkAtTop (h.increment size) :: h.topBlock blocks size ::
          placing (h.topBlock blocks size) (blockFor size))
        (h.stretched (h.increment size)) m := by
  obtain ⟨haligned, hmin, -⟩ := blockFor_spec size
  obtain ⟨haligned', hmin', -⟩ := hs.increment_spec size
  obtain ⟨m₁, lists₁, hextend, hsound₁, hstamped₁⟩ := hs.extend_exact hgrow haligned' hmin'
  have htop := hs.blockFor_le_topBlock size
  have hsound₁' : Sound _ (beforeJoint blocks ++ h.topBlock blocks size :: []) _ := hsound₁
  obtain ⟨m, lists, hplace, hsound, hstamped⟩ := hsound₁'.place_exact rfl haligned hmin htop
  rw [List.append_nil] at hsound hstamped
  have hbefore : ∀ pos, InFreeSlot (beforeJoint blocks ++ [h.topBlock blocks size]) pos →
      InFreeSlot blocks pos ∨ Link.InSlot (h.topBlock blocks size).offset pos := by
    rintro pos ⟨x, hx, hfree, hslot⟩
    rcases List.mem_append.1 hx with hx | hx
    · exact .inl ⟨x, beforeJoint_append blocks ▸ List.mem_append_left _ hx, hfree, hslot⟩
    · exact .inr (List.mem_singleton.1 hx ▸ hslot)
  refine ⟨m, lists, hs.tryAllocate_eq_of_growth hsize hlt hfit hextend hplace, hsound,
    (hstamped₁.mono ?_).trans (hstamped.mono ?_)⟩
  · rintro pos (hpos | hpos)
    · exact .inl hpos
    · exact (hbefore pos hpos).imp_right .inl
  · rintro pos (hpos | hpos)
    · exact (hbefore pos hpos).imp_right .inl
    · exact .inr (.inr hpos)

lemma Sound.tryAllocate_of_growth (hs : h.Sound blocks free) (hsize : size ≠ 0)
    (hlt : size + 23 < Checked.bound)
    (hfit : fit free (blockFor size) h.config.fitWindow = none)
    (hgrow : h.arena.CanGrow (h.increment size)) :
    ∃ m lists, (h.tryAllocate size).outcome =
        .ok (h.put m lists, .ok ⟨(h.topBlock blocks size).offset⟩) ∧
      (h.put m lists).Sound
        (beforeJoint blocks ++ placed (h.topBlock blocks size) (blockFor size))
        (placedFree (relist free blocks (h.chunkAtTop (h.increment size)) [])
          (h.topBlock blocks size) (blockFor size)) ∧
      Memory.ChangedOnly
        (fun pos => (h.topBlock blocks size).offset - 8 ≤ pos ∨ InFreeSlot blocks pos)
        (h.memory.extend (h.increment size)) m := by
  obtain ⟨haligned, hmin, -⟩ := blockFor_spec size
  obtain ⟨haligned', hmin', -⟩ := hs.increment_spec size
  obtain ⟨m₁, lists₁, hextend, hsound₁, hframe₁⟩ := hs.extend hgrow haligned' hmin'
  have htop := hs.blockFor_le_topBlock size
  have hsound₁' : Sound _ (beforeJoint blocks ++ h.topBlock blocks size :: []) _ := hsound₁
  obtain ⟨m, lists, hplace, hsound, hframe⟩ := hsound₁'.place rfl haligned hmin htop
  rw [List.append_nil] at hsound
  refine ⟨m, lists, hs.tryAllocate_eq_of_growth hsize hlt hfit hextend hplace, hsound,
    hframe₁.trans (hframe.mono ?_)⟩
  rintro pos (hpos | hpos)
  · exact .inl hpos.1
  · rw [List.append_nil] at hpos
    exact .inr (hpos.mono fun x hx => beforeJoint_append blocks ▸ List.mem_append_left _ hx)

/-- **Refusal.**  If no free block fits and the arena cannot grow, the request is refused and the
heap is the old one. -/
lemma Sound.tryAllocate_of_refusal (hs : h.Sound blocks free) (hsize : size ≠ 0)
    (hlt : size + 23 < Checked.bound)
    (hfit : fit free (blockFor size) h.config.fitWindow = none)
    (hgrow : ¬ h.arena.CanGrow (h.increment size)) :
    (h.tryAllocate size).outcome =
      .ok (h, .error (.arena (.exhausted (h.increment size) (h.arena.limit - h.arena.size)))) := by
  have hblock := blockSize?_eq_some_iff.2 ⟨hlt, rfl⟩
  have hextend : (h.extend (max (blockFor size) h.config.chunk)).outcome =
      .ok (h, .error (.exhausted (h.increment size) (h.arena.limit - h.arena.size))) :=
    hs.extend_of_not_canGrow hgrow
  simp only [Heap.tryAllocate, if_neg hsize, hblock, Traced.outcome_bind, Traced.outcome_liftM,
    hs.findFit_eq, hfit, Option.map_none, Fault.ok_bind, Heap.allocateByGrowth,
    hs.accepted.alignedChunk, hextend, Traced.outcome_pure]

/-! ## What became of the allocated blocks -/

/-- A request was served by a new allocated block, or refused with nothing changed. -/
inductive Answered (h : Heap) (blocks : List BlockInfo) (size : Nat) :
    Heap → List BlockInfo → Except HeapError Ptr → Prop where
  | served {h' : Heap} {blocks' : List BlockInfo} (b : BlockInfo) (hall : b.allocated = true)
      (hfresh : b ∉ blocks) (hroom : size + 16 ≤ b.size)
      (hturn : Turnover h h' blocks blocks' [] [b]) :
      Answered h blocks size h' blocks' (.ok ⟨b.offset⟩)
  | refused (error : HeapError) : Answered h blocks size h blocks (.error error)

lemma Sound.answered_of_fit {m : Memory} {lists : FreeLists} (hs : h.Sound (pre ++ b :: post) free)
    (hfree : b.allocated = false) (hfit : blockFor size ≤ b.size)
    (hframe : Memory.ChangedOnly (fun pos => b.Covers pos ∨ InFreeSlot (pre ++ post) pos)
      h.memory m) :
    Answered h (pre ++ b :: post) size (h.put m lists)
      (pre ++ (placed b (blockFor size) ++ post)) (.ok ⟨b.offset⟩) := by
  have hb : b ∈ pre ++ b :: post := by simp
  refine .served (taken b (blockFor size)) rfl ?_
    ((blockFor_spec size).2.2.trans (le_size_taken hfit))
    (hs.turnover (Nat.le_of_eq hframe.size.symm) nofun ?_ ?_)
  · intro hin
    have := hs.laid.eq_of_offset hin hb rfl
    exact Bool.false_ne_true (hfree.symm.trans (this ▸ rfl))
  · intro x hx
    have hxb : x ≠ b := (BlockInfo.ne_of_free_of_allocated hfree hx).symm
    simp only [List.mem_append, List.mem_cons, mem_placed hx, List.not_mem_nil, or_false,
      not_false_eq_true, and_true, hxb, false_or]
    tauto
  · intro pos hne
    left
    by_contra hnot
    apply hne
    apply hframe.byte pos
    rintro (hpos | hpos)
    · exact hnot ⟨b, hb, hfree, hpos⟩
    · exact hnot ((hpos.mono (by simp)).inFree hs.laid.valid)

lemma Sound.answered_of_growth {m : Memory} {lists : FreeLists} (hs : h.Sound blocks free)
    (hframe : Memory.ChangedOnly
      (fun pos => (h.topBlock blocks size).offset - 8 ≤ pos ∨ InFreeSlot blocks pos)
      (h.memory.extend (h.increment size)) m) :
    Answered h blocks size (h.put m lists)
      (beforeJoint blocks ++ placed (h.topBlock blocks size) (blockFor size))
      (.ok ⟨(h.topBlock blocks size).offset⟩) := by
  have hle := hs.blockFor_le_topBlock size
  have hsize : m.size = h.memory.size + h.increment size :=
    hframe.size.trans (Memory.size_extend ..)
  refine .served (taken (h.topBlock blocks size) (blockFor size)) rfl ?_
    ((blockFor_spec size).2.2.trans (le_size_taken hle))
    (hs.turnover (by omega) (by simp) ?_ ?_)
  · intro hin
    cases hlast : lastFree? blocks with
    | none =>
      have htop : (taken (h.topBlock blocks size) (blockFor size)).offset = h.memory.size := by
        simp [taken, BlockInfo.front, topBlock, joint, hlast, Heap.chunkAtTop]
      have := hs.laid.bounds hin
      omega
    | some x =>
      obtain ⟨hx, hxfree⟩ := free_of_lastFree? hlast
      have := hs.laid.eq_of_offset hin hx (by simp [taken, BlockInfo.front, topBlock, joint, hlast])
      exact Bool.false_ne_true (hxfree.symm.trans (this ▸ rfl))
  · intro x hx
    simp only [List.mem_append, mem_placed hx, List.mem_cons, List.not_mem_nil, or_false,
      not_false_eq_true, and_true, mem_beforeJoint hx]
    tauto
  · intro pos hne
    by_contra hnot
    apply hne
    refine (hframe.byte pos ?_).trans (Memory.byte_extend ..)
    rintro (hpos | hpos)
    · exact hnot ((hs.laid.inFree_or_top hpos).imp_right .inr)
    · exact hnot (.inl (hpos.inFree hs.laid.valid))

/-- **Allocation.**  Every request on a sound heap is answered, and leaves a sound heap. -/
lemma Sound.tryAllocate (hs : h.Sound blocks free) (size : Nat) :
    ∃ h' result blocks' free', (h.tryAllocate size).outcome = .ok (h', result) ∧
      h'.Sound blocks' free' ∧ Answered h blocks size h' blocks' result := by
  by_cases hsize : size = 0
  · subst hsize
    exact ⟨h, _, blocks, free, h.tryAllocate_zero, hs, .refused _⟩
  by_cases hlt : size + 23 < Checked.bound
  · cases hfit : fit free (blockFor size) h.config.fitWindow with
    | some b =>
      obtain ⟨hb, hfree, hle⟩ := hs.listed.mem_of_fit hfit
      obtain ⟨pre, post, rfl⟩ := List.append_of_mem hb
      obtain ⟨m, lists, halloc, hsound, hframe⟩ := hs.tryAllocate_of_fit hsize hlt hfit
      exact ⟨_, _, _, _, halloc, hsound, hs.answered_of_fit hfree hle hframe⟩
    | none =>
      by_cases hgrow : h.arena.CanGrow (h.increment size)
      · obtain ⟨m, lists, halloc, hsound, hframe⟩ := hs.tryAllocate_of_growth hsize hlt hfit hgrow
        exact ⟨_, _, _, _, halloc, hsound, hs.answered_of_growth hframe⟩
      · exact ⟨h, _, blocks, free, hs.tryAllocate_of_refusal hsize hlt hfit hgrow, hs, .refused _⟩
  · exact ⟨h, _, blocks, free, h.tryAllocate_of_tooLarge hlt, hs, .refused _⟩

lemma allocate_eq_ok {h' : Heap} {result : Except HeapError Ptr}
    (halloc : (h.tryAllocate size).outcome = .ok (h', result)) :
    (h.allocate size).outcome = .ok (h', result.toOption) := by
  simp only [Heap.allocate, Traced.outcome_bind, halloc, Fault.ok_bind, Traced.outcome_pure]

lemma zeroedAllocate_eq_ok {h' : Heap} {count : Nat} {result : Except HeapError Ptr}
    (halloc : (h.tryZeroedAllocate count size).outcome = .ok (h', result)) :
    (h.zeroedAllocate count size).outcome = .ok (h', result.toOption) := by
  simp only [Heap.zeroedAllocate, Traced.outcome_bind, halloc, Fault.ok_bind, Traced.outcome_pure]

lemma Sound.allocate (hs : h.Sound blocks free) (size : Nat) :
    ∃ h' result blocks' free', (h.allocate size).outcome = .ok (h', result.toOption) ∧
      h'.Sound blocks' free' ∧ Answered h blocks size h' blocks' result := by
  obtain ⟨h', result, blocks', free', halloc, hsound, hanswer⟩ := hs.tryAllocate size
  exact ⟨h', result, blocks', free', allocate_eq_ok halloc, hsound, hanswer⟩

/-! ### Asking for zeros -/

lemma tryZeroedAllocate_of_overflow {count : Nat} (hge : Checked.bound ≤ count * size) :
    (h.tryZeroedAllocate count size).outcome = .ok (h, .error (.overflow count size)) := by
  simp only [Heap.tryZeroedAllocate, if_neg (Nat.not_lt.2 hge), Traced.outcome_pure]

lemma tryZeroedAllocate_of_refused {h' : Heap} {count : Nat} {error : HeapError}
    (hlt : count * size < Checked.bound)
    (halloc : (h.tryAllocate (count * size)).outcome = .ok (h', .error error)) :
    (h.tryZeroedAllocate count size).outcome = .ok (h', .error error) := by
  simp only [Heap.tryZeroedAllocate, if_pos hlt, Traced.outcome_bind, halloc, Fault.ok_bind,
    Traced.outcome_pure]

/-- The block that is handed out is cleared up to its footer. -/
lemma Sound.tryZeroedAllocate_of_served {h' : Heap} {count : Nat} (hs' : h'.Sound blocks free)
    (hb : b ∈ blocks) (hlt : count * size < Checked.bound)
    (halloc : (h.tryAllocate (count * size)).outcome = .ok (h', .ok ⟨b.offset⟩)) :
    (h.tryZeroedAllocate count size).outcome =
      .ok (h'.overwrite ⟨b.offset, b.size - 16⟩ fun _ => 0, .ok ⟨b.offset⟩) := by
  simp only [Heap.tryZeroedAllocate, if_pos hlt, Traced.outcome_bind, halloc, Fault.ok_bind,
    Traced.outcome_liftM, hs'.payload_eq hb, Traced.outcome_pure]

/-- **Zeroed allocation.**  The same holds if the payload is cleared as well. -/
lemma Sound.tryZeroedAllocate (hs : h.Sound blocks free) (count size : Nat) :
    ∃ h' result blocks' free', (h.tryZeroedAllocate count size).outcome = .ok (h', result) ∧
      h'.Sound blocks' free' ∧ Answered h blocks (count * size) h' blocks' result := by
  by_cases hlt : count * size < Checked.bound
  · obtain ⟨h₁, result, blocks', free', halloc, hsound, hanswer⟩ := hs.tryAllocate (count * size)
    cases hanswer with
    | refused error =>
      exact ⟨h, _, blocks, free', tryZeroedAllocate_of_refused hlt halloc, hsound, .refused error⟩
    | served b hall hfresh hroom hturn =>
      have hb : b ∈ blocks' := (hturn.mem_iff b hall).2 (.inl (by simp))
      -- the payload that is cleared is that of the new block
      obtain ⟨hsound', hclear⟩ := hsound.overwrite_payload hb hall fun _ => 0
      refine ⟨_, _, blocks', free', hsound.tryZeroedAllocate_of_served hb hlt halloc, hsound',
        .served b hall hfresh hroom ((hturn.trans hclear fun _ _ => id).congr ?_ (by simp))⟩
      intro x hx
      have : x ≠ b := by
        rintro rfl
        exact hfresh hx
      simp [this]
  · exact ⟨h, _, blocks, free, tryZeroedAllocate_of_overflow (Nat.le_of_not_lt hlt), hs,
      .refused (.overflow count size)⟩

end Heap

end BlockHeap
