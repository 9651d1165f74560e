import BlockHeap.Arena
import BlockHeap.Config
import BlockHeap.Proofs.Rounding

/-!
# Arenas and configurations that requests can rely on

`Arena.Supplied` is the reach of an arena before a heap is made on it: it was made empty, it has
grown, and its bytes have been written.  All such arenas are `Arena.Sound`, that is, within their
limit and small enough for every offset to be a machine number, and growing keeps them so.  An arena
that can grow does, and one that cannot stays as it is.

`Config.chunk` is the chunk size rounded up; for a configuration that was accepted the rounding is
exact and leaves room for the frame of a heap.
-/

namespace BlockHeap

namespace Arena

/-- An arena that was made empty, has grown any number of times and had its bytes written. -/
inductive Supplied : Arena → Prop where
  | owned (limit room : Nat) : Supplied (owned limit room)
  | mapped {limit : Nat} {space : AddressSpace} {arena : Arena}
      (h : Arena.mapped limit space = .ok arena) : Supplied arena
  | grown {arena arena' : Arena} {increment : Nat} {result : Except ArenaError Nat}
      (h : Supplied arena) (hgrow : arena.grow increment = .ok (arena', result)) : Supplied arena'
  | written {arena : Arena} (h : Supplied arena) (start count : Nat) (f : Nat → UInt8) :
      Supplied { arena with memory := arena.memory.overwrite start count f }

/-- The arena is within its limit, and its offsets are machine numbers. -/
structure Sound (arena : Arena) : Prop where
  size_le : arena.size ≤ arena.limit
  size_lt : arena.size < reservable
  limit_lt : arena.backing = .mapped → arena.limit < reservable

/-- Growing by so much is within the limit and is not refused. -/
def CanGrow (arena : Arena) (increment : Nat) : Prop :=
  increment ≤ arena.limit - arena.size ∧ arena.refuses increment = false

/-- How far an arena can grow that asks for room as it grows. -/
lemma canGrow_owned {arena : Arena} {room increment : Nat} (h : arena.backing = .owned room) :
    arena.CanGrow increment ↔ increment ≤ arena.limit - arena.size ∧
      arena.size + increment < reservable ∧ arena.size + increment ≤ room := by
  simp only [CanGrow, refuses, h, Bool.or_eq_false_iff, decide_eq_false_iff_not, Nat.not_le,
    Nat.not_lt]

/-- The arena with zero bytes added at the top. -/
def extended (arena : Arena) (increment : Nat) : Arena :=
  { arena with memory := arena.memory.extend increment }

@[simp] lemma size_extended (arena : Arena) (increment : Nat) :
    (arena.extended increment).size = arena.size + increment :=
  Memory.size_extend ..

lemma grow_of_canGrow {arena : Arena} {increment : Nat} (h : arena.size ≤ arena.limit)
    (hgrow : arena.CanGrow increment) :
    arena.grow increment = .ok (arena.extended increment, .ok arena.size) := by
  have hlt : ¬ arena.limit - arena.size < increment := Nat.not_lt.2 hgrow.1
  simp [grow, Checked.sub_eq h, hlt, hgrow.2, extended]

lemma grow_of_not_canGrow {arena : Arena} {increment : Nat} (h : arena.size ≤ arena.limit)
    (hgrow : ¬ arena.CanGrow increment) :
    arena.grow increment =
      .ok (arena, .error (.exhausted increment (arena.limit - arena.size))) := by
  have hcond :
      (decide (arena.limit - arena.size < increment) || arena.refuses increment) = true := by
    simp only [Bool.or_eq_true, decide_eq_true_eq]
    by_cases hle : increment ≤ arena.limit - arena.size
    · exact .inr (Bool.of_not_eq_false fun hre => hgrow ⟨hle, hre⟩)
    · exact .inl (Nat.lt_of_not_le hle)
  simp only [grow, Checked.sub_eq h, Fault.ok_bind, if_pos hcond, Fault.pure_eq]

lemma Sound.extended {arena : Arena} (h : arena.Sound) {increment : Nat}
    (hgrow : arena.CanGrow increment) : (arena.extended increment).Sound := by
  obtain ⟨hle, hrefuse⟩ := hgrow
  have hsize := h.size_le
  refine ⟨?_, ?_, h.limit_lt⟩
  · rw [size_extended]
    show arena.size + increment ≤ arena.limit
    omega
  · rw [size_extended]
    cases hb : arena.backing with
    | owned room =>
      simp only [refuses, hb, Bool.or_eq_false_iff, decide_eq_false_iff_not, Nat.not_le] at hrefuse
      exact hrefuse.1
    | mapped =>
      have := h.limit_lt hb
      omega

lemma Sound.of_size {arena : Arena} (h : arena.Sound) {m : Memory}
    (hm : m.size = arena.memory.size) : Sound { arena with memory := m } :=
  ⟨by have := h.size_le; simpa [size, hm] using this,
    by have := h.size_lt; simpa [size, hm] using this, h.limit_lt⟩

private lemma empty_size_lt : Memory.empty.size < reservable := by decide

lemma Supplied.sound {arena : Arena} (h : arena.Supplied) : arena.Sound := by
  induction h with
  | owned limit room => exact ⟨Nat.zero_le _, empty_size_lt, nofun⟩
  | @mapped limit space arena h =>
    unfold Arena.mapped at h
    split at h
    · cases h
    · next hgrants =>
      cases h
      exact ⟨Nat.zero_le _, empty_size_lt, fun _ => space.lt_of_reserve limit hgrants⟩
  | @grown arena arena' increment result h hgrow ih =>
    by_cases hcan : arena.CanGrow increment
    · rw [grow_of_canGrow ih.size_le hcan] at hgrow
      cases hgrow
      exact ih.extended hcan
    · rw [grow_of_not_canGrow ih.size_le hcan] at hgrow
      cases hgrow
      exact ih
  | written h start count f ih => exact ih.of_size (Memory.size_overwrite ..)

end Arena

namespace Config

/-- The chunk size rounded up. -/
def chunk (config : Config) : Nat := alignDown (config.chunkSize + 7)

/-- What an accepted configuration promises. -/
structure Accepted (config : Config) : Prop where
  alignedChunk : config.alignedChunk = .ok config.chunk
  chunk_aligned : config.chunk % 8 = 0
  le_chunk : 32 ≤ config.chunk
  chunk_lt : config.chunk + 32 < Checked.bound
  fitWindow : config.fitWindow ≠ 0

lemma chunkSize_le_chunk (config : Config) : config.chunkSize ≤ config.chunk :=
  le_alignDown_add _

/-- Where the chunk cannot be rounded up, there is no room for the sentinels either. -/
lemma leastHeap?_eq (config : Config) : config.leastHeap? =
    if config.chunk + 32 < Checked.bound then some (config.chunk + 32) else none := by
  have hchunk : alignUp? config.chunkSize =
      if config.chunk < Checked.bound then some config.chunk else none := alignUp?_eq _
  rw [leastHeap?, hchunk]
  by_cases hlt : config.chunk < Checked.bound
  · rw [if_pos hlt]
    rfl
  · have hlarge : ¬ config.chunk + 32 < Checked.bound := by omega
    rw [if_neg hlt, if_neg hlarge]
    rfl

/-- What a configuration is accepted for. -/
lemma validate_eq_ok_iff (config : Config) : config.validate = .ok () ↔
    32 ≤ config.chunkSize ∧ config.fitWindow ≠ 0 ∧ config.chunk + 32 < Checked.bound ∧
      config.chunk + 32 ≤ config.maxHeap := by
  have hfits : config.fits = true ↔
      config.chunk + 32 < Checked.bound ∧ config.chunk + 32 ≤ config.maxHeap := by
    unfold fits
    rw [leastHeap?_eq]
    by_cases hlt : config.chunk + 32 < Checked.bound <;> simp [hlt]
  have hmin : ¬ config.chunkSize < Block.minSize ↔ 32 ≤ config.chunkSize := Nat.not_lt
  rw [← hmin, ← hfits]
  unfold validate
  split_ifs <;> simp_all

lemma accepted_of_validate {config : Config} (h : config.validate = .ok ()) :
    config.Accepted := by
  obtain ⟨hmin, hwindow, hroom, -⟩ := config.validate_eq_ok_iff.1 h
  have hle := config.chunkSize_le_chunk
  exact ⟨alignUp_of_lt (by omega), isAligned_iff.1 (isAligned_alignDown _), by omega, hroom,
    hwindow⟩

end Config

end BlockHeap
