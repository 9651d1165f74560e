import BlockHeap.Proofs.Providers
import BlockHeap.Proofs.Requests

/-!
# What a configuration is accepted for

`Config.validate` compares the bytes of a heap of one chunk with the limit.  It rounds the chunk
size up with `alignUp?`, which has an answer as long as there is a machine number that is large
enough, while the heap rounds it up with `Config.alignedChunk`, which forms a larger sum on the way
and faults a little earlier.  The sentinels make up for the difference: where the chunk and they are
a machine number, so is that sum (`Config.accepted_of_validate`).

`Config.validate_exact` says that the comparison is the one of exact arithmetic, and that it is
enough.  A heap with an accepted configuration can be made in either way, if the memory for its
limit can be had, and it has one chunk in it and nothing else (`Heap.OneChunk`).
-/

namespace BlockHeap

namespace Heap

/-- Behind the sentinels at the front there is one free block, and behind that the epilogue. -/
structure OneChunk (h : Heap) (chunk : Nat) : Prop where
  size : h.memory.size = 32 + chunk
  blocks : h.blocks = .ok [⟨32, chunk, false⟩]

variable {arena : Arena} {config : Config} {h : Heap} {room : Nat}

/-- A new heap that was made over an empty arena. -/
lemma Fresh.oneChunk (hfresh : Fresh arena config h) (hempty : arena.size = 0) :
    h.OneChunk config.chunk := by
  obtain ⟨free, hs⟩ := hfresh.sound
  have hprologue : h.prologue = 16 := by
    rw [hfresh.prologue_eq, hempty]
    rfl
  obtain ⟨-, hstop⟩ := hs.laid.tiles
  have hstop : h.prologue + 16 + config.chunk = h.memory.size := hstop
  have hblocks := hs.blocks_eq
  rw [hprologue] at hstop hblocks
  exact ⟨hstop.symm, hblocks⟩

lemma oneChunk_of_made (harena : arena.Supplied) (hempty : arena.size = 0)
    (hmake : (withArena arena config).outcome = .ok (.ok h)) : h.OneChunk config.chunk := by
  obtain ⟨result, hresult, hfresh⟩ := withArena_total harena.sound config
  exact (hfresh h (Except.ok.inj (hresult.symm.trans hmake))).oneChunk hempty

lemma exists_oneChunk {space : AddressSpace} (hvalid : config.validate = .ok ())
    (hgrants : space.Grants config.maxHeap) (hroom : config.maxHeap ≤ room) :
    ∃ h h' : Heap, (withConfig config room).outcome = .ok (.ok h) ∧
      (withMapping config space).outcome = .ok (.ok h') ∧
      h.OneChunk config.chunk ∧ h'.OneChunk config.chunk := by
  obtain ⟨h, hmake, hmake'⟩ := exists_made hvalid hgrants hroom
  have hmap := hgrants.mapped_eq
  refine ⟨_, _, hmake, hmake', ?_, ?_⟩
  · exact oneChunk_of_made (.owned _ _) rfl (withConfig_eq config room ▸ hmake)
  · exact oneChunk_of_made (.mapped hmap) rfl (withMapping_eq hmap ▸ hmake')

end Heap

/-- **Validation is exact and sufficient.**  Let the limit be a machine number.  A configuration is
accepted if and only if a chunk can hold a block, the search looks at some block, and the chunk size
rounded up leaves room for the sentinels under the limit, without any bound on the numbers.  The
chunk size of an accepted configuration can be rounded up without a fault.  If moreover the address
space grants the limit and there is room for it, then a heap is made over an owned arena as well as
over a mapped one, with one free block in it. -/
theorem Config.validate_exact (config : Config) (hmax : config.maxHeap < Checked.bound) :
    ∃ chunk, LeastMultiple config.chunkSize chunk ∧
      (config.validate = .ok () ↔
        32 ≤ config.chunkSize ∧ 1 ≤ config.fitWindow ∧ chunk + 32 ≤ config.maxHeap) ∧
      (config.validate = .ok () → config.alignedChunk = .ok chunk) ∧
      (config.validate = .ok () → ∀ space : AddressSpace, space.Grants config.maxHeap →
        ∀ room, config.maxHeap ≤ room →
          ∃ h h' : Heap, (Heap.withConfig config room).outcome = .ok (.ok h) ∧
            (Heap.withMapping config space).outcome = .ok (.ok h') ∧
            h.OneChunk chunk ∧ h'.OneChunk chunk) := by
  refine ⟨config.chunk, leastMultiple_chunk config, ?_,
    fun hvalid => (accepted_of_validate hvalid).alignedChunk,
    fun hvalid space hgrants room hroom => Heap.exists_oneChunk hvalid hgrants hroom⟩
  rw [validate_eq_ok_iff, Nat.one_le_iff_ne_zero]
  constructor
  · rintro ⟨hmin, hwindow, -, hle⟩
    exact ⟨hmin, hwindow, hle⟩
  · rintro ⟨hmin, hwindow, hle⟩
    exact ⟨hmin, hwindow, hle.trans_lt hmax, hle⟩

/-- A chunk of 90 bytes takes 96, and with the sentinels all that there is. -/
theorem Config.validate_exact_at_the_limit : ∃ h h' : Heap,
    (Heap.withConfig ⟨90, 1, 128⟩ 128).outcome = .ok (.ok h) ∧
      (Heap.withMapping ⟨90, 1, 128⟩ .usual).outcome = .ok (.ok h') ∧
      h.OneChunk 96 ∧ h'.OneChunk 96 := by
  obtain ⟨chunk, hleast, hiff, -, hmake⟩ := validate_exact ⟨90, 1, 128⟩ (by decide)
  obtain rfl : chunk = 96 := hleast.eq_alignDown
  exact hmake (hiff.2 ⟨by decide, by decide, by decide⟩) .usual rfl 128 le_rfl

/-- From the last machine numbers on the sum with the sentinels is none, whatever the limit. -/
example : (⟨Checked.bound - 40, 1, Checked.bound - 1⟩ : Config).validate = .ok () ∧
    (⟨Checked.bound - 39, 1, Checked.bound - 1⟩ : Config).validate ≠ .ok () := by decide

end BlockHeap
