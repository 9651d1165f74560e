import BlockHeap.Heap.Resize
import BlockHeap.Proofs.Coalescing
import BlockHeap.Proofs.Turnover

/-!
# Giving a block back

A released block is marked free and joined with its free neighbours.  `Heap.Sound.releaseBlock`
states layout, lists and bytes afterwards, and `Heap.Sound.turnover_release` that no other
allocated block notices.
-/

namespace BlockHeap

/-- The block, marked free. -/
def BlockInfo.freed (b : BlockInfo) : BlockInfo := ⟨b.offset, b.size, false⟩

section

variable {m : Memory} {prologue pos : Nat} {pre post : List BlockInfo} {b : BlockInfo}

lemma joint_congr (b' : BlockInfo) (hoff : b'.offset = b.offset) (hsize : b'.size = b.size) :
    joint pre b' post = joint pre b post := by
  unfold joint
  cases lastFree? pre <;> simp [hoff, hsize]

/-- A block that is made free joins nothing but free blocks. -/
lemma Laid.inFree_of_joint (b' : BlockInfo) (h : Laid m prologue (pre ++ b :: post))
    (hoff : b'.offset = b.offset) (hsize : b'.size = b.size)
    (hpos : (joint pre b' post).Covers pos) :
    InFree (pre ++ b :: post) pos ∨ b.Covers pos := by
  have hext := h.tiles_joint.2.1
  have hroom := h.prologue_room
  have hlo := h.tiles_joint.1.le
  rw [joint_congr b' hoff hsize] at hpos
  obtain ⟨x, hx, hcovers⟩ := hext.exists_covers (by omega) hpos.1 hpos.2
  simp only [List.mem_append, List.mem_cons, Option.mem_toList] at hx
  rcases hx with hx | rfl | hx
  · obtain ⟨hmem, hfree⟩ := free_of_lastFree? hx
    exact .inl ⟨x, by simp [hmem], hfree, hcovers⟩
  · exact .inr hcovers
  · obtain ⟨hmem, hfree⟩ := free_of_firstFree? hx
    exact .inl ⟨x, by simp [hmem], hfree, hcovers⟩

lemma Laid.covers_of_freed (h : Laid m prologue (pre ++ b :: post)) (hpos : b.Covers pos) :
    (joint pre b.freed post).Covers pos := by
  have hcover := h.tiles_joint.2.1.bounds (show b ∈ _ by simp)
  rw [joint_congr (b := b) b.freed rfl rfl]
  unfold BlockInfo.Covers at hpos ⊢
  omega

end

namespace Heap

variable {h : Heap} {pre post blocks : List BlockInfo} {free : SizeClass → List BlockInfo}
variable {b : BlockInfo}

/-- A block that is given back is marked free first, and then joined. -/
lemma Sound.markFree (hs : h.Sound (pre ++ b :: post) free) (hall : b.allocated = true) :
    ∃ m, (h.releaseBlock b.offset).outcome =
        ((h.put m h.lists).coalesce b.freed.offset).outcome.map Prod.fst ∧
      (h.put m h.lists).Shows (pre ++ b.freed :: post) [b.freed] free ∧
      Memory.ChangedOnly b.AtTags h.memory m := by
  have hb : b ∈ pre ++ b :: post := by simp
  have hvalid := hs.laid.valid b hb
  obtain ⟨hpre, hpost⟩ := hs.laid.tiles_exchange
  have hskip : h.Shows (pre ++ ([b] ++ post)) [b] free :=
    (Shows.skip_cons_iff hall).2 hs.toShows
  obtain ⟨m, hwrite, hshows, hframe⟩ := hskip.rewrite b.freed hpre hpost hvalid
  refine ⟨m, ?_, hshows, hframe⟩
  have hmodify : h.modifyMemory (fun m => Block.write m b.offset (Tag.of b.size false)) =
      .ok (h.put m h.lists) := modifyMemory_eq hwrite
  simp only [Heap.releaseBlock, Traced.outcome_bind, Traced.outcome_liftM, hs.size_eq hb,
    Fault.ok_bind, Tag.pack_eq _ hvalid.1, hmodify, Traced.outcome_emit]
  change _ = ((h.put m h.lists).coalesce b.offset).outcome.map Prod.fst
  cases ((h.put m h.lists).coalesce b.offset).outcome <;> rfl

/-- **Releasing.**  An allocated block becomes free and is joined with its free neighbours. -/
lemma Sound.releaseBlock_exact (hs : h.Sound (pre ++ b :: post) free) (hall : b.allocated = true) :
    ∃ m lists, (h.releaseBlock b.offset).outcome = .ok (h.put m lists) ∧
      (h.put m lists).Sound (joined pre b.freed post) (relist free pre b.freed post) ∧
      Memory.Stamped (InLinks (pre ++ post) (joined pre b.freed post))
        [b.freed, joint pre b.freed post] h.memory m := by
  obtain ⟨m₁, hrelease, hshows₁, hframe₁⟩ := hs.markFree hall
  obtain ⟨m, lists, hcoalesce, hshows, hstamped⟩ := hshows₁.coalesce_exact
  have hmarked : Memory.Stamped (InLinks (pre ++ post) (joined pre b.freed post)) [b.freed]
      h.memory m₁ :=
    .of_laid hshows₁.laid (by simp) (hframe₁.mono fun _ hpos => .inl hpos)
  refine ⟨m, lists, ?_, hs.put (hstamped.changedOnly.size.trans hframe₁.size) hshows
    (coalesced_joined hs.coalesced.before hs.coalesced.after), hmarked.trans hstamped⟩
  rw [hrelease, hcoalesce]
  rfl

lemma Sound.releaseBlock (hs : h.Sound (pre ++ b :: post) free) (hall : b.allocated = true) :
    ∃ m lists, (h.releaseBlock b.offset).outcome = .ok (h.put m lists) ∧
      (h.put m lists).Sound (joined pre b.freed post) (relist free pre b.freed post) ∧
      Memory.ChangedOnly
        (fun pos => (joint pre b.freed post).Covers pos ∨ InFreeSlot (pre ++ post) pos)
        h.memory m := by
  obtain ⟨m, lists, hrelease, hsound, hstamped⟩ := hs.releaseBlock_exact hall
  have hjoint := hsound.laid.valid (joint pre b.freed post) (by simp [joined])
  refine ⟨m, lists, hrelease, hsound, hstamped.changedOnly.mono ?_⟩
  rintro pos (⟨x, hx, hpos⟩ | hpos)
  · left
    rcases List.mem_pair.1 hx with rfl | rfl
    · exact hs.laid.covers_of_freed (b := b) (hpos.covers (hs.laid.valid b (by simp)))
    · exact hpos.covers hjoint
  · exact covers_of_inLinks hjoint hpos

/-- No other allocated block notices a release. -/
lemma Sound.turnover_release {m : Memory} (hs : h.Sound (pre ++ b :: post) free)
    (lists : FreeLists) (hframe : Memory.ChangedOnly
      (fun pos => (joint pre b.freed post).Covers pos ∨ InFreeSlot (pre ++ post) pos) h.memory m) :
    Turnover h (h.put m lists) (pre ++ b :: post) (joined pre b.freed post) [b] [] := by
  apply hs.turnover (Nat.le_of_eq hframe.size.symm)
  · simp
  · intro x hx
    rw [mem_joined hx, hs.laid.mem_sides_iff, List.mem_nil_iff, false_or]
  · intro pos hne
    by_contra hnot
    apply hne
    apply hframe.byte pos
    rintro (hpos | hpos)
    · rcases hs.laid.inFree_of_joint b.freed rfl rfl hpos with hfree | hin
      · exact hnot (.inl hfree)
      · exact hnot (.inr (.inl ⟨b, by simp, hin⟩))
    · exact hnot (.inl ((hpos.mono (by simp)).inFree hs.laid.valid))

end Heap

end BlockHeap
