import BlockHeap.Proofs.Allocation
import BlockHeap.Proofs.Sessions

/-!
# A request undoes a release

A block between allocated ones that is given back joins nothing and becomes the first of its class,
which is where a request for a block of its size starts to look.  A block of the exact size ends the
search, so the request takes the same block back, whatever else is free (`fit_attach`), and blocks
and lists are those of before.  Then so are all tags and all link words: layout and lists leave no
choice for them (`Laid.byte_eq`, `Listed.byte_eq`).  Neither step has written to any other byte, but
for the two link words that the block held in between.
-/

namespace BlockHeap

section

variable {m m' : Memory} {prologue pos window : Nat} {lists lists' : FreeLists}
variable {blocks xs : List BlockInfo} {b : BlockInfo} {free : SizeClass → List BlockInfo}

/-! ## The search -/

lemma SizeClass.upFrom_eq_cons (c : SizeClass) :
    c.upFrom = c :: (List.finRange count).drop (c + 1) := by
  revert c
  decide

/-- A block of the exact size at the head of a list is taken. -/
lemma bestFit_cons_self (b : BlockInfo) (xs : List BlockInfo) (hwindow : window ≠ 0) :
    bestFit b.size window (b :: xs) = some b := by
  obtain ⟨k, rfl⟩ := Nat.exists_eq_succ_of_ne_zero hwindow
  rw [bestFit, List.filter_cons_of_pos (by simp), List.take_succ_cons]
  have hnil : ∀ x ∈ ([] : List BlockInfo), b.size < x.size := List.forall_mem_nil _
  apply argmin_append_cons hnil
  intro y hy
  simpa using (List.mem_filter.1 (List.mem_of_mem_take hy)).2

/-- **The first block of its class fits exactly**, and is taken whatever else is free. -/
lemma fit_attach (free : SizeClass → List BlockInfo) (b : BlockInfo) (hwindow : window ≠ 0) :
    fit (attach free b) b.size window = some b := by
  rw [fit, SizeClass.upFrom_eq_cons, List.findSome?_cons, attach, Function.update_self,
    bestFit_cons_self b _ hwindow]

lemma detach_attach (hb : ∀ c, b ∉ free c) : detach (attach free b) b = free := by
  funext c
  rcases eq_or_ne c (SizeClass.ofSize b.size) with rfl | hne
  · rw [detach, attach, Function.update_self, List.erase_cons_head]
  · rw [detach, attach, Function.update_of_ne hne, List.erase_of_not_mem (hb c)]

/-! ## Layout and lists determine tags and links -/

lemma Laid.byte_eq (h : Laid m prologue blocks) (h' : Laid m' prologue blocks) (hb : b ∈ blocks)
    (hpos : b.AtTags pos) : m'.byte pos = m.byte pos :=
  (h.tagged b hb).byte_eq (h'.tagged b hb) (h.valid b hb) hpos

lemma Listed.byte_eq (h : Listed m lists blocks [] free) (h' : Listed m' lists' blocks [] free)
    (hpos : InFreeSlot blocks pos) : m'.byte pos = m.byte pos := by
  obtain ⟨b, hb, hfree, hslot⟩ := hpos
  have hlisted : b ∈ free (SizeClass.ofSize b.size) := (h.mem_iff _ b).2 ⟨hb, hfree, rfl, nofun⟩
  exact h.represents.byte_eq h'.represents (List.mem_map_of_mem hlisted) hslot

end

namespace Heap

variable {h : Heap} {m : Memory} {lists : FreeLists} {pre post blocks : List BlockInfo}
variable {free : SizeClass → List BlockInfo} {b : BlockInfo} {size pos : Nat}

/-! ## There and back -/

/-- **Releasing a block between allocated ones.**  It becomes the first of its class, and nothing is
touched but its tags and link words. -/
lemma Sound.releaseBlock_alone (hs : h.Sound (pre ++ b :: post) free) (hall : b.allocated = true)
    (hpre : lastFree? pre = none) (hpost : firstFree? post = none) :
    ∃ m lists, (h.releaseBlock b.offset).outcome = .ok (h.put m lists) ∧
      (h.put m lists).Sound (pre ++ b.freed :: post) (attach free b.freed) ∧
      Memory.ChangedOnly (fun pos => b.AtTags pos ∨ InFreeSlot (pre ++ b.freed :: post) pos)
        h.memory m := by
  obtain ⟨hjoint, hjoined⟩ := joined_eq hpre hpost (show b.freed.allocated = false from rfl)
  obtain ⟨m, lists, hrelease, hsound, hstamped⟩ := hs.releaseBlock_exact hall
  rw [hjoined, relist_eq hpre hpost rfl] at hsound
  rw [hjoined, hjoint] at hstamped
  refine ⟨m, lists, hrelease, hsound, hstamped.changedOnly.mono ?_⟩
  rintro pos (⟨x, hx, hpos⟩ | hpos)
  · obtain rfl : x = b.freed := (List.mem_pair.1 hx).elim id id
    exact .inl hpos
  · exact .inr (hpos.elim (·.mono (by simp)) id)

/-- **Taking a block of the exact size.**  It leaves its list, and nothing is touched but its tags
and link words. -/
lemma Sound.tryAllocate_exact (hs : h.Sound (pre ++ b :: post) free) (hfree : b.allocated = false)
    (hsize : size ≠ 0) (hlt : size + 23 < Checked.bound) (hexact : blockFor size = b.size)
    (hfit : fit free b.size h.config.fitWindow = some b) :
    ∃ m lists, (h.tryAllocate size).outcome = .ok (h.put m lists, .ok ⟨b.offset⟩) ∧
      (h.put m lists).Sound (pre ++ b.front b.size :: post) (detach free b) ∧
      Memory.ChangedOnly (fun pos => b.AtTags pos ∨ InFreeSlot (pre ++ b :: post) pos)
        h.memory m := by
  obtain ⟨m, lists, hplace, hsound, hframe⟩ :=
    hs.place_of_not_split hfree (Nat.le_refl b.size) (by omega)
  rw [← hexact] at hfit hplace
  exact ⟨m, lists, hs.tryAllocate_eq_of_fit hsize hlt hfit hplace, hsound, hframe⟩

/-- **There and back.**  The heap is the old one but for the first two words of the payload. -/
lemma Sound.retake (hs : h.Sound (pre ++ b :: post) free) (hall : b.allocated = true)
    (hpre : lastFree? pre = none) (hpost : firstFree? post = none) (hsize : size ≠ 0)
    (hlt : size + 23 < Checked.bound) (hexact : blockFor size = b.size) :
    ∃ m₁ lists₁ m, (h.releaseBlock b.offset).outcome = .ok (h.put m₁ lists₁) ∧
      ((h.put m₁ lists₁).tryAllocate size).outcome = .ok (h.put m h.lists, .ok ⟨b.offset⟩) ∧
      m₁.size = h.memory.size ∧ (h.put m h.lists).Sound (pre ++ b :: post) free ∧
      Memory.ChangedOnly (Link.InSlot b.offset) h.memory m := by
  have hb : b ∈ pre ++ b :: post := by simp
  obtain ⟨m₁, lists₁, hrelease, hs₁, hframe₁⟩ := hs.releaseBlock_alone hall hpre hpost
  obtain ⟨m, lists, halloc, hs₂, hframe₂⟩ := hs₁.tryAllocate_exact rfl hsize hlt hexact
    (fit_attach free b.freed hs.accepted.fitWindow)
  -- blocks and lists are those of before
  have hfront : b.freed.front b.freed.size = b := by
    obtain ⟨offset, size, allocated⟩ := b
    exact congrArg (BlockInfo.mk offset size) hall.symm
  have hnot : ∀ c, b.freed ∉ free c := by
    intro c hin
    obtain ⟨hmem, hfree, -⟩ := (hs.listed.mem_iff c b.freed).1 hin
    rw [hs.laid.eq_of_offset hmem hb rfl, hall] at hfree
    cases hfree
  rw [hfront, detach_attach hnot] at hs₂
  rw [put_put] at halloc hs₂
  obtain rfl : lists = h.lists := hs.listed.represents.lists_eq hs₂.listed.represents
  refine ⟨m₁, lists₁, m, hrelease, halloc, hframe₁.size, hs₂,
    hframe₂.size.trans hframe₁.size, ?_⟩
  intro pos hpos
  by_cases htags : b.AtTags pos
  · exact hs.laid.byte_eq hs₂.laid hb htags
  by_cases hslot : InFreeSlot (pre ++ b :: post) pos
  · exact hs.listed.byte_eq hs₂.listed hslot
  -- what was free in between and is not now is the block itself
  have hout : ¬ (b.AtTags pos ∨ InFreeSlot (pre ++ b.freed :: post) pos) := by
    rintro (hin | ⟨x, hx, hfree, hin⟩)
    · exact htags hin
    · rcases List.mem_append.1 hx with hx | hx
      · exact hslot ⟨x, by simp [hx], hfree, hin⟩
      rcases List.mem_cons.1 hx with rfl | hx
      · exact hpos hin
      · exact hslot ⟨x, by simp [hx], hfree, hin⟩
  exact (hframe₂.byte pos hout).trans (hframe₁.byte pos hout)

end Heap

namespace Session

variable {arena : Arena} {s : Session} {p : Ptr}

/-- **A request undoes a release.**  Whatever a program has done with a heap: if it gives back a
live pointer whose block stands between allocated ones, or sentinels, and then asks for some bytes
that need a block of that size, it is given the same pointer, whatever else is free.  The arena has
not grown, heads and blocks are those of before, and so is every byte but the first sixteen of the
payload. -/
theorem Reachable.tryAllocate_undoes (hs : Reachable arena s) (hp : p ∈ s.live) :
    ∃ pre size post, s.heap.blocks = .ok (pre ++ ⟨p.offset, size, true⟩ :: post) ∧
      ((∀ x ∈ pre.getLast?, x.allocated = true) → (∀ x ∈ post.head?, x.allocated = true) →
        ∀ n ≠ 0, blockSize? n = some size →
          ∃ h₁ h₂, (s.heap.release (some p)).outcome = .ok h₁ ∧
            (h₁.tryAllocate n).outcome = .ok (h₂, .ok p) ∧
            h₁.memory.size = s.heap.memory.size ∧ h₂.memory.size = s.heap.memory.size ∧
            h₂.lists = s.heap.lists ∧ h₂.blocks = s.heap.blocks ∧
            ∀ pos, ¬ (p.offset ≤ pos ∧ pos < p.offset + 16) →
              h₂.memory.byte pos = s.heap.memory.byte pos) := by
  obtain ⟨blocks, free, hh⟩ := hs.holds
  obtain ⟨⟨offset, size, allocated⟩, hb, rfl, rfl⟩ := hh.exists_block hp
  obtain ⟨pre, post, rfl⟩ := List.append_of_mem hb
  refine ⟨pre, size, post, hh.sound.blocks_eq, ?_⟩
  intro hpre hpost n hn hsize
  have hlast : lastFree? pre = none :=
    Option.filter_eq_none_iff.2 fun x hx => by simp [hpre x hx]
  have hfirst : firstFree? post = none :=
    Option.filter_eq_none_iff.2 fun x hx => by simp [hpost x hx]
  rw [blockSize?_eq] at hsize
  split at hsize
  · next hlt =>
    obtain ⟨m₁, lists₁, m, hrelease, halloc, hsize₁, hs₂, hframe⟩ :=
      hh.sound.retake rfl hlast hfirst hn hlt (Option.some.inj hsize)
    exact ⟨_, _, hrelease, halloc, hsize₁, hframe.size, rfl,
      hs₂.blocks_eq.trans hh.sound.blocks_eq.symm, hframe.byte⟩
  · cases hsize

/-- A block of 32 bytes is given back and taken again, and not the other free block of that size. -/
theorem Reachable.tryAllocate_undoes_small :
    ∃ s : Session, s.live = [⟨64⟩, ⟨32⟩] ∧
      s.heap.blocks = .ok [⟨32, 32, true⟩, ⟨64, 32, true⟩, ⟨96, 32, false⟩] ∧
      ∃ h₁ h₂, (s.heap.release (some ⟨32⟩)).outcome = .ok h₁ ∧
        (h₁.tryAllocate 8).outcome = .ok (h₂, .ok ⟨32⟩) ∧ h₂.lists = s.heap.lists := by
  obtain ⟨s, hs, hlive, hblocks⟩ := exists_small
  obtain ⟨pre, size, post, hblocks', hundoes⟩ :=
    Reachable.tryAllocate_undoes hs (p := ⟨32⟩) (by simp [hlive])
  have hsplit := Except.ok.inj (hblocks'.symm.trans hblocks)
  obtain ⟨rfl, rfl, rfl⟩ : pre = [] ∧ size = 32 ∧ post = [⟨64, 32, true⟩, ⟨96, 32, false⟩] := by
    simpa [List.append_eq_cons_iff, List.cons_eq_append_iff] using hsplit
  obtain ⟨h₁, h₂, hrelease, halloc, -, -, hlists, -⟩ :=
    hundoes nofun (by simp) 8 (by decide) (by decide)
  exact ⟨s, hlive, hblocks, h₁, h₂, hrelease, halloc, hlists⟩

/-- **Nothing is no size.**  A request for no bytes would need a block of 32 bytes, but is refused:
it does not take back the block of 32 bytes between allocated ones that was just given back. -/
theorem Reachable.exists_not_undone_by_zero :
    ∃ s : Session, Reachable (.owned 1024 1024) s ∧ (⟨32⟩ : Ptr) ∈ s.live ∧
      s.heap.blocks = .ok [⟨32, 32, true⟩, ⟨64, 32, true⟩, ⟨96, 32, false⟩] ∧
      blockSize? 0 = some 32 ∧ ∃ h₁, (s.heap.release (some ⟨32⟩)).outcome = .ok h₁ ∧
        ∀ h₂ p, (h₁.tryAllocate 0).outcome ≠ .ok (h₂, .ok p) := by
  obtain ⟨s, hs, hlive, hblocks⟩ := exists_small
  have hp : (⟨32⟩ : Ptr) ∈ s.live := by simp [hlive]
  obtain ⟨blocks, free, hh⟩ := hs.holds
  obtain ⟨b, hb, hall, hptr⟩ := hh.exists_block hp
  obtain ⟨h₁, -, -, hrelease, -⟩ :=
    hh.turned_release hb hall (show (Call.release (some b.ptr)).pointer? = some b.ptr from rfl)
  rw [show b.ptr = ⟨32⟩ from hptr.symm] at hrelease
  refine ⟨s, hs, hp, hblocks, by decide, h₁, hrelease, ?_⟩
  intro h₂ p halloc
  rw [Heap.tryAllocate, if_pos rfl] at halloc
  cases halloc

end Session

end BlockHeap
