import BlockHeap.Proofs.Undoing

/-!
# Where an answered request gets its block

A request may be served from a free block that was there, or from the space at the top for which the
arena grows first.  What comes of it is the same: add to the blocks what the arena has grown by
(`raised`), and one free block of them has given way to an allocated one, with a free one behind it
if 32 bytes or more are left over (`placed`).  All other blocks stand where they stood.

`Heap.Carved` is this together with what the caller gets: an aligned pointer into the arena, to an
allocated block that is large enough and has at most 24 bytes too many.  Both ways to serve a
request come to it (`Heap.Sound.carved_of_fit`, `Heap.Sound.carved_of_growth`).
-/

namespace BlockHeap

/-- What is left over and cannot stand alone is less than a block. -/
lemma size_taken_le {b : BlockInfo} {needed : Nat} (haligned : needed % 8 = 0)
    (hvalid : (taken b needed).Valid) : (taken b needed).size ≤ needed + 24 := by
  have hsize := hvalid.1
  unfold taken BlockInfo.front at hsize ⊢
  by_cases hsplit : 32 ≤ b.size - needed
  · rw [if_pos hsplit]
    exact Nat.le_add_right ..
  · rw [if_neg hsplit] at hsize ⊢
    simp only at hsize ⊢
    omega

namespace Heap

variable {h h' : Heap} {pre post blocks : List BlockInfo} {free free' : SizeClass → List BlockInfo}
variable {b : BlockInfo} {size : Nat}

/-- A request for `size` bytes, for which a block of `needed` is needed, was answered by `p`: the
blocks of `h` are `blocks`, and those of `h'` are `blocks'`.  The block of the pointer has at most
24 bytes more than are needed; and once the growth is added at the top, one free block has given way
to it and to its rest. -/
structure Carved (h : Heap) (blocks : List BlockInfo) (size needed : Nat) (h' : Heap)
    (blocks' : List BlockInfo) (p : Ptr) : Prop where
  aligned : p.offset % 8 = 0
  inside : p.offset + size ≤ h'.memory.size
  block : ∃ got, ⟨p.offset, got, true⟩ ∈ blocks' ∧ needed ≤ got ∧ got ≤ needed + 24
  usable : ∃ usable, h'.usableSize p = .ok usable ∧ size ≤ usable
  grown : h.memory.size ≤ h'.memory.size
  layout : ∃ pre b post,
    raised blocks h.memory.size (h'.memory.size - h.memory.size) = pre ++ b :: post ∧
      b.offset = p.offset ∧ b.allocated = false ∧ needed ≤ b.size ∧
      blocks' = pre ++ (placed b needed ++ post)

/-- The caller's part follows from the layout. -/
lemma Sound.carved (hs : h'.Sound (pre ++ (placed b (blockFor size) ++ post)) free')
    (hgrown : h.memory.size ≤ h'.memory.size)
    (hraised : raised blocks h.memory.size (h'.memory.size - h.memory.size) = pre ++ b :: post)
    (hfree : b.allocated = false) (hle : blockFor size ≤ b.size) :
    h.Carved blocks size (blockFor size) h' (pre ++ (placed b (blockFor size) ++ post))
      ⟨b.offset⟩ := by
  obtain ⟨haligned, -, hroom⟩ := blockFor_spec size
  have htaken : taken b (blockFor size) ∈ pre ++ (placed b (blockFor size) ++ post) :=
    List.mem_append_right _ (List.mem_append_left _ ((mem_placed rfl).2 rfl))
  have hoffset : (taken b (blockFor size)).offset = b.offset := rfl
  have hbounds := hs.laid.bounds htaken
  have hquantum := hs.laid.aligned htaken
  have hgot := le_size_taken hle
  have husable := hs.usableSize_eq htaken
  rw [hoffset] at hbounds hquantum husable
  refine ⟨hquantum, ?_, ?_, ?_, hgrown, pre, b, post, hraised, rfl, hfree, hle, rfl⟩
  · show b.offset + size ≤ h'.memory.size
    omega
  · exact ⟨_, htaken, hgot, size_taken_le haligned (hs.laid.valid _ htaken)⟩
  · exact ⟨_, husable, by omega⟩

lemma Sound.carved_of_fit (hs : h.Sound blocks free) (hsize : size ≠ 0)
    (hlt : size + 23 < Checked.bound)
    (hfit : fit free (blockFor size) h.config.fitWindow = some b) :
    ∃ h' blocks', (h.tryAllocate size).outcome = .ok (h', .ok ⟨b.offset⟩) ∧
      h'.blocks = .ok blocks' ∧ h.Carved blocks size (blockFor size) h' blocks' ⟨b.offset⟩ := by
  obtain ⟨hb, hfree, hle⟩ := hs.listed.mem_of_fit hfit
  obtain ⟨pre, post, rfl⟩ := List.append_of_mem hb
  obtain ⟨m, lists, halloc, hsound, hframe⟩ := hs.tryAllocate_of_fit hsize hlt hfit
  have hkept : (h.put m lists).memory.size = h.memory.size := hframe.size
  refine ⟨_, _, halloc, hsound.blocks_eq, hsound.carved (Nat.le_of_eq hkept.symm) ?_ hfree hle⟩
  rw [hkept, Nat.sub_self, raised_zero]

lemma Sound.carved_of_growth (hs : h.Sound blocks free) (hsize : size ≠ 0)
    (hlt : size + 23 < Checked.bound)
    (hfit : fit free (blockFor size) h.config.fitWindow = none)
    (hgrow : h.arena.CanGrow (h.increment size)) :
    ∃ h' blocks', (h.tryAllocate size).outcome =
        .ok (h', .ok ⟨(h.topBlock blocks size).offset⟩) ∧ h'.blocks = .ok blocks' ∧
      h.Carved blocks size (blockFor size) h' blocks' ⟨(h.topBlock blocks size).offset⟩ := by
  have hmin := (hs.increment_spec size).2.1
  obtain ⟨m, lists, halloc, hsound, hframe⟩ := hs.tryAllocate_of_growth hsize hlt hfit hgrow
  have hgrown : (h.put m lists).memory.size = h.memory.size + h.increment size :=
    hframe.size.trans (Memory.size_extend ..)
  rw [← List.append_nil (placed _ _)] at hsound
  refine ⟨_, _, halloc, hsound.blocks_eq,
    hsound.carved (by omega) ?_ rfl (hs.blockFor_le_topBlock size)⟩
  rw [hgrown, Nat.add_sub_cancel_left, raised_eq_joined (by omega)]
  rfl

/-- **Carving.**  A request is answered; and if it is by a pointer, the block of the pointer was cut
from a free one. -/
lemma Sound.exists_carved (hs : h.Sound blocks free) (size : Nat) :
    ∃ h' result, (h.tryAllocate size).outcome = .ok (h', result) ∧ ∀ p, result = .ok p →
      ∃ needed blocks', blockSize? size = some needed ∧ h'.blocks = .ok blocks' ∧
        h.Carved blocks size needed h' blocks' p := by
  by_cases hsize : size = 0
  · subst hsize
    refine ⟨h, _, h.tryAllocate_zero, ?_⟩
    rintro p ⟨⟩
  by_cases hlt : size + 23 < Checked.bound
  · have hneeded := blockSize?_eq_some_iff.2 ⟨hlt, rfl⟩
    cases hfit : fit free (blockFor size) h.config.fitWindow with
    | some b =>
      obtain ⟨h', blocks', halloc, hblocks, hcarved⟩ := hs.carved_of_fit hsize hlt hfit
      refine ⟨h', _, halloc, ?_⟩
      rintro p ⟨⟩
      exact ⟨_, blocks', hneeded, hblocks, hcarved⟩
    | none =>
      by_cases hgrow : h.arena.CanGrow (h.increment size)
      · obtain ⟨h', blocks', halloc, hblocks, hcarved⟩ := hs.carved_of_growth hsize hlt hfit hgrow
        refine ⟨h', _, halloc, ?_⟩
        rintro p ⟨⟩
        exact ⟨_, blocks', hneeded, hblocks, hcarved⟩
      · refine ⟨h, _, hs.tryAllocate_of_refusal hsize hlt hfit hgrow, ?_⟩
        rintro p ⟨⟩
  · refine ⟨h, _, h.tryAllocate_of_tooLarge hlt, ?_⟩
    rintro p ⟨⟩

end Heap

namespace Session

variable {arena : Arena} {s : Session}

/-- **Where an answered request gets its block.**  Whatever a program has done with a heap, a
request is answered; and a pointer that it is answered by is aligned, has room for what was asked for inside
the arena, and belongs to an allocated block that was cut from a free one, of those that were there
or of the one at the top with what the arena has grown by. -/
theorem Reachable.tryAllocate_carved (hs : Reachable arena s) (size : Nat) :
    ∃ blocks h' result, s.heap.blocks = .ok blocks ∧
      (s.heap.tryAllocate size).outcome = .ok (h', result) ∧ ∀ p, result = .ok p →
        ∃ needed blocks', blockSize? size = some needed ∧
          LeastMultiple (max 32 (size + 16)) needed ∧ h'.blocks = .ok blocks' ∧
          s.heap.Carved blocks size needed h' blocks' p := by
  obtain ⟨blocks, free, hh⟩ := hs.holds
  obtain ⟨h', result, halloc, hcarved⟩ := hh.sound.exists_carved size
  refine ⟨blocks, h', result, hh.sound.blocks_eq, halloc, ?_⟩
  intro p hp
  obtain ⟨needed, blocks', hneeded, hblocks', hlayout⟩ := hcarved p hp
  refine ⟨needed, blocks', hneeded, ?_, hblocks', hlayout⟩
  exact (blockSize?_eq_some_iff.1 hneeded).2 ▸ leastMultiple_blockFor size

/-- A request for 40 bytes makes the arena grow by 64.  They are added to the free block of 32 at
the top, and 56 of the 96 are taken. -/
theorem Reachable.tryAllocate_carved_growth : ∃ (s : Session) (h' : Heap), s.live = [⟨32⟩] ∧
    (s.heap.tryAllocate 40).outcome = .ok (h', .ok ⟨64⟩) ∧
    s.heap.blocks = .ok [⟨32, 32, true⟩, ⟨64, 32, false⟩] ∧
    h'.blocks = .ok [⟨32, 32, true⟩, ⟨64, 56, true⟩, ⟨120, 40, false⟩] := by
  obtain ⟨-, s, -, -, hs, hview⟩ := exists_of_attempt ⟨64, 1, 1024⟩ 1024 [.tryAllocate 8]
    (fun s => s.heap.blocks.toOption.bind fun blocks =>
      (s.heap.tryAllocate 40).outcome.toOption.bind fun r => r.2.toOption.map fun p =>
        (s.live, blocks, s.heap.memory.size, r.1.memory.size, p))
    (a := ([⟨32⟩], [⟨32, 32, true⟩, ⟨64, 32, false⟩], 96, 160, ⟨64⟩)) (by decide +kernel)
  obtain ⟨blocks, hblocks, hview⟩ := Option.bind_eq_some_iff.1 hview
  obtain ⟨⟨h', result⟩, halloc, hview⟩ := Option.bind_eq_some_iff.1 hview
  obtain ⟨p, hresult, hview⟩ := Option.map_eq_some_iff.1 hview
  simp only [Prod.mk.injEq] at hview
  obtain ⟨hlive, rfl, hsize, hsize', rfl⟩ := hview
  obtain rfl := eq_ok_of_toOption hresult
  have halloc := eq_ok_of_toOption halloc
  have hblocks := eq_ok_of_toOption hblocks
  obtain ⟨blocks', h'', result, hblocks', halloc', hcarved⟩ := Reachable.tryAllocate_carved hs 40
  obtain rfl := Except.ok.inj (hblocks.symm.trans hblocks')
  obtain ⟨rfl, rfl⟩ := Prod.mk.inj (Except.ok.inj (halloc.symm.trans halloc'))
  obtain ⟨needed, after, hneeded, -, hafter, hlayout⟩ := hcarved _ rfl
  obtain rfl : 56 = needed := Option.some.inj hneeded
  obtain ⟨pre, b, post, hraised, hoffset, -, -, rfl⟩ := hlayout.layout
  rw [hsize, hsize'] at hraised
  have hsplit : [⟨32, 32, true⟩, ⟨64, 96, false⟩] = pre ++ b :: post := hraised
  obtain ⟨rfl, rfl, rfl⟩ : pre = [⟨32, 32, true⟩] ∧ b = ⟨64, 96, false⟩ ∧ post = [] := by
    simp only [List.cons_eq_append_iff, List.nil_eq_append_iff, List.cons.injEq] at hsplit
    aesop
  exact ⟨s, h', hlive, halloc, hblocks, hafter⟩

end Session

end BlockHeap
