import BlockHeap.Proofs.Sessions

/-!
# The integrity of heaps in use

`Heap.Intact h blocks queues` spells out, in terms of what can be read from the arena, that a heap
is in order: its blocks tile the arena between the sentinels, tags agree, no two free blocks are
neighbours, and the free lists are linked both ways and hold each free block once.  Sound heaps are
intact (`Heap.Sound.intact`), so every heap that a program can come to is
(`Session.Reachable.heap_intact`).
-/

namespace BlockHeap

/-- **Integrity.**  The blocks `blocks` and the sequences `queues` of free blocks are what the arena
holds.  The blocks tile the space from the end of the prologue to the epilogue, which is the last
word; they are aligned, not too small, and tagged alike at both ends, and no two neighbours are both
free.  The list of a class starts with the first block of its sequence, the links of every block
lead to the next and the previous one, or nowhere at the ends, and the sequences hold each free
block once, in the class of its size, and nothing else. -/
structure Heap.Intact (h : Heap) (blocks : List BlockInfo) (queues : SizeClass → List Nat) :
    Prop where
  walk : h.blocks = .ok blocks
  tiles : Tiles (h.prologue + 16) blocks h.memory.size
  epilogue : ∃ tag, Block.header h.memory h.memory.size = .ok tag ∧ tag.size = 0 ∧
    tag.allocated = true
  shape : ∀ b ∈ blocks, b.offset % 8 = 0 ∧ b.size % 8 = 0 ∧ 32 ≤ b.size
  tags : ∀ b ∈ blocks, ∃ tag, Block.header h.memory b.offset = .ok tag ∧
    Block.precedingTag h.memory (b.offset + b.size) = .ok tag ∧ tag.size = b.size ∧
      tag.allocated = b.allocated
  prologue : ∃ tag, Block.header h.memory h.prologue = .ok tag ∧
    Block.precedingTag h.memory (h.prologue + 16) = .ok tag ∧ tag.size = 16 ∧ tag.allocated = true
  coalesced : blocks.IsChain fun b b' => b.allocated = true ∨ b'.allocated = true
  head : ∀ c, h.lists.head c = (queues c).head?
  links : ∀ c before after x, queues c = before ++ x :: after →
    Link.prev h.memory x = .ok before.getLast? ∧ Link.next h.memory x = .ok after.head?
  nodup : ∀ c, (queues c).Nodup
  listed : ∀ c x, x ∈ queues c ↔
    ∃ b ∈ blocks, b.offset = x ∧ b.allocated = false ∧ SizeClass.ofSize b.size = c

section

variable {h : Heap} {blocks : List BlockInfo} {free : SizeClass → List BlockInfo}

/-- The footer of a block is read from where the next one starts. -/
lemma Laid.precedingTag_eq {m : Memory} {prologue : Nat} {b : BlockInfo}
    (hlaid : Laid m prologue blocks) (hb : b ∈ blocks) :
    Block.precedingTag m (b.offset + b.size) = .ok b.tag := by
  have hbounds := hlaid.bounds hb
  rw [Block.precedingTag_eq (by omega) (by omega), (hlaid.tagged b hb).2]

lemma Heap.Sound.intact (hs : h.Sound blocks free) :
    h.Intact blocks fun c => (free c).map BlockInfo.offset where
  walk := hs.blocks_eq
  tiles := hs.laid.tiles
  epilogue := ⟨_, hs.laid.header_top, Tag.size_of_epilogue, Tag.allocated_of_epilogue⟩
  shape b hb := ⟨hs.laid.aligned hb, hs.laid.valid b hb⟩
  tags b hb := ⟨b.tag, hs.laid.header_eq hb, hs.laid.precedingTag_eq hb, hs.laid.size_tag hb,
    hs.laid.allocated_tag hb⟩
  prologue := by
    have hroom := hs.laid.prologue_room
    have hle := hs.laid.tiles.le
    refine ⟨.of 16 true, ?_, ?_, Tag.size_of_prologue, Tag.allocated_of_prologue⟩
    · rw [Block.header_eq (by omega) (by omega), hs.laid.prologue_header]
    · rw [Block.precedingTag_eq (by omega) hle, Nat.add_sub_cancel, hs.laid.prologue_footer]
  coalesced := hs.coalesced
  head := hs.listed.represents.head
  links c before after x hq :=
    FreeLists.neighbours_eq hs.listed.represents hq (by have := hs.laid.size_lt; omega)
  nodup := hs.listed.represents.nodup
  listed c x := by
    simp only [List.mem_map, hs.listed.mem_iff, List.not_mem_nil, not_false_eq_true, and_true]
    exact ⟨fun ⟨b, ⟨hb, hfree, hc⟩, hx⟩ => ⟨b, hb, hx, hfree, hc⟩,
      fun ⟨b, hb, hx, hfree, hc⟩ => ⟨b, ⟨hb, hfree, hc⟩, hx⟩⟩

/-- Heads and links tell the sequences. -/
lemma Heap.Intact.queues_eq {blocks' : List BlockInfo} {queues queues' : SizeClass → List Nat}
    (hi : h.Intact blocks queues) (hi' : h.Intact blocks' queues') : queues = queues' := by
  -- what follows on equal first nodes is the same
  have hrest (c : SizeClass) (after : List Nat) : ∀ before before' after',
      queues c = before ++ after → queues' c = before' ++ after' → after.head? = after'.head? →
        after = after' := by
    induction after with
    | nil =>
      intro _ _ after' _ _ hhead
      exact (List.head?_eq_none_iff.1 hhead.symm).symm
    | cons x rest ih =>
      intro before before' after' hq hq' hhead
      obtain ⟨rest', rfl⟩ := List.head?_eq_some_iff.1 hhead.symm
      have hnext := (hi.links c _ _ _ hq).2.symm.trans (hi'.links c _ _ _ hq').2
      rw [ih (before ++ [x]) (before' ++ [x]) rest' (by simp [hq]) (by simp [hq'])
        (Except.ok.inj hnext)]
  funext c
  exact hrest c _ [] [] _ rfl rfl ((hi.head c).symm.trans (hi'.head c))

end

namespace Session

variable {arena : Arena} {s : Session}

/-- **Heaps in use are intact.**  Whatever a program does with a heap, as long as it hands over live
pointers only: after every call the heap is intact, its allocated blocks are those of the live
pointers, and the next permitted call has an answer. -/
theorem Reachable.heap_intact (hs : Reachable arena s) :
    (∃ blocks queues, s.heap.Intact blocks queues ∧ s.live.Nodup ∧
      ∀ p, p ∈ s.live ↔ ∃ b ∈ blocks, b.offset = p.offset ∧ b.allocated = true) ∧
    ∀ call, s.Permits call → ∃ s' answer, s.perform call = .ok (s', answer) ∧
      Reachable arena s' := by
  obtain ⟨blocks, free, hh⟩ := hs.holds
  refine ⟨⟨blocks, _, hh.sound.intact, hh.nodup, ?_⟩, ?_⟩
  · intro p
    rw [hh.mem_live p]
    exact ⟨fun ⟨b, hb, hall, hptr⟩ => ⟨b, hb, congrArg Ptr.offset hptr, hall⟩,
      fun ⟨b, hb, hoff, hall⟩ => ⟨b, hb, hall, congrArg Ptr.mk hoff⟩⟩
  · intro call hpermit
    obtain ⟨s', answer, -, -, -, -, hperform, -, -⟩ := hh.perform hpermit
    exact ⟨s', answer, hperform, hs.step hpermit hperform⟩

/-- Two small live blocks are the two allocated blocks of an intact heap. -/
theorem Reachable.heap_intact_small :
    ∃ s : Session, s.live = [⟨64⟩, ⟨32⟩] ∧ ∃ queues,
      s.heap.Intact [⟨32, 32, true⟩, ⟨64, 32, true⟩, ⟨96, 32, false⟩] queues := by
  obtain ⟨s, hs, hlive, hblocks⟩ := exists_small
  obtain ⟨⟨blocks, queues, hintact, -, -⟩, -⟩ := Reachable.heap_intact hs
  obtain rfl := Except.ok.inj (hintact.walk.symm.trans hblocks)
  exact ⟨s, hlive, queues, hintact⟩

end Session

end BlockHeap
