import BlockHeap.Proofs.Invariant

/-!
# Walking over the blocks

In a sound heap the walk from the prologue meets the blocks of the layout and ends at the epilogue
(`Heap.Shows.blocks_eq`).  Since the blocks fill the arena behind the prologue, the sizes that
`Heap.stats` adds up stay below the size of the arena (`Heap.Shows.stats_eq`).
-/

namespace BlockHeap

/-- The sizes of blocks together. -/
def totalSize : List BlockInfo → Nat
  | [] => 0
  | b :: blocks => b.size + totalSize blocks

section

variable {m : Memory} {start stop fuel : Nat} {blocks : List BlockInfo}

/-- The blocks of a tiling have the size of its extent. -/
lemma Tiles.totalSize_eq (h : Tiles start blocks stop) : start + totalSize blocks = stop := by
  induction blocks generalizing start with
  | nil => exact h
  | cons b rest ih =>
    have := ih h.2
    rw [totalSize, ← Nat.add_assoc]
    exact this

lemma Tiles.length_le (h : Tiles start blocks stop) (hvalid : ∀ b ∈ blocks, b.Valid) :
    start + 32 * blocks.length ≤ stop := by
  induction blocks generalizing start with
  | nil => exact Nat.le_of_eq h
  | cons b rest ih =>
    have h₁ := ih h.2 fun x hx => hvalid x (List.mem_cons_of_mem _ hx)
    have h₂ := (hvalid b List.mem_cons_self).2
    rw [List.length_cons]
    omega

lemma Tiles.nodup_offset (h : Tiles start blocks stop) (hvalid : ∀ b ∈ blocks, b.Valid) :
    (blocks.map BlockInfo.offset).Nodup := by
  induction blocks generalizing start with
  | nil => exact List.nodup_nil
  | cons b rest ih =>
    obtain ⟨hoff, hrest⟩ := h
    refine List.nodup_cons.2 ⟨?_, ih hrest fun x hx => hvalid x (List.mem_cons_of_mem _ hx)⟩
    intro hb
    obtain ⟨x, hx, heq⟩ := List.mem_map.1 hb
    have h₁ := (hrest.bounds hx).1
    have h₂ := (hvalid b List.mem_cons_self).2
    omega

/-- The walk from any block on meets the blocks of a tiling, if their headers say their sizes and
what comes after them has none. -/
lemma Tiles.blocksFrom_eq (htiles : Tiles start blocks m.size)
    (hheader : ∀ b ∈ blocks, ∃ tag, Block.header m b.offset = .ok tag ∧ tag.size = b.size ∧
      tag.allocated = b.allocated)
    (hsize : ∀ b ∈ blocks, b.size ≠ 0)
    (htop : ∃ tag, Block.header m m.size = .ok tag ∧ tag.size = 0)
    (hsmall : m.size < Checked.bound) (hfuel : blocks.length < fuel) :
    Heap.blocksFrom m fuel start = .ok blocks := by
  induction blocks generalizing start fuel with
  | nil =>
    obtain ⟨fuel, rfl⟩ : ∃ k, fuel = k + 1 := ⟨fuel - 1, by omega⟩
    obtain rfl : start = m.size := htiles
    obtain ⟨tag, htag, hzero⟩ := htop
    have hend : Heap.blockAt? m m.size = .ok none := by
      rw [Heap.blockAt?, htag, Fault.ok_bind, if_pos hzero]
      rfl
    rw [Heap.blocksFrom, hend, Fault.ok_bind]
    rfl
  | cons b rest ih =>
    obtain ⟨fuel, rfl⟩ : ∃ k, fuel = k + 1 := ⟨fuel - 1, by omega⟩
    obtain ⟨rfl, htiles⟩ := htiles
    obtain ⟨hb, hrest⟩ := List.forall_mem_cons.1 hheader
    obtain ⟨hne, hsizes⟩ := List.forall_mem_cons.1 hsize
    obtain ⟨tag, htag, htagSize, hall⟩ := hb
    have hle := htiles.le
    have hblock : Heap.blockAt? m b.offset = .ok (some (b, b.offset + b.size)) := by
      rw [Heap.blockAt?, htag, Fault.ok_bind, htagSize, if_neg hne, Checked.add_eq (by omega),
        Fault.ok_bind, hall]
      rfl
    have hnext := ih htiles hrest hsizes (Nat.lt_of_succ_lt_succ hfuel)
    rw [Heap.blocksFrom, hblock, Fault.ok_bind]
    simp only [hnext, Fault.ok_bind, Fault.pure_eq]

end

namespace Heap

variable {h : Heap} {blocks skip : List BlockInfo} {free : SizeClass → List BlockInfo}

/-- **The walk over the blocks.**  It meets the blocks of the layout in order. -/
lemma Shows.blocks_eq (hh : h.Shows blocks skip free) : h.blocks = .ok blocks := by
  have hlen := hh.laid.tiles.length_le hh.laid.valid
  have hsmall := hh.laid.size_lt
  have hfirst : h.firstBlock = .ok (h.prologue + 16) :=
    Checked.add_eq (show h.prologue + 16 < _ by omega)
  rw [Heap.blocks, hfirst, Fault.ok_bind]
  refine hh.laid.tiles.blocksFrom_eq ?_ ?_ ⟨_, hh.laid.header_top, Tag.size_of_epilogue⟩
    (by omega) (by omega)
  · intro b hb
    exact ⟨b.tag, hh.laid.header_eq hb, hh.laid.size_tag hb, hh.laid.allocated_tag hb⟩
  · intro b hb
    have := (hh.laid.valid b hb).2
    omega

end Heap

namespace Stats

lemma bytes_foldl (blocks : List BlockInfo) (stats : Stats) :
    (blocks.foldl count stats).allocatedBytes + (blocks.foldl count stats).freeBytes =
      stats.allocatedBytes + stats.freeBytes + totalSize blocks := by
  induction blocks generalizing stats with
  | nil => rfl
  | cons b rest ih =>
    have hcount : (stats.count b).allocatedBytes + (stats.count b).freeBytes =
        stats.allocatedBytes + stats.freeBytes + b.size := by
      unfold count
      split
      · show stats.allocatedBytes + b.size + stats.freeBytes = _
        omega
      · show stats.allocatedBytes + (stats.freeBytes + b.size) = _
        omega
    rw [List.foldl_cons, ih, hcount]
    rw [totalSize]
    omega

lemma blocks_foldl (blocks : List BlockInfo) (stats : Stats) :
    (blocks.foldl count stats).allocatedBlocks + (blocks.foldl count stats).freeBlocks =
      stats.allocatedBlocks + stats.freeBlocks + blocks.length := by
  induction blocks generalizing stats with
  | nil => rfl
  | cons b rest ih =>
    have hcount : (stats.count b).allocatedBlocks + (stats.count b).freeBlocks =
        stats.allocatedBlocks + stats.freeBlocks + 1 := by
      unfold count
      split
      · show stats.allocatedBlocks + 1 + stats.freeBlocks = _
        omega
      · show stats.allocatedBlocks + (stats.freeBlocks + 1) = _
        omega
    rw [List.foldl_cons, ih, hcount, List.length_cons]
    omega

lemma arenaBytes_foldl (blocks : List BlockInfo) (stats : Stats) :
    (blocks.foldl count stats).arenaBytes = stats.arenaBytes := by
  induction blocks generalizing stats with
  | nil => rfl
  | cons b rest ih =>
    rw [List.foldl_cons, ih]
    unfold count
    split <;> rfl

end Stats

/-- **The blocks in numbers.**  All sums are bounded by the size of the arena. -/
lemma Heap.Shows.stats_eq {h : Heap} {blocks skip : List BlockInfo}
    {free : SizeClass → List BlockInfo} (hh : h.Shows blocks skip free) :
    ∃ stats, h.stats = .ok stats ∧ stats.arenaBytes = h.memory.size ∧
      stats.allocatedBlocks + stats.freeBlocks = blocks.length ∧
      stats.allocatedBytes + stats.freeBytes + h.prologue + 16 = stats.arenaBytes := by
  refine ⟨_, by rw [Heap.stats, hh.blocks_eq, Fault.ok_bind]; rfl, Stats.arenaBytes_foldl ..,
    ?_, ?_⟩
  · rw [Stats.blocks_foldl]
    exact Nat.zero_add _
  · have htotal := hh.laid.tiles.totalSize_eq
    rw [Stats.bytes_foldl, Stats.arenaBytes_foldl]
    show 0 + totalSize blocks + h.prologue + 16 = h.memory.size
    omega

end BlockHeap
