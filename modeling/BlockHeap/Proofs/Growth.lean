import BlockHeap.Heap.Allocate
import BlockHeap.Proofs.Coalescing

/-!
# Growing the arena

If no free block will do, the arena grows and the new space becomes a free block: its header takes
the place of the old epilogue, and a new epilogue is written at the top.  `Heap.Shows.append` is
this step for any layout, also for the empty one of a heap that is being made.  `Heap.Sound.extend`
adds what follows it, the joining with a free block that ended at the old top, and
`Heap.Sound.extend_of_not_canGrow` is the case of an arena that cannot grow.
-/

namespace BlockHeap

/-- The free block that growing by so many bytes adds. -/
def Heap.chunkAtTop (h : Heap) (increment : Nat) : BlockInfo := ⟨h.memory.size, increment, false⟩

section

variable {m m' : Memory} {prologue : Nat} {blocks skip : List BlockInfo} {b : BlockInfo}
variable {lists : FreeLists} {free : SizeClass → List BlockInfo}

/-- A block is added at the top, where the epilogue stood. -/
lemma Laid.append (h : Laid m prologue blocks) (hoff : b.offset = m.size)
    (hsize : m'.size = m.size + b.size) (hkeep : ∀ pos < m.size - 8, m'.byte pos = m.byte pos)
    (hvalid : b.Valid) (htagged : b.Tagged m')
    (hepilogue : m'.wordAt (m'.size - 8) = (Tag.of 0 true).raw)
    (hsmall : m'.size < Arena.reservable) : Laid m' prologue (blocks ++ [b]) := by
  have hroom := h.prologue_room
  have hle := h.tiles.le
  have hword : ∀ pos, pos + 8 ≤ m.size - 8 → m'.wordAt pos = m.wordAt pos := by
    intro pos hpos
    apply Memory.wordAt_congr
    intro i (hi : i < 8)
    exact hkeep _ (by omega)
  refine ⟨h.prologue_aligned, hroom, ?_, ?_, ?_, ?_, ?_, hepilogue, hsmall⟩
  · rw [hword _ (by omega), h.prologue_header]
  · rw [hword _ (by omega), h.prologue_footer]
  · exact tiles_append.2 ⟨m.size, h.tiles, hoff, hsize.symm⟩
  · intro x hx
    rcases List.mem_append.1 hx with hx | hx
    · exact h.valid x hx
    · exact List.mem_singleton.1 hx ▸ hvalid
  · intro x hx
    rcases List.mem_append.1 hx with hx | hx
    · have hbounds := h.bounds hx
      obtain ⟨hheader, hfooter⟩ := h.tagged x hx
      exact ⟨(hword _ (by omega)).trans hheader, (hword _ (by omega)).trans hfooter⟩
    · exact List.mem_singleton.1 hx ▸ htagged

lemma Listed.append (hlaid : Laid m prologue blocks) (h : Listed m lists blocks [] free)
    (hoff : b.offset = m.size) (hsize : m.size ≤ m'.size)
    (hkeep : ∀ pos < m.size - 8, m'.byte pos = m.byte pos) :
    Listed m' lists (blocks ++ [b]) [b] free := by
  refine ⟨h.represents.congr hsize ?_, ?_⟩
  · intro c x hx pos hpos
    obtain ⟨y, hy, rfl⟩ := List.mem_map.1 hx
    have hbounds := hlaid.bounds ((h.mem_iff c y).1 hy).1
    unfold Link.InSlot at hpos
    exact hkeep pos (by omega)
  · intro c x
    rw [h.mem_iff c x]
    have hne : x ∈ blocks → x ≠ b := by
      rintro hx rfl
      have := hlaid.bounds hx
      omega
    simp only [List.mem_append, List.mem_singleton, List.not_mem_nil, not_false_eq_true, and_true]
    tauto

/-- A block at the top is joined with nothing that starts above it. -/
lemma Laid.joint_le_top (h : Laid m prologue blocks) (hoff : b.offset = m.size) :
    (joint blocks b []).offset ≤ m.size := by
  cases hlast : lastFree? blocks with
  | none => simp [joint, hlast, hoff]
  | some x =>
    have := h.bounds (free_of_lastFree? hlast).1
    simp only [joint, hlast, Option.getD_some]
    omega

end

namespace Heap

variable {h : Heap} {blocks : List BlockInfo} {free : SizeClass → List BlockInfo} {n : Nat}

/-- The memory with so many more bytes, and the epilogue at the end of them. -/
def stretched (h : Heap) (n : Nat) : Memory :=
  (h.memory.extend n).setWord (h.memory.size + n - 8) (Tag.of 0 true).raw

/-- The memory with a free block in the new space, and the epilogue behind it. -/
def chunked (h : Heap) (n : Nat) : Memory :=
  (Block.setTags (h.memory.extend n) h.memory.size n (h.chunkAtTop n).tag).setWord
    (h.memory.size + n - 8) (Tag.of 0 true).raw

lemma size_chunked (h : Heap) (n : Nat) : (h.chunked n).size = h.memory.size + n := by
  rw [chunked, Memory.size_setWord, Block.size_setTags, Memory.size_extend]

lemma stretched_changedOnly (hmin : 32 ≤ n) :
    Memory.ChangedOnly (fun pos => h.memory.size - 8 ≤ pos) (h.memory.extend n) (h.stretched n) :=
  (Memory.setWord_changedOnly _ _ _).mono fun pos hpos => by omega

lemma chunked_changedOnly (hroom : 8 ≤ h.memory.size) (hmin : 32 ≤ n) :
    Memory.ChangedOnly (h.chunkAtTop n).AtTags (h.stretched n) (h.chunked n) := by
  refine ((Block.setTags_changedOnly _ _ _ _).mono fun pos hpos => ?_).setWord _ _
  simp only [BlockInfo.AtTags, chunkAtTop]
  omega

lemma tagged_chunked (hroom : 8 ≤ h.memory.size) (hmin : 32 ≤ n) :
    (h.chunkAtTop n).Tagged (h.chunked n) := by
  have hgrown : (h.memory.extend n).size = h.memory.size + n := Memory.size_extend ..
  constructor
  · refine (Memory.wordAt_setWord_of_disjoint _ _ (.inl ?_)).trans
      (Block.header_setTags _ hroom (by omega) (by omega))
    show h.memory.size - 8 + 8 ≤ _
    omega
  · refine (Memory.wordAt_setWord_of_disjoint _ _ (.inl ?_)).trans
      (Block.footer_setTags _ (by omega) (by omega))
    show h.memory.size + n - 16 + 8 ≤ _
    omega

lemma epilogue_chunked (n : Nat) (hroom : 8 ≤ h.memory.size) :
    (h.chunked n).wordAt ((h.chunked n).size - 8) = (Tag.of 0 true).raw := by
  rw [size_chunked]
  apply Memory.wordAt_setWord
  rw [Block.size_setTags, Memory.size_extend]
  omega

lemma frameChunk_eq (hroom : 8 ≤ h.memory.size) (hlt : h.memory.size + n + 8 < Checked.bound)
    (haligned : n % 8 = 0) (hmin : 32 ≤ n) :
    frameChunk { h with arena := h.arena.extended n } h.memory.size n =
      .ok (h.put (h.chunked n) h.lists) := by
  have hgrown : (h.memory.extend n).size = h.memory.size + n := Memory.size_extend ..
  have htag : (h.chunkAtTop n).tag.size = n :=
    BlockInfo.size_tag ⟨haligned, hmin⟩ (show n < _ by omega)
  have hchunk : Block.write (h.memory.extend n) h.memory.size (h.chunkAtTop n).tag =
      .ok (Block.setTags (h.memory.extend n) h.memory.size n (h.chunkAtTop n).tag) := by
    rw [Block.write_eq (by omega) (by omega) (by omega) (by omega), htag]
  have hwrite : (do
      let m ← Block.write (h.memory.extend n) h.memory.size (h.chunkAtTop n).tag
      Block.writeHeader m (h.memory.size + n) (Tag.of 0 true)) = .ok (h.chunked n) := by
    rw [hchunk, Fault.ok_bind, Block.writeHeader_eq _ (by omega) ?_]
    · rfl
    · rw [Block.size_setTags, hgrown]
  simp only [frameChunk, Tag.pack_eq _ haligned, Fault.ok_bind,
    Checked.add_eq (show h.memory.size + n < Checked.bound by omega),
    Tag.pack_eq true (show 0 % 8 = 0 from rfl)]
  exact modifyMemory_eq hwrite

lemma Shows.append (hh : h.Shows blocks [] free) (hsmall : h.memory.size + n < Arena.reservable)
    (haligned : n % 8 = 0) (hmin : 32 ≤ n) :
    ∃ m, frameChunk { h with arena := h.arena.extended n } h.memory.size n =
        .ok (h.put m h.lists) ∧
      (h.put m h.lists).Shows (blocks ++ [h.chunkAtTop n]) [h.chunkAtTop n] free ∧
      Memory.ChangedOnly (h.chunkAtTop n).AtTags (h.stretched n) m := by
  have hroom : 8 ≤ h.memory.size := by
    have := hh.laid.prologue_room
    have := hh.laid.tiles.le
    omega
  have hlt : h.memory.size + n + 8 < Checked.bound := by
    unfold Arena.reservable at hsmall
    unfold Checked.bound
    omega
  have hsize := h.size_chunked n
  have hframe := chunked_changedOnly hroom hmin
  have htagged := tagged_chunked hroom hmin
  have hepilogue := epilogue_chunked n hroom
  have hchunk := frameChunk_eq hroom hlt haligned hmin
  generalize h.chunked n = m at hsize hframe htagged hepilogue hchunk
  have hkeep : ∀ pos < h.memory.size - 8, m.byte pos = h.memory.byte pos := by
    intro pos hpos
    have hout : ¬ (h.chunkAtTop n).AtTags pos := by
      simp only [BlockInfo.AtTags, chunkAtTop]
      omega
    exact (hframe.byte pos hout).trans
      (((stretched_changedOnly hmin).byte pos (by omega)).trans (Memory.byte_extend ..))
  refine ⟨m, hchunk, ⟨?_, ?_⟩, hframe⟩
  · exact hh.laid.append rfl hsize hkeep ⟨haligned, hmin⟩ htagged hepilogue (hsize ▸ hsmall)
  · exact hh.listed.append hh.laid rfl (Nat.le.intro hsize.symm) hkeep

/-- **Growing.**  An arena that can grow does, and the new space is joined with a free block that
ended at the old top. -/
lemma Sound.extend_exact (hs : h.Sound blocks free) (hgrow : h.arena.CanGrow n)
    (haligned : n % 8 = 0) (hmin : 32 ≤ n) :
    ∃ m lists, (h.extend n).outcome =
        .ok (h.put m lists, .ok (joint blocks (h.chunkAtTop n) []).offset) ∧
      (h.put m lists).Sound (joined blocks (h.chunkAtTop n) [])
        (relist free blocks (h.chunkAtTop n) []) ∧
      Memory.Stamped (InLinks blocks (joined blocks (h.chunkAtTop n) []))
        [h.chunkAtTop n, joint blocks (h.chunkAtTop n) []] (h.stretched n) m := by
  have harena := hs.arena.extended hgrow
  have hsmall : h.memory.size + n < Arena.reservable :=
    Arena.size_extended h.arena n ▸ harena.size_lt
  obtain ⟨m₁, hchunk, hshows₁, hframe₁⟩ := hs.append hsmall haligned hmin
  obtain ⟨m, lists, hcoalesce, hshows, hstamped⟩ := hshows₁.coalesce_exact
  rw [List.append_nil] at hstamped
  have hchunked : Memory.Stamped (InLinks blocks (joined blocks (h.chunkAtTop n) []))
      [h.chunkAtTop n] (h.stretched n) m₁ :=
    .of_laid hshows₁.laid (by simp) (hframe₁.mono fun _ => .inl)
  have hsize : m.size = (h.arena.extended n).memory.size :=
    hstamped.changedOnly.size.trans (hframe₁.size.trans (Memory.size_setWord ..))
  refine ⟨m, lists, ?_, ?_, hchunked.trans hstamped⟩
  · have hgrow' := Arena.grow_of_canGrow hs.arena.size_le hgrow
    have hframeChunk : frameChunk ⟨h.arena.extended n, h.lists, h.prologue, h.config⟩
        h.arena.size n = .ok (h.put m₁ h.lists) := hchunk
    have hcoalesce' : ((h.put m₁ h.lists).coalesce h.arena.size).outcome =
        .ok (h.put m lists, (joint blocks (h.chunkAtTop n) []).offset) := hcoalesce
    simp only [Heap.extend, Traced.outcome_bind, Traced.outcome_liftM, Traced.outcome_emit,
      Traced.outcome_pure, hgrow', Fault.ok_bind, hframeChunk, hcoalesce']
  · exact
      { hshows with
        arena := harena.of_size hsize
        config := hs.config
        coalesced := coalesced_joined hs.coalesced List.isChain_nil }

lemma Sound.extend (hs : h.Sound blocks free) (hgrow : h.arena.CanGrow n) (haligned : n % 8 = 0)
    (hmin : 32 ≤ n) :
    ∃ m lists, (h.extend n).outcome =
        .ok (h.put m lists, .ok (joint blocks (h.chunkAtTop n) []).offset) ∧
      (h.put m lists).Sound (joined blocks (h.chunkAtTop n) [])
        (relist free blocks (h.chunkAtTop n) []) ∧
      Memory.ChangedOnly
        (fun pos => (joint blocks (h.chunkAtTop n) []).offset - 8 ≤ pos ∨ InFreeSlot blocks pos)
        (h.memory.extend n) m := by
  obtain ⟨m, lists, hextend, hsound, hstamped⟩ := hs.extend_exact hgrow haligned hmin
  have hjoint := hsound.laid.valid (joint blocks (h.chunkAtTop n) []) (by simp [joined])
  have htop := hs.laid.joint_le_top (b := h.chunkAtTop n) rfl
  refine ⟨m, lists, hextend, hsound, ((stretched_changedOnly hmin).mono fun pos hpos => ?_).trans
    (hstamped.changedOnly.mono ?_)⟩
  · exact .inl (by omega)
  · rintro pos (⟨x, hx, hpos⟩ | hpos)
    · left
      rcases List.mem_pair.1 hx with rfl | rfl
      · simp only [BlockInfo.AtTags, chunkAtTop] at hpos
        omega
      · exact (hpos.covers hjoint).1
    · have hpos' := hpos.mono (show blocks ⊆ blocks ++ [] by simp) fun _ => id
      exact (covers_of_inLinks hjoint hpos').imp And.left fun hslot => by simpa using hslot

lemma Sound.extend_of_not_canGrow (hs : h.Sound blocks free) (hgrow : ¬ h.arena.CanGrow n) :
    (h.extend n).outcome = .ok (h, .error (.exhausted n (h.arena.limit - h.arena.size))) := by
  have hgrow' := Arena.grow_of_not_canGrow hs.arena.size_le hgrow
  simp only [Heap.extend, Traced.outcome_bind, Traced.outcome_liftM, Traced.outcome_emit,
    Traced.outcome_pure, hgrow', Fault.ok_bind]

end Heap

end BlockHeap
