import BlockHeap.Heap.Coalesce
import BlockHeap.Proofs.Arenas
import BlockHeap.Proofs.Layout
import BlockHeap.Proofs.SizeClasses

/-!
# Sound heaps

`Listed m lists blocks skip free` says that the free lists hold, class by class and in the order
`free`, exactly the free blocks of a layout, apart from those in `skip`: while blocks are joined or
split, the ones that are about to change are on no list.  `Heap.Sound` is the invariant of a heap
between two requests.  It has the layout, the lists with nothing skipped, no two free neighbours,
and an arena and a configuration that let requests be answered.

A heap with other bytes and other heads is `Heap.put`.  Every operation is shown to end in
`h.put m lists`, so that configuration, limit and backing are seen to stay.
-/

namespace BlockHeap

/-- An offset in the link words of a free block. -/
def InFreeSlot (blocks : List BlockInfo) (pos : Nat) : Prop :=
  ∃ b ∈ blocks, b.allocated = false ∧ Link.InSlot b.offset pos

lemma InFreeSlot.mono {blocks blocks' : List BlockInfo} {pos : Nat} (h : InFreeSlot blocks pos)
    (hsub : blocks ⊆ blocks') : InFreeSlot blocks' pos := by
  obtain ⟨b, hb, hfree, hpos⟩ := h
  exact ⟨b, hsub hb, hfree, hpos⟩

lemma BlockInfo.covers_of_inSlot {b : BlockInfo} {pos : Nat} (hsize : 32 ≤ b.size)
    (hpos : Link.InSlot b.offset pos) : b.Covers pos := by
  unfold Link.InSlot at hpos
  unfold Covers
  omega

/-- Link words lie in a given block or belong to one of the others. -/
lemma InFreeSlot.covers_or {pre post : List BlockInfo} {b : BlockInfo} {pos : Nat}
    (h : InFreeSlot (pre ++ b :: post) pos) (hsize : 32 ≤ b.size) :
    b.Covers pos ∨ InFreeSlot (pre ++ post) pos := by
  obtain ⟨x, hx, hfree, hpos⟩ := h
  simp only [List.mem_append, List.mem_cons] at hx
  rcases hx with hx | rfl | hx
  · exact .inr ⟨x, by simp [hx], hfree, hpos⟩
  · exact .inl (BlockInfo.covers_of_inSlot hsize hpos)
  · exact .inr ⟨x, by simp [hx], hfree, hpos⟩

lemma InFreeSlot.of_allocated {pre post : List BlockInfo} {b : BlockInfo} {pos : Nat}
    (h : InFreeSlot (pre ++ [b] ++ post) pos) (hall : b.allocated = true) :
    InFreeSlot (pre ++ post) pos := by
  obtain ⟨x, hx, hfree, hpos⟩ := h
  have hne := BlockInfo.ne_of_free_of_allocated hfree hall
  exact ⟨x, by simpa [hne] using hx, hfree, hpos⟩

/-! ## Free blocks and lists -/

/-- The lists hold the free blocks that are not skipped, each in the class of its size. -/
structure Listed (m : Memory) (lists : FreeLists) (blocks skip : List BlockInfo)
    (free : SizeClass → List BlockInfo) : Prop where
  represents : lists.Represents m fun c => (free c).map BlockInfo.offset
  mem_iff : ∀ c b, b ∈ free c ↔
    b ∈ blocks ∧ b.allocated = false ∧ SizeClass.ofSize b.size = c ∧ b ∉ skip

/-- The lists without a block. -/
def detach (free : SizeClass → List BlockInfo) (b : BlockInfo) : SizeClass → List BlockInfo :=
  fun c => (free c).erase b

/-- The lists with a block put in front of the class of its size. -/
def attach (free : SizeClass → List BlockInfo) (b : BlockInfo) : SizeClass → List BlockInfo :=
  Function.update free (SizeClass.ofSize b.size) (b :: free (SizeClass.ofSize b.size))

namespace Listed

variable {m m' : Memory} {prologue : Nat} {lists : FreeLists}
variable {blocks skip skip' pre mid mid' post : List BlockInfo} {b : BlockInfo}
variable {free : SizeClass → List BlockInfo}

lemma nodup (h : Listed m lists blocks skip free) (c : SizeClass) : (free c).Nodup :=
  (List.pairwise_map.1 (h.represents.nodup c)).imp fun hne he => hne (congrArg _ he)

/-- Which blocks are skipped matters for free blocks only. -/
lemma congr_skip (h : Listed m lists blocks skip free)
    (hskip : ∀ b ∈ blocks, b.allocated = false → (b ∈ skip ↔ b ∈ skip')) :
    Listed m lists blocks skip' free := by
  refine ⟨h.represents, ?_⟩
  intro c b
  rw [h.mem_iff c b]
  constructor
  · rintro ⟨hb, hfree, hc, hnot⟩
    exact ⟨hb, hfree, hc, fun hin => hnot ((hskip b hb hfree).2 hin)⟩
  · rintro ⟨hb, hfree, hc, hnot⟩
    exact ⟨hb, hfree, hc, fun hin => hnot ((hskip b hb hfree).1 hin)⟩

lemma skip_cons_iff (hall : b.allocated = true) :
    Listed m lists blocks (b :: skip) free ↔ Listed m lists blocks skip free := by
  have hskip : ∀ x ∈ blocks, x.allocated = false → (x ∈ b :: skip ↔ x ∈ skip) := by
    intro x _ hx
    simp [BlockInfo.ne_of_free_of_allocated hx hall]
  constructor
  · intro h
    exact h.congr_skip hskip
  · intro h
    exact h.congr_skip fun x hx hfree => (hskip x hx hfree).symm

/-- The lists survive every change outside the link words of free blocks that are listed. -/
lemma of_changedOnly {touched : Nat → Prop} (h : Listed m lists blocks skip free)
    (hm : Memory.ChangedOnly touched m m')
    (hout : ∀ b ∈ blocks, b.allocated = false → b ∉ skip → ∀ pos, Link.InSlot b.offset pos →
      ¬ touched pos) : Listed m' lists blocks skip free := by
  refine ⟨h.represents.of_changedOnly hm ?_, h.mem_iff⟩
  intro c x hx pos hpos
  obtain ⟨b, hb, rfl⟩ := List.mem_map.1 hx
  obtain ⟨hmem, hfree, -, hnot⟩ := (h.mem_iff c b).1 hb
  exact hout b hmem hfree hnot pos hpos

/-- Blocks that are on no list can be exchanged for others that are on none. -/
lemma replace (h : Listed m lists (pre ++ (mid ++ post)) mid free)
    (hold : ∀ b ∈ pre ++ post, b ∉ mid) (hnew : ∀ b ∈ pre ++ post, b ∉ mid') :
    Listed m lists (pre ++ (mid' ++ post)) mid' free := by
  refine ⟨h.represents, ?_⟩
  intro c b
  rw [h.mem_iff c b]
  have hold' := hold b
  have hnew' := hnew b
  simp only [List.mem_append] at hold' hnew' ⊢
  tauto

/-! ### Taking a block off its list -/

lemma slots_subset (h : Listed m lists blocks skip free) {c : SizeClass} {pos : Nat}
    (hb : b ∈ free c) (hpos : Link.InSlot b.offset pos) :
    InFreeSlot (blocks.filter (· ∉ skip)) pos := by
  obtain ⟨hmem, hfree, -, hskip⟩ := (h.mem_iff c b).1 hb
  exact ⟨b, List.mem_filter.2 ⟨hmem, decide_eq_true hskip⟩, hfree, hpos⟩

lemma remove (hlaid : Laid m prologue blocks) (h : Listed m lists blocks skip free)
    (hb : b ∈ blocks) (hfree : b.allocated = false) (hskip : b ∉ skip) :
    ∃ lists' m', lists.remove m (SizeClass.ofSize b.size) b.offset = .ok (lists', m') ∧
      Listed m' lists' blocks (b :: skip) (detach free b) ∧
      Memory.ChangedOnly (InFreeSlot (blocks.filter (· ∉ skip))) m m' := by
  have hmem : b ∈ free (SizeClass.ofSize b.size) := (h.mem_iff _ b).2 ⟨hb, hfree, rfl, hskip⟩
  obtain ⟨xs, ys, hq⟩ := List.append_of_mem hmem
  have hnodup := h.nodup (SizeClass.ofSize b.size)
  have hxs : b ∉ xs := by
    rw [hq] at hnodup
    exact fun hin => (List.nodup_append.1 hnodup).2.2 b hin b List.mem_cons_self rfl
  have hq' : (free (SizeClass.ofSize b.size)).map BlockInfo.offset =
      xs.map BlockInfo.offset ++ b.offset :: ys.map BlockInfo.offset := by simp [hq]
  obtain ⟨lists', m', hremove, hrep, hframe⟩ :=
    FreeLists.remove_represents h.represents hq' (by have := hlaid.size_lt; omega)
  refine ⟨lists', m', hremove, ⟨?_, ?_⟩, hframe.mono ?_⟩
  · convert hrep using 1
    funext c
    rcases eq_or_ne c (SizeClass.ofSize b.size) with rfl | hne
    · simp [detach, hq, List.erase_append_right _ hxs]
    · have hnot : b ∉ free c := fun hin => hne ((h.mem_iff c b).1 hin).2.2.1.symm
      simp [detach, List.erase_of_not_mem hnot, hne]
  · intro c x
    rw [detach, (h.nodup c).mem_erase_iff, h.mem_iff c x, List.mem_cons]
    tauto
  · have hlisted : ∀ x ∈ xs ++ b :: ys, ∀ pos, Link.InSlot x.offset pos →
        InFreeSlot (blocks.filter (· ∉ skip)) pos :=
      fun x hx pos => h.slots_subset (hq ▸ hx)
    rintro pos (⟨x, hx, hpos⟩ | ⟨x, hx, hpos⟩)
    · obtain ⟨y, hy, rfl⟩ := List.mem_map.1 (List.mem_of_getLast? hx)
      exact hlisted y (by simp [hy]) pos hpos
    · obtain ⟨y, hy, rfl⟩ := List.mem_map.1 (List.mem_of_mem_head? hx)
      exact hlisted y (by simp [hy]) pos hpos

/-- A free block that is skipped can be put in front of the class of its size. -/
lemma insertHead (hlaid : Laid m prologue blocks) (h : Listed m lists blocks [b] free)
    (hb : b ∈ blocks) (hfree : b.allocated = false) :
    ∃ lists' m', lists.insertHead m (SizeClass.ofSize b.size) b.offset = .ok (lists', m') ∧
      Listed m' lists' blocks [] (attach free b) ∧
      Memory.ChangedOnly (InFreeSlot blocks) m m' := by
  have hbounds := hlaid.bounds hb
  have hapart : ∀ c, ∀ x ∈ (free c).map BlockInfo.offset, Link.Apart b.offset x := by
    intro c x hx
    obtain ⟨y, hy, rfl⟩ := List.mem_map.1 hx
    obtain ⟨hy, -, -, hne⟩ := (h.mem_iff c y).1 hy
    have hybounds := hlaid.bounds hy
    unfold Link.Apart
    rcases hlaid.eq_or_apart hb hy with rfl | hdis
    · exact absurd List.mem_cons_self hne
    · omega
  obtain ⟨lists', m', hinsert, hrep, hframe⟩ := FreeLists.insertHead_represents h.represents
    (SizeClass.ofSize b.size) (show 0 < b.offset by omega) (by omega)
    (by have := hlaid.size_lt; omega) hapart
  refine ⟨lists', m', hinsert, ⟨?_, ?_⟩, hframe.mono ?_⟩
  · convert hrep using 1
    funext c
    rcases eq_or_ne c (SizeClass.ofSize b.size) with rfl | hne
    · simp [attach]
    · simp [attach, hne]
  · intro c x
    have hmem := h.mem_iff c x
    rcases eq_or_ne c (SizeClass.ofSize b.size) with rfl | hne
    · simp only [attach, Function.update_self, List.mem_cons, hmem, List.not_mem_nil, or_false,
        not_false_eq_true, and_true]
      constructor
      · rintro (rfl | hx)
        · exact ⟨hb, hfree, rfl⟩
        · exact ⟨hx.1, hx.2.1, hx.2.2.1⟩
      · intro hx
        by_cases hxb : x = b
        · exact .inl hxb
        · exact .inr ⟨hx.1, hx.2.1, hx.2.2, hxb⟩
    · simp only [attach, Function.update_of_ne hne, hmem, List.mem_singleton, List.not_mem_nil,
        not_false_eq_true, and_true]
      constructor
      · exact fun hx => ⟨hx.1, hx.2.1, hx.2.2.1⟩
      · exact fun hx => ⟨hx.1, hx.2.1, hx.2.2, fun hxb => hne (hxb ▸ hx.2.2).symm⟩
  · rintro pos (hpos | ⟨x, hx, hpos⟩)
    · exact ⟨b, hb, hfree, hpos⟩
    · obtain ⟨y, hy, rfl⟩ := List.mem_map.1 (List.mem_of_mem_head? hx)
      exact (h.slots_subset hy hpos).mono (List.filter_subset_self _)

end Listed

/-! ## Heaps -/

/-- No two neighbours are both free. -/
def Coalesced (blocks : List BlockInfo) : Prop :=
  blocks.IsChain fun b b' => b.allocated = true ∨ b'.allocated = true

namespace Heap

/-- The heap has a layout and lists, with the blocks of `skip` on no list. -/
structure Shows (h : Heap) (blocks skip : List BlockInfo) (free : SizeClass → List BlockInfo) :
    Prop where
  laid : Laid h.memory h.prologue blocks
  listed : Listed h.memory h.lists blocks skip free

/-- **The invariant of a heap.**  Its blocks fill the arena behind the prologue, its lists hold
exactly the free ones, no two free blocks are neighbours, and arena and configuration are in
order. -/
structure Sound (h : Heap) (blocks : List BlockInfo) (free : SizeClass → List BlockInfo) :
    Prop extends Shows h blocks [] free where
  arena : h.arena.Sound
  config : h.config.validate = .ok ()
  coalesced : Coalesced blocks

/-- The heap with other bytes and other heads. -/
def put (h : Heap) (m : Memory) (lists : FreeLists) : Heap :=
  { h with arena := { h.arena with memory := m }, lists }

section Put

variable (h : Heap) (m m' : Memory) (lists lists' : FreeLists)

@[simp] lemma memory_put : (h.put m lists).memory = m := rfl

@[simp] lemma arena_memory_put : (h.put m lists).arena.memory = m := rfl

@[simp] lemma size_put : (h.put m lists).arena.size = m.size := rfl

@[simp] lemma limit_put : (h.put m lists).arena.limit = h.arena.limit := rfl

@[simp] lemma lists_put : (h.put m lists).lists = lists := rfl

@[simp] lemma prologue_put : (h.put m lists).prologue = h.prologue := rfl

@[simp] lemma config_put : (h.put m lists).config = h.config := rfl

@[simp] lemma put_self : h.put h.memory h.lists = h := rfl

@[simp] lemma put_put : (h.put m lists).put m' lists' = h.put m' lists' := rfl

end Put

variable {h : Heap} {blocks skip : List BlockInfo} {free : SizeClass → List BlockInfo}
variable {b : BlockInfo}

lemma Shows.skip_cons_iff (hall : b.allocated = true) :
    h.Shows blocks (b :: skip) free ↔ h.Shows blocks skip free := by
  constructor
  · intro hh
    exact ⟨hh.laid, (Listed.skip_cons_iff hall).1 hh.listed⟩
  · intro hh
    exact ⟨hh.laid, (Listed.skip_cons_iff hall).2 hh.listed⟩

lemma modifyMemory_eq {f : Memory → Except Fault Memory} {m : Memory} (hf : f h.memory = .ok m) :
    h.modifyMemory f = .ok (h.put m h.lists) :=
  modifyMemory_eq_ok_iff.2 ⟨m, hf, rfl⟩

lemma modifyLists_eq {f : FreeLists → Memory → Except Fault (FreeLists × Memory)} {m : Memory}
    {lists : FreeLists} (hf : f h.lists h.memory = .ok (lists, m)) :
    h.modifyLists f = .ok (h.put m lists) :=
  modifyLists_eq_ok_iff.2 ⟨lists, m, hf, rfl⟩

lemma Sound.accepted (hs : h.Sound blocks free) : h.config.Accepted :=
  Config.accepted_of_validate hs.config

/-- A heap of the same size with a coalesced layout and complete lists is sound. -/
lemma Sound.put (hs : h.Sound blocks free) {m : Memory} {lists : FreeLists}
    {blocks' : List BlockInfo} {free' : SizeClass → List BlockInfo} (hm : m.size = h.memory.size)
    (hshows : (h.put m lists).Shows blocks' [] free') (hco : Coalesced blocks') :
    (h.put m lists).Sound blocks' free' :=
  { hshows with arena := hs.arena.of_size hm, config := hs.config, coalesced := hco }

/-! ### Reading the tags of blocks -/

lemma Shows.header_eq (hh : h.Shows blocks skip free) (hb : b ∈ blocks) :
    Block.header h.memory b.offset = .ok b.tag :=
  hh.laid.header_eq hb

end Heap

lemma Laid.size_tag {m : Memory} {prologue : Nat} {blocks : List BlockInfo} {b : BlockInfo}
    (h : Laid m prologue blocks) (hb : b ∈ blocks) : b.tag.size = b.size :=
  Tag.size_of _ (h.valid b hb).1 (by have := h.bounds hb; have := h.size_lt; omega)

lemma Laid.allocated_tag {m : Memory} {prologue : Nat} {blocks : List BlockInfo} {b : BlockInfo}
    (h : Laid m prologue blocks) (hb : b ∈ blocks) : b.tag.allocated = b.allocated :=
  Tag.allocated_of _ (h.valid b hb).1

lemma Heap.Shows.size_eq {h : Heap} {blocks skip : List BlockInfo}
    {free : SizeClass → List BlockInfo} {b : BlockInfo} (hh : h.Shows blocks skip free)
    (hb : b ∈ blocks) : Block.size h.memory b.offset = .ok b.size := by
  simp [Block.size, hh.header_eq hb, hh.laid.size_tag hb]

/-- A free block that is on a list is taken off it, and only link words of blocks on lists are
written. -/
lemma Heap.Shows.unlink_exact {h : Heap} {blocks skip : List BlockInfo}
    {free : SizeClass → List BlockInfo} {b : BlockInfo} (hh : h.Shows blocks skip free)
    (hb : b ∈ blocks) (hfree : b.allocated = false) (hskip : b ∉ skip) :
    ∃ m lists, h.unlink b.offset = .ok (h.put m lists, b.size) ∧
      (h.put m lists).Shows blocks (b :: skip) (detach free b) ∧
      Memory.ChangedOnly (InFreeSlot (blocks.filter (· ∉ skip))) h.memory m := by
  obtain ⟨lists, m, hremove, hlisted, hframe⟩ := hh.listed.remove hh.laid hb hfree hskip
  refine ⟨m, lists, ?_, ⟨hh.laid.of_changedOnly hframe ?_, hlisted⟩, hframe⟩
  · rw [Heap.unlink, hh.size_eq hb, Fault.ok_bind, Heap.modifyLists_eq hremove]
    rfl
  · rintro pos ⟨c, hc, -, hlo, hhi⟩
    have hc : c ∈ blocks := List.mem_of_mem_filter hc
    have := hh.laid.bounds hc
    exact ⟨c, hc, hlo, by omega⟩

lemma Heap.Shows.unlink {h : Heap} {blocks skip : List BlockInfo}
    {free : SizeClass → List BlockInfo} {b : BlockInfo} (hh : h.Shows blocks skip free)
    (hb : b ∈ blocks) (hfree : b.allocated = false) (hskip : b ∉ skip) :
    ∃ m lists, h.unlink b.offset = .ok (h.put m lists, b.size) ∧
      (h.put m lists).Shows blocks (b :: skip) (detach free b) ∧
      Memory.ChangedOnly (InFreeSlot blocks) h.memory m := by
  obtain ⟨m, lists, hunlink, hshows, hframe⟩ := hh.unlink_exact hb hfree hskip
  exact ⟨m, lists, hunlink, hshows, hframe.mono fun _ hpos => hpos.mono (List.filter_subset_self _)⟩

end BlockHeap
