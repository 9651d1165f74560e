import BlockHeap.Proofs.Likeness
import BlockHeap.Proofs.Serving

/-!
# Operations on heaps that follow one plan

Of two heaps that follow one plan, the second of them `k` bytes further up, each operation changes
the same bytes in the same way, but for links.  So they stay alike but for what is stale, if that
holds of the link words of all blocks that are free before or afterwards, or in between, as the one
that growing adds before it is handed out.

Each lemma here is about one operation of both heaps.  They are put together in the order in which
the operations use one another, up to `Heap.Follows.alike_resize`.
-/

namespace BlockHeap

@[simp] lemma placing_shift (k needed : Nat) (b : BlockInfo) :
    placing (b.shift k) needed = shiftAll k (placing b needed) := by
  by_cases hsplit : 32 ≤ b.size - needed <;> simp [placing, hsplit]

/-- What placing leaves free follows an allocated block. -/
lemma exists_of_free_placed {b x : BlockInfo} {needed : Nat} (hx : x ∈ placed b needed)
    (hfree : x.allocated = false) :
    ∃ t ∈ placed b needed,
      t.allocated = true ∧ t.offset = b.offset ∧ x.offset = t.offset + t.size := by
  unfold placed at hx ⊢
  split at hx
  · next hsplit =>
    rw [if_pos hsplit]
    rcases List.mem_pair.1 hx with rfl | rfl
    · cases hfree
    · exact ⟨b.front needed, by simp, rfl, rfl, rfl⟩
  · rw [List.mem_singleton.1 hx] at hfree
    cases hfree

/-- What is stale after links may have been written in free blocks, and in the block of a new
pointer, which may have been free in between. -/
def linkStale (stale : Nat → Prop) (blocks : List BlockInfo) (new : Option Ptr) (pos : Nat) :
    Prop :=
  stale pos ∨ InFreeSlot blocks pos ∨ ∃ p ∈ new, Link.InSlot p.offset pos

/-- What is stale after a resize, if it is `linked` where no payload was copied. -/
def Heap.resizeStale (h : Heap) (size : Nat) (ptr moved : Option Ptr) (stale linked : Nat → Prop)
    (pos : Nat) : Prop :=
  match ptr, moved with
  | some q, some p => copyStale q.offset p.offset (min (h.capacity q) size) stale linked pos
  | _, _ => linked pos

lemma Heap.resizeStale.mono {h : Heap} {size pos : Nat} {ptr moved : Option Ptr}
    {stale linked linked' : Nat → Prop} (hstale : h.resizeStale size ptr moved stale linked pos)
    (hlinked : ∀ pos, linked pos → linked' pos) :
    h.resizeStale size ptr moved stale linked' pos := by
  unfold resizeStale at hstale ⊢
  split at hstale
  · exact hstale.mono (fun _ _ => id) hlinked
  · exact hlinked pos hstale

lemma Heap.resizeStale_none (h : Heap) (size : Nat) (ptr : Option Ptr) (stale linked : Nat → Prop) :
    h.resizeStale size ptr none stale linked = linked := by
  cases ptr <;> rfl

namespace Heap.Follows

variable {h h' h₁ h₁' : Heap} {P : Plan} {backing : Backing} {k size needed : Nat}
variable {stale : Nat → Prop} {blocks : List BlockInfo} {b x : BlockInfo}
variable {result result' : Except HeapError Ptr} {moved moved' : Option Ptr}

lemma eq_of_refused (hf : h.Follows P) {error : HeapError}
    (hrefused : (P.tryAllocate size).2 = .error error)
    (hrun : (h.tryAllocate size).outcome = .ok (h₁, result)) : h₁ = h := by
  obtain ⟨h', halloc, -, hanswer⟩ := hf.answered size
  obtain ⟨rfl, -⟩ := Prod.mk.inj (Except.ok.inj (halloc.symm.trans hrun))
  rw [hrefused] at hanswer
  generalize (P.tryAllocate size).1.blocks = blocks at hanswer
  cases hanswer
  rfl

section

variable (hf : h.Follows P) (hf' : h'.Follows (P.shift k backing))
variable (ha : Memory.AlikeBut k stale h.memory h'.memory)

include hf hf' ha

lemma alike_releaseBlock (hb : b ∈ P.blocks) (hall : b.allocated = true)
    (hlinks : ∀ pos, InLinks P.blocks (P.releaseBlock b).blocks pos → stale pos)
    (hrun : (h.releaseBlock b.offset).outcome = .ok h₁)
    (hrun' : (h'.releaseBlock (b.offset + k)).outcome = .ok h₁') :
    Memory.AlikeBut k stale h₁.memory h₁'.memory := by
  have hb' : b.shift k ∈ (P.shift k backing).blocks := List.mem_map_of_mem hb
  obtain ⟨m, lists, hrelease, -, hst⟩ := (hf.around hb).releaseBlock_exact hall
  obtain ⟨m', lists', hrelease', -, hst'⟩ := (hf'.around hb').releaseBlock_exact hall
  obtain rfl := Except.ok.inj (hrelease.symm.trans hrun)
  obtain rfl := Except.ok.inj (hrelease'.symm.trans hrun')
  simp only [Plan.blocks_shift, blocksBefore_shift, blocksAfter_shift, BlockInfo.freed_shift,
    joint_shift, joined_shift, ← shiftAll_append] at hst'
  have hlinks (pos : Nat) (hpos : InLinks (blocksBefore P.blocks b ++ blocksAfter P.blocks b)
      (P.releaseBlock b).blocks pos) : stale pos := hlinks pos (hpos.mono (sides_subset hb) fun _ => id)
  exact ha.stamped hlinks (fun pos hpos => hlinks pos (inLinks_shift.1 hpos)) hst hst'

lemma alike_shrink (hb : b ∈ P.blocks) (hall : b.allocated = true)
    (hless : blockFor size < b.size)
    (hlinks : ∀ pos, InLinks P.blocks (P.shrink b (blockFor size)).blocks pos → stale pos)
    (hrun : (h.shrink b.offset b.size (blockFor size)).outcome = .ok h₁)
    (hrun' : (h'.shrink (b.offset + k) b.size (blockFor size)).outcome = .ok h₁') :
    Memory.AlikeBut k stale h₁.memory h₁'.memory := by
  obtain ⟨haligned, hmin, -⟩ := blockFor_spec size
  have hb' : b.shift k ∈ (P.shift k backing).blocks := List.mem_map_of_mem hb
  unfold Plan.shrink at hlinks
  by_cases hsplit : 32 ≤ b.size - blockFor size
  · rw [if_pos hsplit] at hlinks
    obtain ⟨m, lists, hshrink, -, hst⟩ := (hf.around hb).shrink_exact hall haligned hmin hsplit
    obtain ⟨m', lists', hshrink', -, hst'⟩ :=
      (hf'.around hb').shrink_exact hall haligned hmin hsplit
    obtain rfl := Except.ok.inj (hshrink.symm.trans hrun)
    obtain rfl := Except.ok.inj (hshrink'.symm.trans hrun')
    have hfront : shiftAll k (blocksBefore P.blocks b) ++ [(b.front (blockFor size)).shift k] =
        shiftAll k (blocksBefore P.blocks b ++ [b.front (blockFor size)]) := by simp
    simp only [Plan.blocks_shift, blocksBefore_shift, blocksAfter_shift, BlockInfo.front_shift,
      BlockInfo.back_shift, hfront, joint_shift, joined_shift, ← shiftAll_append] at hst'
    have hlinks (pos : Nat) (hpos : InLinks (blocksBefore P.blocks b ++ blocksAfter P.blocks b)
        (joined (blocksBefore P.blocks b ++ [b.front (blockFor size)]) (b.back (blockFor size))
          (blocksAfter P.blocks b)) pos) : stale pos := hlinks pos (hpos.mono (sides_subset hb) fun _ => id)
    exact ha.stamped hlinks (fun pos hpos => hlinks pos (inLinks_shift.1 hpos)) hst hst'
  · rw [shrink_of_not_split h (Nat.le_of_lt hless) hsplit] at hrun
    obtain rfl := Except.ok.inj hrun
    have hrun'' := shrink_of_not_split (b := b.shift k) h' (Nat.le_of_lt hless) hsplit
    obtain rfl := Except.ok.inj (hrun''.symm.trans hrun')
    exact ha

lemma alike_absorb (hb : b ∈ P.blocks) (hall : b.allocated = true)
    (hfits : (firstFree? (blocksAfter P.blocks b)).any fun x => needed ≤ b.size + x.size)
    (hlinks : ∀ pos, InFreeSlot P.blocks pos → stale pos)
    (hrun : (h.absorbNext b.offset b.size (b.offset + b.size)).outcome = .ok h₁)
    (hrun' : (h'.absorbNext (b.offset + k) b.size (b.offset + k + b.size)).outcome = .ok h₁') :
    Memory.AlikeBut k stale h₁.memory h₁'.memory := by
  have hs := hf.around hb
  have hs' := hf'.around (b := b.shift k) (List.mem_map_of_mem hb)
  obtain ⟨x, post, hpost, hfree, -⟩ := exists_of_any_firstFree? hfits
  have hall_eq := blocksBefore_append hb
  rw [Plan.blocks_shift, blocksBefore_shift, blocksAfter_shift, hpost, shiftAll_cons] at hs'
  rw [hpost] at hs hall_eq
  generalize blocksBefore P.blocks b = pre at hs hs' hall_eq
  rw [← hall_eq] at hlinks
  obtain ⟨m, lists, habsorb, hsound, hframe⟩ := hs.absorbNext hall hfree
  obtain ⟨m', lists', habsorb', hsound', hframe'⟩ := hs'.absorbNext hall hfree
  obtain rfl := Except.ok.inj (habsorb.symm.trans hrun)
  obtain rfl := Except.ok.inj (habsorb'.symm.trans hrun')
  have hshift : shiftAll k pre ++ b.shift k :: x.shift k :: shiftAll k post =
      shiftAll k (pre ++ b :: x :: post) := by simp
  rw [hshift] at hframe'
  exact ha.stamped hlinks (fun pos hpos => hlinks pos (inFreeSlot_shift.1 hpos))
    (.of_laid hsound.laid (by simp) hframe)
    (.of_laid hsound'.laid (b := (merged b x).shift k) (by simp) hframe')

lemma alike_of_fit (hsize : size ≠ 0) (hlt : size + 23 < Checked.bound)
    (hfit : fit P.free (blockFor size) P.config.fitWindow = some b)
    (hlinks : ∀ pos, InLinks P.blocks (P.place b (blockFor size)).blocks pos → stale pos)
    (hrun : (h.tryAllocate size).outcome = .ok (h₁, result))
    (hrun' : (h'.tryAllocate size).outcome = .ok (h₁', result')) :
    Memory.AlikeBut k stale h₁.memory h₁'.memory := by
  have hfit' : fit (P.shift k backing).free (blockFor size) (P.shift k backing).config.fitWindow =
      some (b.shift k) := by
    rw [Plan.free_shift, Plan.config_shift, fit_shift, hfit, Option.map_some]
  obtain ⟨hb, -, -⟩ := hf.listed.mem_of_fit hfit
  obtain ⟨hb', -, -⟩ := hf'.listed.mem_of_fit hfit'
  rw [← hf.config_eq] at hfit
  rw [← hf'.config_eq] at hfit'
  obtain ⟨m, lists, halloc, -, hst⟩ := (hf.around hb).tryAllocate_of_fit_exact hsize hlt hfit
  obtain ⟨m', lists', halloc', -, hst'⟩ :=
    (hf'.around hb').tryAllocate_of_fit_exact hsize hlt hfit'
  obtain ⟨rfl, -⟩ := Prod.mk.inj (Except.ok.inj (halloc.symm.trans hrun))
  obtain ⟨rfl, -⟩ := Prod.mk.inj (Except.ok.inj (halloc'.symm.trans hrun'))
  simp only [Plan.blocks_shift, blocksBefore_shift, blocksAfter_shift, placed_shift,
    placing_shift, ← shiftAll_append, ← shiftAll_cons] at hst'
  have hlinks (pos : Nat) (hpos : InLinks
      (blocksBefore P.blocks b ++ b :: blocksAfter P.blocks b)
      (P.place b (blockFor size)).blocks pos) : stale pos := by
    rw [blocksBefore_append hb] at hpos
    exact hlinks pos hpos
  exact ha.stamped hlinks (fun pos hpos => hlinks pos (inLinks_shift.1 hpos)) hst hst'

lemma alike_of_growth (hsize : size ≠ 0) (hlt : size + 23 < Checked.bound)
    (hfit : fit P.free (blockFor size) P.config.fitWindow = none)
    (hgrow : P.canGrow (P.increment size) = true)
    (hgrow' : (P.shift k backing).canGrow (P.increment size) = true)
    (hlinks : ∀ pos, InLinks P.blocks
      ((P.grow (P.increment size)).place (P.topBlock size) (blockFor size)).blocks pos ∨
        Link.InSlot (P.topBlock size).offset pos → stale pos)
    (hrun : (h.tryAllocate size).outcome = .ok (h₁, result))
    (hrun' : (h'.tryAllocate size).outcome = .ok (h₁', result')) :
    Memory.AlikeBut k stale h₁.memory h₁'.memory := by
  have hfit' : fit (P.shift k backing).free (blockFor size) (P.shift k backing).config.fitWindow =
      none := by
    rw [Plan.free_shift, Plan.config_shift, fit_shift, hfit, Option.map_none]
  have hincrement := hf.increment_eq size
  have hincrement' : h'.increment size = P.increment size := hf'.increment_eq size
  have hcan : h.arena.CanGrow (h.increment size) := hincrement ▸ (hf.canGrow_iff _).1 hgrow
  have hcan' : h'.arena.CanGrow (h'.increment size) := hincrement' ▸ (hf'.canGrow_iff _).1 hgrow'
  have hmin : 32 ≤ P.increment size := hincrement ▸ (hf.toSound.increment_spec size).2.1
  rw [← hf.config_eq] at hfit
  rw [← hf'.config_eq] at hfit'
  obtain ⟨m, lists, halloc, -, hst⟩ :=
    hf.toSound.tryAllocate_of_growth_exact hsize hlt hfit hcan
  obtain ⟨m', lists', halloc', -, hst'⟩ :=
    hf'.toSound.tryAllocate_of_growth_exact hsize hlt hfit' hcan'
  obtain ⟨rfl, -⟩ := Prod.mk.inj (Except.ok.inj (halloc.symm.trans hrun))
  obtain ⟨rfl, -⟩ := Prod.mk.inj (Except.ok.inj (halloc'.symm.trans hrun'))
  rw [hf.topBlock_eq, hincrement, hf.chunkAtTop_eq] at hst
  rw [hf'.topBlock_eq, hincrement', hf'.chunkAtTop_eq] at hst'
  simp only [Plan.blocks_shift, Plan.topBlock_shift, Plan.chunkAtTop_shift, beforeJoint_shift,
    placed_shift, placing_shift, ← shiftAll_append, ← shiftAll_cons] at hst'
  rw [hf.blocks_of_growth hcan] at hlinks
  refine (ha.stretched hmin).stamped ?_ ?_ hst hst'
  · rintro pos (hpos | hpos | hpos)
    · exact hlinks pos (.inl (.inl hpos))
    · exact hlinks pos (.inr hpos)
    · exact hlinks pos (.inl (.inr hpos))
  · rintro pos (hpos | hpos | hpos)
    · exact hlinks pos (.inl (.inl (inFreeSlot_shift.1 hpos)))
    · refine hlinks pos (.inr ?_)
      simp only [Link.InSlot, BlockInfo.offset_shift] at hpos ⊢
      omega
    · exact hlinks pos (.inl (.inr (inFreeSlot_shift.1 hpos)))

lemma alike_tryAllocate (hgrow : ∀ n, (P.shift k backing).canGrow n = P.canGrow n)
    (hlinks : ∀ pos, InFreeSlot P.blocks pos → stale pos)
    (hrun : (h.tryAllocate size).outcome = .ok (h₁, result))
    (hrun' : (h'.tryAllocate size).outcome = .ok (h₁', result')) :
    Memory.AlikeBut k
      (linkStale stale (P.tryAllocate size).1.blocks (P.tryAllocate size).2.toOption)
      h₁.memory h₁'.memory := by
  replace ha : Memory.AlikeBut k (linkStale stale (P.tryAllocate size).1.blocks
      (P.tryAllocate size).2.toOption) h.memory h'.memory := ha.mono fun _ => .inl
  replace hlinks (pos : Nat) (hpos : InLinks P.blocks (P.tryAllocate size).1.blocks pos ∨
      ∃ p ∈ (P.tryAllocate size).2.toOption, Link.InSlot p.offset pos) :
      linkStale stale (P.tryAllocate size).1.blocks (P.tryAllocate size).2.toOption pos :=
    (or_assoc.1 hpos).imp_left (hlinks pos)
  generalize linkStale stale _ _ = stale' at ha hlinks ⊢
  obtain ⟨error, hanswer⟩ | ⟨hsize, hlt, ⟨b, hfit, hanswer⟩ | ⟨hfit, hcan, hanswer⟩⟩ :=
    P.tryAllocate_cases size
  · have hrefused : (P.tryAllocate size).2 = .error error := by rw [hanswer]
    have hrefused' : ((P.shift k backing).tryAllocate size).2 = .error error := by
      rw [Plan.tryAllocate_shift hgrow, hanswer]
      rfl
    rwa [hf.eq_of_refused hrefused hrun, hf'.eq_of_refused hrefused' hrun']
  · rw [hanswer] at hlinks
    exact hf.alike_of_fit hf' ha hsize hlt hfit (fun pos hpos => hlinks pos (.inl hpos)) hrun hrun'
  · rw [hanswer] at hlinks
    refine hf.alike_of_growth hf' ha hsize hlt hfit hcan ((hgrow _).trans hcan) ?_ hrun hrun'
    exact fun pos hpos => hlinks pos (hpos.imp_right fun hslot => ⟨_, rfl, hslot⟩)

end

/-! ### Moving

A payload is moved by allocating, copying and releasing.  A block that is free only in between,
after the first of these and before the last, is one that the allocation has split off.  Joining leaves
its links in place, for what stands before it is the new block and not the one that is released. -/

/-- A block that is free after a request that was served was free before, or follows the new
block. -/
lemma free_of_served (hf : h.Follows P) {P₁ : Plan} {p : Ptr}
    (hserved : P.tryAllocate size = (P₁, .ok p)) (hx : x ∈ P₁.blocks)
    (hfree : x.allocated = false) :
    x ∈ P.blocks ∨
      ∃ t ∈ P₁.blocks, t.allocated = true ∧ t.ptr = p ∧ x.offset = t.offset + t.size := by
  obtain ⟨error, hanswer⟩ | ⟨-, -, ⟨b, hfit, hanswer⟩ | ⟨-, hcan, hanswer⟩⟩ :=
    P.tryAllocate_cases size
  · rw [hanswer] at hserved
    cases hserved
  · obtain ⟨rfl, hp⟩ := Prod.mk.inj (hanswer.symm.trans hserved)
    obtain rfl := Except.ok.inj hp
    have hsides := blocksBefore_append (hf.listed.mem_of_fit hfit).1
    simp only [Plan.place, List.mem_append] at hx ⊢
    rcases hx with hx | hx | hx
    · exact .inl (hsides ▸ List.mem_append_left _ hx)
    · obtain ⟨t, ht, htall, hoff, hnext⟩ := exists_of_free_placed hx hfree
      exact .inr ⟨t, .inr (.inl ht), htall, congrArg Ptr.mk hoff, hnext⟩
    · exact .inl (hsides ▸ List.mem_append_right _ (List.mem_cons_of_mem _ hx))
  · obtain ⟨rfl, hp⟩ := Prod.mk.inj (hanswer.symm.trans hserved)
    obtain rfl := Except.ok.inj hp
    have hgrow := (hf.increment_eq size).symm ▸ (hf.canGrow_iff _).1 hcan
    rw [hf.blocks_of_growth hgrow] at hx ⊢
    rcases List.mem_append.1 hx with hx | hx
    · exact .inl (beforeJoint_append P.blocks ▸ List.mem_append_left _ hx)
    · obtain ⟨t, ht, htall, hoff, hnext⟩ := exists_of_free_placed hx hfree
      exact .inr ⟨t, List.mem_append_right _ ht, htall, congrArg Ptr.mk hoff, hnext⟩

/-- A block that is free before a release is free afterwards, or the first part of a free block, or
follows the block that is released. -/
lemma free_of_release (hf : h.Follows P) (hb : b ∈ P.blocks) (hall : b.allocated = true)
    (hx : x ∈ P.blocks) (hfree : x.allocated = false) :
    (∃ y ∈ (P.releaseBlock b).blocks, y.allocated = false ∧ y.offset = x.offset) ∨
      x.offset = b.offset + b.size := by
  have hlaid := (hf.around hb).laid
  rw [← blocksBefore_append hb] at hx
  simp only [Plan.releaseBlock, joined]
  generalize blocksBefore P.blocks b = pre at hlaid hx ⊢
  generalize blocksAfter P.blocks b = post at hlaid hx ⊢
  rcases List.mem_append.1 hx with hx | hx
  · left
    rw [← beforeJoint_append pre, List.mem_append, Option.mem_toList] at hx
    rcases hx with hx | hx
    · exact ⟨x, List.mem_append_left _ hx, hfree, rfl⟩
    · exact ⟨joint pre b.freed post, by simp, rfl, by rw [joint, hx, Option.getD_some]⟩
  rcases List.mem_cons.1 hx with rfl | hx
  · exact absurd (hfree.symm.trans hall) Bool.false_ne_true
  rw [← firstFree?_append post, List.mem_append, Option.mem_toList] at hx
  rcases hx with hx | hx
  · right
    have hpost := hlaid.tiles_exchange.2
    rw [← firstFree?_append post, hx] at hpost
    exact hpost.1
  · exact .inl ⟨x, by simp [hx], hfree, rfl⟩

lemma ne_of_served {P₁ : Plan} {p : Ptr} (hf : h.Follows P)
    (hserved : P.tryAllocate size = (P₁, .ok p)) (hb : b ∈ P.blocks) (hall : b.allocated = true) :
    b.ptr ≠ p := by
  obtain ⟨h₁, -, hf₁, hanswer⟩ := hf.answered size
  rw [hserved] at hf₁ hanswer
  obtain ⟨t, rfl, htall, hfresh, -, hturn⟩ := hanswer.exists_of_ok
  have hb₁ : b ∈ P₁.blocks := (hturn.mem_iff b hall).2 (.inr ⟨hb, List.not_mem_nil⟩)
  have ht₁ : t ∈ P₁.blocks := (hturn.mem_iff t htall).2 (.inl (by simp))
  intro he
  exact hfresh (hf₁.laid.eq_of_offset ht₁ hb₁ (congrArg Ptr.offset he.symm) ▸ hb)

/-- Moving leaves no links but in blocks that are free before or afterwards. -/
lemma links_of_move {P₁ : Plan} {p : Ptr} {pos : Nat} (hf : h.Follows P) (hf₁ : h₁.Follows P₁)
    (hserved : P.tryAllocate size = (P₁, .ok p)) (hb : b ∈ P₁.blocks) (hall : b.allocated = true)
    (hne : b.ptr ≠ p) (hpos : InFreeSlot P₁.blocks pos) :
    InLinks P.blocks (P₁.releaseBlock b).blocks pos := by
  obtain ⟨x, hx, hfree, hslot⟩ := hpos
  rcases hf.free_of_served hserved hx hfree with hold | ⟨t, ht, -, hptr, hnext⟩
  · exact .inl ⟨x, hold, hfree, hslot⟩
  rcases hf₁.free_of_release hb hall hx hfree with ⟨y, hy, hyfree, hoff⟩ | hnext'
  · exact .inr ⟨y, hy, hyfree, hoff ▸ hslot⟩
  · -- the new block and the one that is released are not the same
    have htsize := (hf₁.laid.valid t ht).2
    have hbsize := (hf₁.laid.valid b hb).2
    obtain rfl : b = t := (hf₁.laid.eq_or_apart hb ht).resolve_right (by omega)
    exact absurd hptr hne

lemma mem_releaseBlock (hf : h.Follows P) (hb : b ∈ P.blocks) (hx : x ∈ P.blocks)
    (hall : x.allocated = true) (hne : x ≠ b) : x ∈ (P.releaseBlock b).blocks := by
  refine (mem_joined hall).2 ((hf.around hb).laid.mem_sides_iff.2 ⟨?_, by simpa using hne⟩)
  rwa [blocksBefore_append hb]

/-- Copying a payload into another block, and releasing the old one. -/
lemma alike_copy_release {t : BlockInfo} {n : Nat} (hf : h.Follows P)
    (hf' : h'.Follows (P.shift k backing)) (ha : Memory.AlikeBut k stale h.memory h'.memory)
    (hb : b ∈ P.blocks) (hall : b.allocated = true) (ht : t ∈ P.blocks)
    (htall : t.allocated = true) (hne : t ≠ b) (hn : n ≤ b.size - 16) (hn' : n ≤ t.size - 16)
    (hlinks : ∀ pos, InFreeSlot P.blocks pos → stale pos)
    (hrun : ((h.overwrite ⟨t.offset, n⟩ fun i =>
      (h.memory.slice b.offset (b.offset + n)).get! i).releaseBlock b.offset).outcome = .ok h₁)
    (hrun' : ((h'.overwrite ⟨t.offset + k, n⟩ fun i =>
      (h'.memory.slice (b.offset + k) (b.offset + k + n)).get! i).releaseBlock
        (b.offset + k)).outcome = .ok h₁') :
    Memory.AlikeBut k (copyStale b.offset t.offset n stale fun pos =>
      stale pos ∨ InFreeSlot (P.releaseBlock b).blocks pos) h₁.memory h₁'.memory := by
  have hbounds := hf.laid.bounds hb
  have htbounds := hf.laid.bounds ht
  have ht' : t.shift k ∈ (P.shift k backing).blocks := List.mem_map_of_mem ht
  have hspan : t.offset + n ≤ t.offset + t.size - 16 := by omega
  have hspan' : t.offset + k + n ≤ t.offset + k + t.size - 16 := by omega
  have hcopied := ha.copy (n := n) (show b.offset + n ≤ _ by omega)
    (show t.offset + n ≤ _ by omega)
  refine alike_releaseBlock (hf.overwrite ht htall ⟨t.offset, n⟩ (Nat.le_refl _) hspan _)
    (hf'.overwrite ht' htall ⟨t.offset + k, n⟩ (Nat.le_refl _) hspan' _)
    (hcopied.mono fun pos hstale => hstale.mono (fun _ _ => id) fun _ => .inl) hb hall
    (fun pos hpos => ?_) hrun hrun'
  -- what is copied lies in the new block, where no links are
  have hout : ¬ (t.offset ≤ pos ∧ pos < t.offset + n) := by
    intro hin
    have hcovers : t.Covers pos := by
      unfold BlockInfo.Covers
      omega
    obtain ⟨h₂, -, hf₂⟩ := hf.releaseBlock hb hall
    have ht₂ := hf.mem_releaseBlock hb ht htall hne
    rcases hpos with hlink | hlink
    · exact hf.laid.not_inFreeSlot ht htall hcovers hlink
    · exact hf₂.laid.not_inFreeSlot ht₂ htall hcovers hlink
  rw [copyStale, if_neg hout]
  exact hpos.imp_left (hlinks pos)

lemma alike_move {P₁ : Plan} {p : Ptr} (hf : h.Follows P) (hf' : h'.Follows (P.shift k backing))
    (ha : Memory.AlikeBut k stale h.memory h'.memory)
    (hgrow : ∀ n, (P.shift k backing).canGrow n = P.canGrow n) (hb : b ∈ P.blocks)
    (hall : b.allocated = true) (hserved : P.tryAllocate size = (P₁, .ok p))
    (hlinks : ∀ pos, InFreeSlot P.blocks pos → stale pos)
    (hrun : (h.move b.offset b.size size).outcome = .ok (h₁, moved))
    (hrun' : (h'.move (b.offset + k) b.size size).outcome = .ok (h₁', moved')) :
    Memory.AlikeBut k (copyStale b.offset p.offset (min (b.size - 16) size) stale
      (linkStale stale (P₁.releaseBlock b).blocks (some p))) h₁.memory h₁'.memory := by
  have hserved' := Plan.tryAllocate_shift hgrow size
  rw [hserved] at hserved'
  obtain ⟨h₂, halloc, hf₂, hanswer⟩ := hf.answered size
  obtain ⟨h₂', halloc', hf₂'⟩ := hf'.tryAllocate size
  have ha₂ := hf.alike_tryAllocate hf' ha hgrow hlinks halloc halloc'
  rw [hserved] at halloc hf₂ hanswer ha₂
  rw [hserved'] at halloc' hf₂'
  obtain ⟨t, rfl, htall, hfresh, hroom, hturn⟩ := hanswer.exists_of_ok
  have hb₂ : b ∈ P₁.blocks := (hturn.mem_iff b hall).2 (.inr ⟨hb, List.not_mem_nil⟩)
  have ht₂ : t ∈ P₁.blocks := (hturn.mem_iff t htall).2 (.inl (by simp))
  have htb : t ≠ b := fun he => hfresh (he ▸ hb)
  have hb₂' : b.shift k ∈ (P₁.shift k backing).blocks := List.mem_map_of_mem hb₂
  have ht₂' : t.shift k ∈ (P₁.shift k backing).blocks := List.mem_map_of_mem ht₂
  have hmove' : (h'.move (b.shift k).offset (b.shift k).size size).outcome = .ok (h₁', moved') :=
    hrun'
  rw [hf₂.move_eq hb₂ ht₂ hroom (allocate_eq_ok halloc)] at hrun
  rw [hf₂'.move_eq hb₂' ht₂' hroom (allocate_eq_ok halloc')] at hmove'
  have hmoved := hf₂.alike_copy_release hf₂' ha₂ hb₂ hall ht₂ htall htb (Nat.min_le_left ..)
    (by omega) (fun pos hpos => .inr (.inl hpos)) (eq_ok_of_map_pair hrun)
    (eq_ok_of_map_pair hmove')
  refine hmoved.mono fun pos hstale => hstale.mono (fun i hi hstale => ?_) fun pos hstale => ?_
  · -- the payload that is copied lies in an allocated block other than the new one
    have hcovers : b.Covers (b.offset + i) := by
      have := (hf₂.laid.valid b hb₂).2
      unfold BlockInfo.Covers
      omega
    rcases hstale with hold | hlink | ⟨_, ⟨⟩, hslot⟩
    · exact hold
    · exact absurd hlink (hf₂.laid.not_inFreeSlot hb₂ hall hcovers)
    · have hslot : t.Covers (b.offset + i) :=
        BlockInfo.covers_of_inSlot (hf₂.laid.valid t ht₂).2 hslot
      exact absurd (hf₂.laid.eq_of_covers ht₂ hb₂ hslot hcovers) htb
  · rcases hstale with (hold | hlink | hslot) | hlink
    · exact .inl hold
    · have hne := hf.ne_of_served hserved hb hall
      exact (hf.links_of_move hf₂ hserved hb₂ hall hne hlink).imp (hlinks pos) .inl
    · exact .inr (.inr hslot)
    · exact .inr (.inl hlink)

/-! ### The remaining operations -/

/-- What became of a block that was resized can be told from the plan. -/
lemma resized (hf : h.Follows P) (hb : b ∈ P.blocks) (hall : b.allocated = true) (size : Nat) :
    ∃ h', (h.resizeBlock b.ptr size).outcome = .ok (h', (P.resizeBlock b size).2) ∧
      h'.Follows (P.resizeBlock b size).1 ∧ Resized h P.blocks b size h'
        (P.resizeBlock b size).1.blocks (P.resizeBlock b size).2 := by
  obtain ⟨h', hresize, hf'⟩ := hf.resizeBlock hb hall size
  obtain ⟨h₁, result, blocks, free, hresize₁, hs₁, hresized⟩ := hf.toSound.resizeBlock hb hall size
  obtain ⟨rfl, rfl⟩ := Prod.mk.inj (Except.ok.inj (hresize₁.symm.trans hresize))
  obtain rfl := Except.ok.inj (hs₁.blocks_eq.symm.trans hf'.blocks_eq)
  exact ⟨_, hresize, hf', hresized⟩

/-- If a block stays where it is when it is resized, so does its payload, and there no links are
written. -/
lemma alike_of_staying {m' : Memory} {new : Option Ptr} (hf : h₁.Follows P)
    (hresized : Resized h blocks b size h₁ P.blocks (some b.ptr))
    (ha : Memory.AlikeBut k (fun pos => stale pos ∨ InFreeSlot P.blocks pos) h₁.memory m') :
    Memory.AlikeBut k (copyStale b.offset b.offset (min (b.size - 16) size) stale
      (linkStale stale P.blocks new)) h₁.memory m' := by
  obtain ⟨b', hb', hptr, hall, hroom⟩ := hresized.exists_of_some
  have hoff : b'.offset = b.offset := (congrArg Ptr.offset hptr).symm
  refine ha.mono fun pos hstale => ?_
  unfold copyStale
  split
  · next hin =>
    have hcovers : b'.Covers pos := by
      unfold BlockInfo.Covers
      omega
    rw [Nat.add_sub_cancel' hin.1]
    exact hstale.resolve_right (hf.laid.not_inFreeSlot hb' hall hcovers)
  · exact hstale.imp_right .inl

lemma alike_resizeBlock {p : Ptr} (hf : h.Follows P) (hf' : h'.Follows (P.shift k backing))
    (ha : Memory.AlikeBut k stale h.memory h'.memory)
    (hgrow : ∀ n, (P.shift k backing).canGrow n = P.canGrow n) (hb : b ∈ P.blocks)
    (hall : b.allocated = true) (hlinks : ∀ pos, InFreeSlot P.blocks pos → stale pos)
    (hanswer : (P.resizeBlock b size).2 = some p)
    (hrun : (h.resizeBlock b.ptr size).outcome = .ok (h₁, moved))
    (hrun' : (h'.resizeBlock (b.ptr.shift k) size).outcome = .ok (h₁', moved')) :
    Memory.AlikeBut k (copyStale b.offset p.offset (min (b.size - 16) size) stale
      (linkStale stale (P.resizeBlock b size).1.blocks ((some p).filter (some · ≠ some b.ptr))))
      h₁.memory h₁'.memory := by
  have hb' : b.shift k ∈ (P.shift k backing).blocks := List.mem_map_of_mem hb
  obtain ⟨h₂, hresize, hf₂, hresized⟩ := hf.resized hb hall size
  obtain ⟨rfl, rfl⟩ := Prod.mk.inj (Except.ok.inj (hresize.symm.trans hrun))
  replace hrun := ((hf.around hb).resizeBlock_eq size).symm.trans hrun
  replace hrun' := ((hf'.around hb').resizeBlock_eq size).symm.trans hrun'
  rw [Plan.blocks_shift, blocksAfter_shift, BlockInfo.size_shift, any_firstFree?_shift] at hrun'
  clear hresize
  unfold Plan.resizeBlock at *
  split_ifs at * with hlt heq hless hfits
  · obtain rfl := Option.some.inj hanswer
    obtain ⟨rfl, -⟩ := Prod.mk.inj (Except.ok.inj hrun)
    obtain ⟨rfl, -⟩ := Prod.mk.inj (Except.ok.inj hrun')
    exact alike_of_staying hf₂ hresized (ha.mono fun _ => .inl)
  · obtain rfl := Option.some.inj hanswer
    have hshrink := eq_ok_of_map_pair hrun
    have hshrink' := eq_ok_of_map_pair hrun'
    exact alike_of_staying hf₂ hresized (hf.alike_shrink hf' (ha.mono fun _ => .inl) hb hall hless
      (fun pos hpos => hpos.imp_left (hlinks pos)) hshrink hshrink')
  · obtain rfl := Option.some.inj hanswer
    have habsorb := eq_ok_of_map_pair hrun
    have habsorb' := eq_ok_of_map_pair hrun'
    exact alike_of_staying hf₂ hresized (hf.alike_absorb hf' (ha.mono fun _ => .inl) hb hall hfits
      (fun pos hpos => .inl (hlinks pos hpos)) habsorb habsorb')
  · unfold Plan.move at hrun hanswer ⊢
    cases hserved : P.tryAllocate size with
    | mk P₁ answer =>
      cases answer with
      | error error =>
        rw [hserved] at hanswer
        cases hanswer
      | ok q =>
        rw [hserved] at hrun hanswer
        obtain rfl := Option.some.inj hanswer
        have hnew : (some q).filter (some · ≠ some b.ptr) = some q :=
          Option.filter_some_pos (decide_eq_true
            (mt Option.some.inj (hf.ne_of_served hserved hb hall).symm))
        rw [hnew]
        exact hf.alike_move hf' ha hgrow hb hall hserved hlinks hrun hrun'

lemma alike_release {ptr : Option Ptr} (hf : h.Follows P) (hf' : h'.Follows (P.shift k backing))
    (ha : Memory.AlikeBut k stale h.memory h'.memory)
    (hlinks : ∀ pos, InFreeSlot P.blocks pos → stale pos)
    (hptr : ∀ p ∈ ptr, ∃ b ∈ P.blocks, b.allocated = true ∧ p = b.ptr)
    (hrun : (h.release ptr).outcome = .ok h₁)
    (hrun' : (h'.release (ptr.map (·.shift k))).outcome = .ok h₁') :
    Memory.AlikeBut k (linkStale stale (P.release ptr).blocks none) h₁.memory h₁'.memory := by
  cases ptr with
  | none =>
    obtain rfl := Except.ok.inj hrun
    obtain rfl := Except.ok.inj hrun'
    exact ha.mono fun _ => .inl
  | some p =>
    obtain ⟨b, hb, hall, rfl⟩ := hptr p rfl
    have hat : P.release (some b.ptr) = P.releaseBlock b := by
      rw [Plan.release, Option.bind_some, hf.at?_eq hb]
      rfl
    rw [hat]
    refine hf.alike_releaseBlock hf' (ha.mono fun _ => .inl) hb hall (fun pos hpos => ?_) hrun hrun'
    exact hpos.imp (hlinks pos) .inl

lemma eq_of_not_resized (hf : h.Follows P) (hb : b ∈ P.blocks) (hall : b.allocated = true)
    (hnone : (P.resizeBlock b size).2 = none)
    (hrun : (h.resizeBlock b.ptr size).outcome = .ok (h₁, moved)) : h₁ = h := by
  obtain ⟨h₂, hresize, -, hresized⟩ := hf.resized hb hall size
  obtain ⟨rfl, -⟩ := Prod.mk.inj (Except.ok.inj (hresize.symm.trans hrun))
  rw [hnone] at hresized
  generalize (P.resizeBlock b size).1.blocks = blocks at hresized
  cases hresized
  rfl

lemma alike_resize {ptr : Option Ptr} (hf : h.Follows P) (hf' : h'.Follows (P.shift k backing))
    (ha : Memory.AlikeBut k stale h.memory h'.memory)
    (hgrow : ∀ n, (P.shift k backing).canGrow n = P.canGrow n)
    (hlinks : ∀ pos, InFreeSlot P.blocks pos → stale pos)
    (hptr : ∀ p ∈ ptr, ∃ b ∈ P.blocks, b.allocated = true ∧ p = b.ptr)
    (hrun : (h.resize ptr size).outcome = .ok (h₁, moved))
    (hrun' : (h'.resize (ptr.map (·.shift k)) size).outcome = .ok (h₁', moved')) :
    Memory.AlikeBut k (h.resizeStale size ptr moved stale
      (linkStale stale (P.resize ptr size).1.blocks (moved.filter (some · ≠ ptr))))
      h₁.memory h₁'.memory := by
  obtain ⟨h₂, hresize, -⟩ := hf.resize size hptr
  obtain ⟨rfl, rfl⟩ := Prod.mk.inj (Except.ok.inj (hresize.symm.trans hrun))
  unfold Plan.resize Heap.resize at *
  by_cases hsize : size = 0
  · rw [if_pos hsize] at hrun hrun' ⊢
    rw [Traced.outcome_bind] at hrun hrun'
    obtain ⟨_, hrelease, hh₂⟩ := bind_eq_ok_iff.1 hrun
    obtain ⟨_, hrelease', hh₁'⟩ := bind_eq_ok_iff.1 hrun'
    obtain ⟨rfl, -⟩ := Prod.mk.inj (Except.ok.inj hh₂)
    obtain ⟨rfl, -⟩ := Prod.mk.inj (Except.ok.inj hh₁')
    rw [resizeStale_none]
    exact hf.alike_release hf' ha hlinks hptr hrelease hrelease'
  rw [if_neg hsize] at hrun hrun' ⊢
  cases ptr with
  | none =>
    obtain ⟨h₃, halloc, -⟩ := hf.tryAllocate size
    obtain ⟨h₃', halloc', -⟩ := hf'.tryAllocate size
    obtain ⟨rfl, -⟩ := Prod.mk.inj (Except.ok.inj ((allocate_eq_ok halloc).symm.trans hrun))
    obtain ⟨rfl, -⟩ := Prod.mk.inj (Except.ok.inj ((allocate_eq_ok halloc').symm.trans hrun'))
    have hnew (moved : Option Ptr) : moved.filter (some · ≠ none) = moved := by
      cases moved <;> rfl
    rw [hnew]
    exact hf.alike_tryAllocate hf' ha hgrow hlinks halloc halloc'
  | some p =>
    obtain ⟨b, hb, hall, rfl⟩ := hptr p rfl
    have hb' : b.shift k ∈ (P.shift k backing).blocks := List.mem_map_of_mem hb
    simp only [hf.at?_eq hb, Option.elim] at hrun ⊢
    cases hmoved : (P.resizeBlock b size).2 with
    | none =>
      have hmoved' : ((P.shift k backing).resizeBlock (b.shift k) size).2 = none := by
        rw [Plan.resizeBlock_shift hgrow, hmoved]
        rfl
      rw [hf.eq_of_not_resized hb hall hmoved hrun, hf'.eq_of_not_resized hb' hall hmoved' hrun']
      exact ha.mono fun _ => .inl
    | some p =>
      have hresized := hf.alike_resizeBlock hf' ha hgrow hb hall hlinks hmoved hrun hrun'
      rw [← hf.capacity_eq hb] at hresized
      exact hresized

/-- **Requests with zeros.**  What was cleared is not stale. -/
lemma alike_tryZeroedAllocate {count : Nat} (hf : h.Follows P)
    (hf' : h'.Follows (P.shift k backing)) (ha : Memory.AlikeBut k stale h.memory h'.memory)
    (hgrow : ∀ n, (P.shift k backing).canGrow n = P.canGrow n)
    (hlinks : ∀ pos, InFreeSlot P.blocks pos → stale pos)
    (hrun : (h.tryZeroedAllocate count size).outcome = .ok (h₁, result))
    (hrun' : (h'.tryZeroedAllocate count size).outcome = .ok (h₁', result')) :
    Memory.AlikeBut k
      (fun pos => linkStale stale (P.tryZeroedAllocate count size).1.blocks
        (P.tryZeroedAllocate count size).2.toOption pos ∧
          ¬ ∃ p ∈ (P.tryZeroedAllocate count size).2.toOption,
            p.offset ≤ pos ∧ pos < p.offset + h₁.capacity p) h₁.memory h₁'.memory := by
  unfold Plan.tryZeroedAllocate
  by_cases hlt : count * size < Checked.bound
  · obtain ⟨h₂, halloc, hf₂, hanswer⟩ := hf.answered (count * size)
    obtain ⟨h₂', halloc', hf₂'⟩ := hf'.tryAllocate (count * size)
    have ha₂ := hf.alike_tryAllocate hf' ha hgrow hlinks halloc halloc'
    rw [if_pos hlt]
    rw [Plan.tryAllocate_shift hgrow] at halloc' hf₂'
    generalize P.tryAllocate (count * size) = served at *
    obtain ⟨P₁, error | p⟩ := served
    · rw [tryZeroedAllocate_of_refused hlt halloc] at hrun
      rw [tryZeroedAllocate_of_refused hlt halloc'] at hrun'
      obtain ⟨rfl, -⟩ := Prod.mk.inj (Except.ok.inj hrun)
      obtain ⟨rfl, -⟩ := Prod.mk.inj (Except.ok.inj hrun')
      exact ha₂.mono fun pos hpos => ⟨hpos, nofun⟩
    · obtain ⟨t, rfl, htall, -, -, hturn⟩ := hanswer.exists_of_ok
      have ht : t ∈ P₁.blocks := (hturn.mem_iff t htall).2 (.inl (by simp))
      have ht' : t.shift k ∈ (P₁.shift k backing).blocks := List.mem_map_of_mem ht
      have hcapacity := (hf₂.overwrite_payload ht htall fun _ => 0).capacity_eq ht
      have hbounds := hf₂.laid.bounds ht
      rw [hf₂.toSound.tryZeroedAllocate_of_served ht hlt halloc] at hrun
      rw [hf₂'.toSound.tryZeroedAllocate_of_served ht' hlt halloc'] at hrun'
      obtain ⟨rfl, -⟩ := Prod.mk.inj (Except.ok.inj hrun)
      obtain ⟨rfl, -⟩ := Prod.mk.inj (Except.ok.inj hrun')
      refine ha₂.overwrite (show t.offset + (t.size - 16) ≤ _ by omega) (fun _ _ _ => rfl)
        fun pos hout hstale => ⟨hstale, ?_⟩
      rintro ⟨_, ⟨⟩, hpayload⟩
      exact hout (hcapacity ▸ hpayload)
  · rw [tryZeroedAllocate_of_overflow (Nat.le_of_not_lt hlt)] at hrun hrun'
    obtain ⟨rfl, -⟩ := Prod.mk.inj (Except.ok.inj hrun)
    obtain ⟨rfl, -⟩ := Prod.mk.inj (Except.ok.inj hrun')
    rw [if_neg hlt]
    exact ha.mono fun pos hpos => ⟨.inl hpos, nofun⟩

/-- **Writing.**  What was written is not stale, if it was the same. -/
lemma alike_write {f f' : Nat → UInt8} {stale' : Nat → Prop} (hf : h.Follows P)
    (ha : Memory.AlikeBut k stale h.memory h'.memory) (hb : b ∈ P.blocks)
    (hwritten : ∀ i < b.size - 16, ¬ stale' (b.offset + i) → f' i = f i)
    (hout : ∀ pos, ¬ (b.offset ≤ pos ∧ pos < b.offset + (b.size - 16)) → stale pos → stale' pos) :
    Memory.AlikeBut k stale' (h.overwrite ⟨b.offset, b.size - 16⟩ f).memory
      (h'.overwrite ⟨b.offset + k, b.size - 16⟩ f').memory := by
  have hbounds := hf.laid.bounds hb
  exact ha.overwrite (show b.offset + (b.size - 16) ≤ _ by omega) hwritten hout

end Heap.Follows

end BlockHeap
