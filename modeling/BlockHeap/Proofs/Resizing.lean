import BlockHeap.Proofs.Allocation
import BlockHeap.Proofs.Releasing

/-!
# Resizing

A block is resized in one of four ways.  It is cut down (`Heap.Sound.shrink_of_split`), takes in the
free block after it (`Heap.Sound.absorbNext`), stays as it is, or moves: a new block is allocated,
the payload copied and the old block released (`Heap.Sound.move`).  A move that finds no room leaves
the heap as it was.

`Heap.Sound.resizeBlock` sums them up: there is a block for the pointer that is returned, and no
other allocated block notices.
-/

namespace BlockHeap

section

variable {m : Memory} {prologue pos n : Nat} {pre post : List BlockInfo} {b x : BlockInfo}

lemma Laid.joint_end (h : Laid m prologue (pre ++ b :: post)) :
    (joint pre b post).offset + (joint pre b post).size =
      b.offset + b.size + (firstFree? post).elim 0 BlockInfo.size := by
  obtain ⟨mid, -, hoff, hfirst⟩ := tiles_append.1 h.tiles_joint.2.1
  revert hfirst
  cases firstFree? post <;> simp [Tiles] <;> omega

/-- The rest of a block joins nothing but a free block behind it. -/
lemma Laid.inFree_of_joint_back (h : Laid m prologue (pre ++ b :: post)) (hn : n ≤ b.size)
    (hpos : (joint (pre ++ [b.front n]) (b.back n) post).Covers pos) :
    InFree (pre ++ b :: post) pos ∨ b.Covers pos := by
  have hend := h.joint_end
  have hstart := (h.tiles_joint.2.1.bounds (show b ∈ _ by simp)).1
  refine h.inFree_of_joint b rfl rfl ?_
  simp only [joint_back, BlockInfo.Covers] at hpos ⊢
  omega

end

namespace Heap

variable {h h' : Heap} {pre post blocks : List BlockInfo} {free : SizeClass → List BlockInfo}
variable {b x : BlockInfo} {size needed : Nat}

/-! ## In place -/

/-- **Shrinking.**  What a block gives up becomes free and is joined with a free block behind it. -/
lemma Sound.shrink_exact (hs : h.Sound (pre ++ b :: post) free) (hall : b.allocated = true)
    (haligned : needed % 8 = 0) (hmin : 32 ≤ needed) (hsplit : 32 ≤ b.size - needed) :
    ∃ m lists, (h.shrink b.offset b.size needed).outcome = .ok (h.put m lists) ∧
      (h.put m lists).Sound (joined (pre ++ [b.front needed]) (b.back needed) post)
        (relist free (pre ++ [b.front needed]) (b.back needed) post) ∧
      Memory.Stamped
        (InLinks (pre ++ post) (joined (pre ++ [b.front needed]) (b.back needed) post))
        [b.front needed, b.back needed, joint (pre ++ [b.front needed]) (b.back needed) post]
        h.memory m := by
  have hb : b ∈ pre ++ b :: post := by simp
  have hvalid := hs.laid.valid b hb
  have hbounds := hs.laid.bounds hb
  have hsmall := hs.laid.size_lt
  have hskip : h.Shows (pre ++ ([b] ++ post)) [b] free :=
    (Shows.skip_cons_iff hall).2 hs.toShows
  obtain ⟨m₁, m, lists, hmodify, hcoalesce, hshows, hstamped⟩ :=
    hskip.carve haligned hmin hsplit
  have hco : Coalesced (pre ++ [b.front needed]) := by
    refine List.isChain_append.2 ⟨hs.coalesced.before, List.isChain_singleton _, ?_⟩
    rintro _ _ y ⟨⟩
    exact .inr rfl
  refine ⟨m, lists, ?_, hs.put hstamped.changedOnly.size hshows
    (coalesced_joined hco hs.coalesced.after), hstamped⟩
  have hrest : (b.size - needed) % 8 = 0 := (hvalid.back haligned hsplit).1
  simp only [Heap.shrink, Traced.outcome_bind, Traced.outcome_liftM, Fault.ok_bind,
    Checked.sub_eq (show needed ≤ b.size by omega),
    if_pos (show Block.minSize ≤ b.size - needed from hsplit), Tag.pack_eq _ haligned,
    Tag.pack_eq _ hrest, Checked.add_eq (show b.offset + needed < Checked.bound by omega), hmodify,
    Traced.outcome_emit, hcoalesce, Traced.outcome_pure]

lemma Sound.shrink_of_split (hs : h.Sound (pre ++ b :: post) free) (hall : b.allocated = true)
    (haligned : needed % 8 = 0) (hmin : 32 ≤ needed) (hsplit : 32 ≤ b.size - needed) :
    ∃ m lists, (h.shrink b.offset b.size needed).outcome = .ok (h.put m lists) ∧
      (h.put m lists).Sound (joined (pre ++ [b.front needed]) (b.back needed) post)
        (relist free (pre ++ [b.front needed]) (b.back needed) post) ∧
      Memory.ChangedOnly
        (fun pos => (b.front needed).AtTags pos ∨
          (joint (pre ++ [b.front needed]) (b.back needed) post).Covers pos ∨
          InFreeSlot (pre ++ post) pos) h.memory m := by
  obtain ⟨m, lists, hshrink, hsound, hstamped⟩ := hs.shrink_exact hall haligned hmin hsplit
  have hrest := (hs.laid.valid b (by simp)).back haligned hsplit
  have hjoint := hsound.laid.valid (joint (pre ++ [b.front needed]) (b.back needed) post)
    (by simp [joined])
  refine ⟨m, lists, hshrink, hsound, hstamped.changedOnly.mono ?_⟩
  rintro pos (⟨x, hx, hpos⟩ | hpos)
  · simp only [List.mem_cons, List.not_mem_nil, or_false] at hx
    rcases hx with rfl | rfl | rfl
    · exact .inl hpos
    · right
      left
      have hcovers := hpos.covers hrest
      rw [joint_back]
      simp only [BlockInfo.Covers, BlockInfo.back] at hcovers ⊢
      omega
    · exact .inr (.inl (hpos.covers hjoint))
  · have hpos' := hpos.mono (show pre ++ post ⊆ pre ++ [b.front needed] ++ post by simp) fun _ => id
    exact .inr ((covers_of_inLinks hjoint hpos').imp_right (·.of_allocated rfl))

/-- A block stays as it is if what it would give up could not stand alone. -/
lemma shrink_of_not_split (h : Heap) (hle : needed ≤ b.size) (hsplit : ¬ 32 ≤ b.size - needed) :
    (h.shrink b.offset b.size needed).outcome = .ok h := by
  simp only [Heap.shrink, Traced.outcome_bind, Traced.outcome_liftM, Checked.sub_eq hle,
    Fault.ok_bind, if_neg (show ¬ Block.minSize ≤ b.size - needed from hsplit), Traced.outcome_pure]

/-- The block and the one after it, as an allocated block. -/
def merged (b x : BlockInfo) : BlockInfo := ⟨b.offset, b.size + x.size, true⟩

/-- **Absorbing.**  A block takes in the free block after it. -/
lemma Sound.absorbNext (hs : h.Sound (pre ++ b :: x :: post) free) (hall : b.allocated = true)
    (hfree : x.allocated = false) :
    ∃ m lists, (h.absorbNext b.offset b.size (b.offset + b.size)).outcome = .ok (h.put m lists) ∧
      (h.put m lists).Sound (pre ++ merged b x :: post) (detach free x) ∧
      Memory.ChangedOnly
        (fun pos => (merged b x).AtTags pos ∨ InFreeSlot (pre ++ b :: x :: post) pos)
        h.memory m := by
  have hb : b ∈ pre ++ b :: x :: post := by simp
  have hx : x ∈ pre ++ b :: x :: post := by simp
  have hbounds := hs.laid.bounds hx
  have hsmall := hs.laid.size_lt
  obtain ⟨hpre, hoff, hpost⟩ := hs.laid.tiles_exchange
  obtain ⟨m₁, lists, hunlink, hshows₁, hframe₁⟩ := hs.unlink hx hfree (by simp)
  have hskip : (h.put m₁ lists).Shows (pre ++ ([b, x] ++ post)) [b, x] (detach free x) :=
    (Shows.skip_cons_iff hall).2 hshows₁
  have hvalid : (merged b x).Valid := by
    have h₁ := hs.laid.valid b hb
    have h₂ := hs.laid.valid x hx
    exact ⟨by have := h₁.1; have := h₂.1; show (b.size + x.size) % 8 = 0; omega,
      by have := h₁.2; show 32 ≤ b.size + x.size; omega⟩
  have hpost₁ : Tiles ((merged b x).offset + (merged b x).size) post
      (h.put m₁ lists).memory.size := by
    rw [memory_put, hframe₁.size]
    exact (Nat.add_assoc b.offset b.size x.size) ▸ hpost
  obtain ⟨m, hwrite, hshows, hframe⟩ := hskip.rewrite (merged b x) hpre hpost₁ hvalid
  have hmerged : (merged b x).allocated = true := rfl
  refine ⟨m, lists, ?_, hs.put (hframe.size.trans hframe₁.size)
    ((Shows.skip_cons_iff hmerged).1 hshows) ?_,
    (hframe₁.mono fun pos => Or.inr).trans (hframe.mono fun pos => Or.inl)⟩
  · have hmodify : (h.put m₁ lists).modifyMemory (fun m =>
        Block.write m b.offset (Tag.of (b.size + x.size) true)) = .ok (h.put m lists) :=
      modifyMemory_eq hwrite
    rw [← hoff]
    simp only [Heap.absorbNext, Traced.outcome_bind, Traced.outcome_liftM, hunlink, Fault.ok_bind,
      Checked.add_eq (show b.size + x.size < Checked.bound by omega),
      Tag.pack_eq _ (show (b.size + x.size) % 8 = 0 from hvalid.1), hmodify, Traced.outcome_emit,
      Traced.outcome_pure]
  · obtain ⟨hco, hco', -⟩ := List.isChain_append.1 hs.coalesced
    refine List.isChain_append.2 ⟨hco, ?_, ?_⟩
    · exact hco'.tail.tail.cons fun _ _ => .inl rfl
    · rintro _ _ y ⟨⟩
      exact .inr rfl

/-! ## What became of the allocated blocks -/

/-- There is a block of sufficient size for the pointer that is returned, in the place of the old
one; or there is no pointer and nothing has changed. -/
inductive Resized (h : Heap) (blocks : List BlockInfo) (b : BlockInfo) (size : Nat) :
    Heap → List BlockInfo → Option Ptr → Prop where
  | served {h' : Heap} {blocks' : List BlockInfo} (b' : BlockInfo) (hall : b'.allocated = true)
      (hfresh : b' ∈ blocks → b' = b) (hroom : size + 16 ≤ b'.size)
      (hturn : Turnover h h' blocks blocks' [b] [b']) :
      Resized h blocks b size h' blocks' (some ⟨b'.offset⟩)
  | refused : Resized h blocks b size h blocks none

lemma resized_of_le (hb : b ∈ blocks) (hall : b.allocated = true)
    (hroom : size + 16 ≤ b.size) : Resized h blocks b size h blocks (some ⟨b.offset⟩) :=
  .served b hall (fun _ => rfl) hroom (.singleton h hb)

lemma Sound.resized_of_shrink {m : Memory} {lists : FreeLists}
    (hs : h.Sound (pre ++ b :: post) free) (hfront : (b.front needed).Valid)
    (hle : needed ≤ b.size) (hroom : size + 16 ≤ needed)
    (hframe : Memory.ChangedOnly
      (fun pos => (b.front needed).AtTags pos ∨
        (joint (pre ++ [b.front needed]) (b.back needed) post).Covers pos ∨
        InFreeSlot (pre ++ post) pos) h.memory m) :
    Resized h (pre ++ b :: post) b size (h.put m lists)
      (joined (pre ++ [b.front needed]) (b.back needed) post) (some ⟨b.offset⟩) := by
  have hb : b ∈ pre ++ b :: post := by simp
  refine .served (b.front needed) rfl (fun hin => hs.laid.eq_of_offset hin hb rfl) hroom
    (hs.turnover (Nat.le_of_eq hframe.size.symm) (by simp) ?_ ?_)
  · intro x hx
    have hsides := hs.laid.mem_sides_iff (x := x)
    simp only [mem_joined hx, List.mem_append, List.mem_singleton] at hsides ⊢
    tauto
  · intro pos hne
    by_contra hnot
    apply hne
    apply hframe.byte pos
    rintro (hpos | hpos | hpos)
    · have := hpos.covers hfront
      simp only [BlockInfo.Covers, BlockInfo.front] at this
      exact hnot (.inr (.inl ⟨b, by simp, this.1, by omega⟩))
    · rcases hs.laid.inFree_of_joint_back hle hpos with hfree | hin
      · exact hnot (.inl hfree)
      · exact hnot (.inr (.inl ⟨b, by simp, hin⟩))
    · exact hnot (.inl ((hpos.mono (by simp)).inFree hs.laid.valid))

lemma Sound.resized_of_absorb {m : Memory} {lists : FreeLists}
    (hs : h.Sound (pre ++ b :: x :: post) free) (hfree : x.allocated = false)
    (hroom : size + 16 ≤ b.size + x.size)
    (hframe : Memory.ChangedOnly
      (fun pos => (merged b x).AtTags pos ∨ InFreeSlot (pre ++ b :: x :: post) pos) h.memory m) :
    Resized h (pre ++ b :: x :: post) b size (h.put m lists) (pre ++ merged b x :: post)
      (some ⟨b.offset⟩) := by
  have hb : b ∈ pre ++ b :: x :: post := by simp
  have hx : x ∈ pre ++ b :: x :: post := by simp
  have hoff : x.offset = b.offset + b.size := hs.laid.tiles_exchange.2.1
  have hxsize := (hs.laid.valid x hx).2
  have hbsize := (hs.laid.valid b hb).2
  refine .served (merged b x) rfl (fun hin => hs.laid.eq_of_offset hin hb rfl) hroom
    (hs.turnover (Nat.le_of_eq hframe.size.symm) (by simp) ?_ ?_)
  · intro y hy
    have hyx : y ≠ x := (BlockInfo.ne_of_free_of_allocated hfree hy).symm
    have hsides := hs.laid.mem_sides_iff (x := y)
    simp only [List.mem_append, List.mem_cons, List.not_mem_nil, or_false, hyx, false_or]
      at hsides ⊢
    tauto
  · intro pos hne
    by_contra hnot
    apply hne
    apply hframe.byte pos
    rintro (hpos | hpos)
    · by_cases hin : pos < x.offset
      · refine hnot (.inr (.inl ⟨b, by simp, ?_⟩))
        unfold BlockInfo.AtTags merged at hpos
        unfold BlockInfo.Covers
        simp only at hpos
        omega
      · refine hnot (.inl ⟨x, hx, hfree, ?_⟩)
        unfold BlockInfo.AtTags merged at hpos
        unfold BlockInfo.Covers
        simp only at hpos
        omega
    · exact hnot (.inl (hpos.inFree hs.laid.valid))

/-! ## Moving -/

lemma copyBytes_eq (h : Heap) (source target count : Nat) (hlt : h.memory.size < Checked.bound)
    (hsource : source + count ≤ h.memory.size) (htarget : target + count ≤ h.memory.size) :
    h.copyBytes source target count = .ok (h.overwrite ⟨target, count⟩ fun i =>
      (h.memory.slice source (source + count)).get! i) := by
  rw [Heap.copyBytes, Checked.add_eq (by omega), Fault.ok_bind, if_pos ⟨hsource, htarget⟩]
  rfl

/-- A move to a new block is a copy of the payload and a release of the old block. -/
lemma Sound.move_eq {h₁ : Heap} {t : BlockInfo} (hs₁ : h₁.Sound blocks free) (hb : b ∈ blocks)
    (ht : t ∈ blocks) (hroom : size + 16 ≤ t.size)
    (halloc : (h.allocate size).outcome = .ok (h₁, some ⟨t.offset⟩)) :
    (h.move b.offset b.size size).outcome =
      ((h₁.overwrite ⟨t.offset, min (b.size - 16) size⟩ fun i =>
        (h₁.memory.slice b.offset (b.offset + min (b.size - 16) size)).get! i).releaseBlock
          b.offset).outcome.map fun h => (h, some ⟨t.offset⟩) := by
  have hbounds := hs₁.laid.bounds hb
  have htbounds := hs₁.laid.bounds ht
  have hsmall := hs₁.laid.size_lt
  -- the copy stays inside the payload of the new block
  have hcopy := copyBytes_eq h₁ b.offset t.offset (min (b.size - 16) size) (by omega)
    (by omega) (by omega)
  simp only [Heap.move, Traced.outcome_bind, halloc, Fault.ok_bind, Traced.outcome_liftM,
    Checked.sub_eq (show Block.overhead ≤ b.size by
      simp only [Block.overhead, Memory.wordSize]; omega), Traced.outcome_emit]
  simp only [Block.overhead, Memory.wordSize, Nat.reduceMul, hcopy, Fault.ok_bind]
  cases (Heap.releaseBlock _ b.offset).outcome <;> rfl

/-- A block for which there is room elsewhere: its payload is copied there and it is released. -/
lemma Sound.move_of_served {h₁ : Heap} {t : BlockInfo} (hs₁ : h₁.Sound (pre ++ b :: post) free)
    (hall : b.allocated = true) (ht : t ∈ pre ++ b :: post) (htall : t.allocated = true)
    (hbt : b ≠ t) (hroom : size + 16 ≤ t.size)
    (halloc : (h.allocate size).outcome = .ok (h₁, some ⟨t.offset⟩)) :
    ∃ m lists, (h.move b.offset b.size size).outcome = .ok (h₁.put m lists, some ⟨t.offset⟩) ∧
      m.size = h₁.memory.size ∧
      (h₁.put m lists).Sound (joined pre b.freed post) (relist free pre b.freed post) ∧
      Turnover h₁ (h₁.put m lists) (pre ++ b :: post) (joined pre b.freed post) [t, b] [t] := by
  rw [hs₁.move_eq (by simp) ht hroom halloc]
  generalize (fun i => (h₁.memory.slice b.offset (b.offset + min (b.size - 16) size)).get! i) = f
  set span : Span := ⟨t.offset, min (b.size - 16) size⟩ with hspan
  have hin : span.start + span.length ≤ t.offset + t.size - 16 := by
    simp only [hspan]
    omega
  obtain ⟨hs₂, hcopied⟩ := hs₁.overwrite ht htall span (Nat.le_refl _) hin f
  have hturn₂ := hs₁.turnover_overwrite ht htall span (Nat.le_refl _) hin f
  obtain ⟨m, lists, hrelease, hs₃, hframe⟩ := hs₂.releaseBlock hall
  refine ⟨m, lists, ?_, hframe.size.trans hcopied.size, hs₃,
    hturn₂.trans (hs₂.turnover_release lists hframe) ?_⟩
  · rw [hrelease]
    rfl
  · simp [hbt.symm]

/-- **Moving.**  The payload goes to a new block and the old one is released, or there is no room
and nothing has changed. -/
lemma Sound.move (hs : h.Sound blocks free) (hb : b ∈ blocks) (hall : b.allocated = true)
    (size : Nat) :
    ∃ h' result blocks' free', (h.move b.offset b.size size).outcome = .ok (h', result) ∧
      h'.Sound blocks' free' ∧ Resized h blocks b size h' blocks' result := by
  obtain ⟨h₁, result, blocks₁, free₁, halloc, hs₁, hanswer⟩ := hs.allocate size
  cases hanswer with
  | refused error =>
    refine ⟨h, none, blocks, free₁, ?_, hs₁, .refused⟩
    simp only [Heap.move, Traced.outcome_bind, halloc, Fault.ok_bind]
    rfl
  | served t htall hfresh hroom hturn =>
    have hbt : b ≠ t := fun he => hfresh (he ▸ hb)
    have hb₁ : b ∈ blocks₁ := (hturn.mem_iff b hall).2 (.inr ⟨hb, nofun⟩)
    have ht₁ : t ∈ blocks₁ := (hturn.mem_iff t htall).2 (.inl (by simp))
    obtain ⟨pre, post, rfl⟩ := List.append_of_mem hb₁
    obtain ⟨m, lists, hmove, -, hs₃, hturn₃⟩ :=
      hs₁.move_of_served hall ht₁ htall hbt hroom halloc
    refine ⟨_, _, _, _, hmove, hs₃, .served t htall (fun hin => absurd hin hfresh) hroom ?_⟩
    refine (hturn.trans hturn₃ (by simp)).congr ?_ (by simp)
    intro x hx
    have : x ≠ t := by
      rintro rfl
      exact hfresh hx
    simp [this]

/-! ## The four ways together -/

lemma exists_of_any_firstFree? (hfits : (firstFree? post).any fun x => needed ≤ b.size + x.size) :
    ∃ x rest, post = x :: rest ∧ x.allocated = false ∧ needed ≤ b.size + x.size := by
  cases post with
  | nil => simp at hfits
  | cons x rest =>
    cases hfree : x.allocated with
    | true => simp [hfree] at hfits
    | false => exact ⟨x, rest, rfl, hfree, by simpa [hfree] using hfits⟩

/-- A block is made larger by taking in the free block after it if that is enough, and by moving
otherwise. -/
lemma Sound.growBlock_eq (hs : h.Sound (pre ++ b :: post) free) (size needed : Nat) :
    (h.growBlock b.offset b.size size needed).outcome =
      if (firstFree? post).any fun x => needed ≤ b.size + x.size then
        (h.absorbNext b.offset b.size (b.offset + b.size)).outcome.map fun h => (h, some ⟨b.offset⟩)
      else (h.move b.offset b.size size).outcome := by
  have hsmall := hs.laid.size_lt
  have hnext := hs.next_eq (b := b) (by simp)
  have hnextTag := hs.header_next (b := b)
  cases post with
  | nil =>
    simp only [Heap.growBlock, Traced.outcome_bind, Traced.outcome_liftM, hnext, Fault.ok_bind,
      hnextTag, List.head?_nil, Option.elim_none, Tag.allocated_of_epilogue, if_true]
    rfl
  | cons x post =>
    have hx : x ∈ pre ++ b :: x :: post := by simp
    have hbounds := hs.laid.bounds hx
    have hoff : x.offset = b.offset + b.size := hs.laid.tiles_exchange.2.1
    cases hfree : x.allocated with
    | true =>
      simp only [Heap.growBlock, Traced.outcome_bind, Traced.outcome_liftM, hnext, Fault.ok_bind,
        hnextTag, List.head?_cons, Option.elim_some, hs.laid.allocated_tag hx, hfree, if_true,
        firstFree?_cons]
      rfl
    | false =>
      simp only [Heap.growBlock, Traced.outcome_bind, Traced.outcome_liftM, hnext, Fault.ok_bind,
        hnextTag, List.head?_cons, Option.elim_some, hs.laid.allocated_tag hx, hfree,
        Bool.false_eq_true, if_false, firstFree?_cons, hs.laid.size_tag hx,
        Checked.add_eq (show b.size + x.size < Checked.bound by omega), Traced.outcome_map,
        Fault.map_ok]
      by_cases hle : needed ≤ b.size + x.size
      · simp [hle]
      · simp [hle]

/-- Which of the ways is taken depends on the size of the block and on what is behind it. -/
lemma Sound.resizeBlock_eq (hs : h.Sound (pre ++ b :: post) free) (size : Nat) :
    (h.resizeBlock ⟨b.offset⟩ size).outcome =
      if size + 23 < Checked.bound then
        if blockFor size = b.size then .ok (h, some ⟨b.offset⟩)
        else if blockFor size < b.size then
          (h.shrink b.offset b.size (blockFor size)).outcome.map fun h => (h, some ⟨b.offset⟩)
        else if (firstFree? post).any fun x => blockFor size ≤ b.size + x.size then
          (h.absorbNext b.offset b.size (b.offset + b.size)).outcome.map
            fun h => (h, some ⟨b.offset⟩)
        else (h.move b.offset b.size size).outcome
      else .ok (h, none) := by
  by_cases hlt : size + 23 < Checked.bound
  · have hblock : blockSize? size = some (blockFor size) := by rw [blockSize?_eq, if_pos hlt]
    rw [if_pos hlt, ← hs.growBlock_eq]
    simp only [Heap.resizeBlock, hblock, Traced.outcome_bind, Traced.outcome_liftM,
      hs.size_eq (b := b) (by simp), Fault.ok_bind]
    split
    · rfl
    · split
      · rw [Traced.outcome_bind]
        cases (h.shrink b.offset b.size (blockFor size)).outcome <;> rfl
      · rfl
  · rw [if_neg hlt, Heap.resizeBlock, blockSize?_eq, if_neg hlt]
    rfl

/-- **Resizing a block.**  It always comes to an end and leaves a sound heap. -/
lemma Sound.resizeBlock (hs : h.Sound blocks free) (hb : b ∈ blocks) (hall : b.allocated = true)
    (size : Nat) :
    ∃ h' result blocks' free', (h.resizeBlock ⟨b.offset⟩ size).outcome = .ok (h', result) ∧
      h'.Sound blocks' free' ∧ Resized h blocks b size h' blocks' result := by
  obtain ⟨haligned, hmin, hroom⟩ := blockFor_spec size
  obtain ⟨pre, post, rfl⟩ := List.append_of_mem hb
  rw [hs.resizeBlock_eq]
  split_ifs with hlt heq hless hfits
  · exact ⟨h, _, _, free, rfl, hs, resized_of_le hb hall (by omega)⟩
  · -- the block is cut down if it can be
    by_cases hsplit : 32 ≤ b.size - blockFor size
    · obtain ⟨m, lists, hshrink, hsound, hframe⟩ := hs.shrink_of_split hall haligned hmin hsplit
      exact ⟨_, _, _, _, by rw [hshrink]; rfl, hsound,
        hs.resized_of_shrink ⟨haligned, hmin⟩ (Nat.le_of_lt hless) hroom hframe⟩
    · refine ⟨h, _, _, free, ?_, hs, resized_of_le hb hall (by omega)⟩
      rw [shrink_of_not_split h (Nat.le_of_lt hless) hsplit]
      rfl
  · -- the block after this one is free and large enough
    obtain ⟨x, post, rfl, hfree, hle⟩ := exists_of_any_firstFree? hfits
    obtain ⟨m, lists, habsorb, hsound, hframe⟩ := hs.absorbNext hall hfree
    exact ⟨_, _, _, _, by rw [habsorb]; rfl, hsound, hs.resized_of_absorb hfree (by omega) hframe⟩
  · exact hs.move hb hall size
  · exact ⟨h, none, _, free, rfl, hs, .refused⟩

end Heap

end BlockHeap
