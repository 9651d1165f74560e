import BlockHeap.Proofs.Invariant

/-!
# What an operation does to allocated blocks

`Heap.Turnover h h' blocks blocks' gone new` is the part of the effect of an operation that its
caller sees: the allocated blocks of `gone` are gone, those of `new` are there, and all others stand
where they stood with all their bytes, as do the bytes in front of the first block.  Turnovers
compose, and each is read off the frame of the operation by `Heap.Sound.turnover`: free blocks and
the top of the arena can be written to without anybody noticing.

Writing into payloads is the one change that callers make by themselves.  It keeps a heap sound
(`Heap.Sound.of_payloads`).
-/

namespace BlockHeap

/-- An offset in a free block. -/
def InFree (blocks : List BlockInfo) (pos : Nat) : Prop :=
  ∃ b ∈ blocks, b.allocated = false ∧ b.Covers pos

/-- An offset in the payload of an allocated block. -/
def InAllocated (blocks : List BlockInfo) (pos : Nat) : Prop :=
  ∃ b ∈ blocks, b.allocated = true ∧ b.InPayload pos

section

variable {m : Memory} {prologue pos : Nat} {blocks : List BlockInfo} {b b' : BlockInfo}

lemma Laid.eq_of_covers (h : Laid m prologue blocks) (hb : b ∈ blocks) (hb' : b' ∈ blocks)
    (hpos : b.Covers pos) (hpos' : b'.Covers pos) : b = b' := by
  unfold BlockInfo.Covers at hpos hpos'
  exact (h.eq_or_apart hb hb').resolve_right (by omega)

/-- Blocks lie behind the prologue and before the epilogue. -/
lemma Laid.covers_bounds (h : Laid m prologue blocks) (hb : b ∈ blocks) (hpos : b.Covers pos) :
    prologue + 8 ≤ pos ∧ pos < m.size - 8 := by
  have := h.bounds hb
  unfold BlockInfo.Covers at hpos
  omega

lemma BlockInfo.InPayload.covers (hpos : b.InPayload pos) : b.Covers pos := by
  unfold InPayload at hpos
  unfold Covers
  omega

lemma InFreeSlot.inFree (h : InFreeSlot blocks pos) (hvalid : ∀ b ∈ blocks, b.Valid) :
    InFree blocks pos := by
  obtain ⟨b, hb, hfree, hpos⟩ := h
  exact ⟨b, hb, hfree, BlockInfo.covers_of_inSlot (hvalid b hb).2 hpos⟩

end

namespace Heap

variable {h h' h'' : Heap} {blocks blocks' blocks'' gone gone' new new' : List BlockInfo}
variable {free : SizeClass → List BlockInfo} {b : BlockInfo}

/-- Of the allocated blocks those of `gone` are gone and those of `new` are there; the others and
everything in front of the first block keep their bytes. -/
structure Turnover (h h' : Heap) (blocks blocks' gone new : List BlockInfo) : Prop where
  size_le : h.memory.size ≤ h'.memory.size
  prologue : h'.prologue = h.prologue
  config : h'.config = h.config
  limit : h'.arena.limit = h.arena.limit
  backing : h'.arena.backing = h.arena.backing
  mem_iff : ∀ b, b.allocated = true → (b ∈ blocks' ↔ b ∈ new ∨ b ∈ blocks ∧ b ∉ gone)
  front : ∀ pos < h.prologue + 8, h'.memory.byte pos = h.memory.byte pos
  kept : ∀ b ∈ blocks, b.allocated = true → b ∉ gone → ∀ pos, b.Covers pos →
    h'.memory.byte pos = h.memory.byte pos

lemma Turnover.refl (h : Heap) (blocks : List BlockInfo) : Turnover h h blocks blocks [] [] where
  size_le := Nat.le_refl _
  prologue := rfl
  config := rfl
  limit := rfl
  backing := rfl
  mem_iff := by simp
  front _ _ := rfl
  kept _ _ _ _ _ _ := rfl

/-- One operation after another, if the second does not undo the first. -/
lemma Turnover.trans (hh : Turnover h h' blocks blocks' gone new)
    (hh' : Turnover h' h'' blocks' blocks'' gone' new') (hnew : ∀ b ∈ new, b ∈ gone' → b ∈ new') :
    Turnover h h'' blocks blocks'' (gone ++ gone') (new ++ new') where
  size_le := Nat.le_trans hh.size_le hh'.size_le
  prologue := hh'.prologue.trans hh.prologue
  config := hh'.config.trans hh.config
  limit := hh'.limit.trans hh.limit
  backing := hh'.backing.trans hh.backing
  mem_iff b hb := by
    have := hnew b
    rw [hh'.mem_iff b hb, hh.mem_iff b hb, List.mem_append, List.mem_append]
    tauto
  front pos hpos := (hh'.front pos (hh.prologue ▸ hpos)).trans (hh.front pos hpos)
  kept b hb hall hnot pos hpos := by
    rw [List.mem_append, not_or] at hnot
    have hb' : b ∈ blocks' := (hh.mem_iff b hall).2 (.inr ⟨hb, hnot.1⟩)
    exact (hh'.kept b hb' hall hnot.2 pos hpos).trans (hh.kept b hb hall hnot.1 pos hpos)

/-- Only blocks that were there can be gone, and it does not matter how often one is named. -/
lemma Turnover.congr (hh : Turnover h h' blocks blocks' gone new)
    (hgone : ∀ b ∈ blocks, b ∈ gone ↔ b ∈ gone') (hnew : ∀ b, b ∈ new ↔ b ∈ new') :
    Turnover h h' blocks blocks' gone' new' :=
  { hh with
    mem_iff := fun b hb => by
      have := hgone b
      rw [hh.mem_iff b hb, hnew b]
      tauto
    kept := fun b hb hall hnot => hh.kept b hb hall fun hin => hnot ((hgone b hb).1 hin) }

lemma mem_iff_mem_singleton_or {x : BlockInfo} (hb : b ∈ blocks) :
    x ∈ blocks ↔ x ∈ [b] ∨ x ∈ blocks ∧ x ∉ [b] := by
  rw [List.mem_singleton]
  exact ⟨fun hx => by tauto, fun hx => by rcases hx with rfl | hx; exacts [hb, hx.1]⟩

/-- A block may count as gone and as new again. -/
lemma Turnover.singleton (h : Heap) (hb : b ∈ blocks) : Turnover h h blocks blocks [b] [b] :=
  { Turnover.refl h blocks with
    mem_iff := fun _ _ => mem_iff_mem_singleton_or hb
    kept := fun _ _ _ _ _ _ => rfl }

/-- An operation that writes to free blocks, to those that are gone and to the top of the arena
changes nothing else. -/
lemma Sound.turnover {m : Memory} {lists : FreeLists} (hs : h.Sound blocks free)
    (hsize : h.memory.size ≤ m.size) (hgone : ∀ b ∈ gone, b ∈ blocks)
    (hmem : ∀ b, b.allocated = true → (b ∈ blocks' ↔ b ∈ new ∨ b ∈ blocks ∧ b ∉ gone))
    (hbyte : ∀ pos, m.byte pos ≠ h.memory.byte pos →
      InFree blocks pos ∨ (∃ b ∈ gone, b.Covers pos) ∨ h.memory.size - 8 ≤ pos) :
    Turnover h (h.put m lists) blocks blocks' gone new where
  size_le := hsize
  prologue := rfl
  config := rfl
  limit := rfl
  backing := rfl
  mem_iff := hmem
  front pos hpos := by
    by_contra hne
    have hroom := hs.laid.tiles.le
    rcases hbyte pos hne with ⟨b, hb, -, hin⟩ | ⟨b, hb, hin⟩ | htop
    · have := (hs.laid.covers_bounds hb hin).1
      omega
    · have := (hs.laid.covers_bounds (hgone b hb) hin).1
      omega
    · omega
  kept b hb hall hnot pos hpos := by
    by_contra hne
    rcases hbyte pos hne with ⟨x, hx, hxfree, hin⟩ | ⟨x, hx, hin⟩ | htop
    · rw [hs.laid.eq_of_covers hb hx hpos hin, hxfree] at hall
      exact Bool.false_ne_true hall
    · exact hnot (hs.laid.eq_of_covers hb (hgone x hx) hpos hin ▸ hx)
    · have := (hs.laid.covers_bounds hb hpos).2
      omega

/-! ## Writing into payloads -/

/-- **Payload writes.**  A heap stays sound whatever is written into the payloads of allocated
blocks. -/
lemma Sound.of_payloads {m : Memory} (hs : h.Sound blocks free)
    (hm : Memory.ChangedOnly (InAllocated blocks) h.memory m) :
    (h.put m h.lists).Sound blocks free := by
  refine hs.put hm.size ⟨hs.laid.of_changedOnly hm fun pos ⟨b, hb, _, hpos⟩ => ⟨b, hb, hpos⟩,
    hs.listed.of_changedOnly hm ?_⟩ hs.coalesced
  -- link words of free blocks are in no payload of an allocated one
  rintro b hb hfree - pos hpos ⟨x, hx, hall, hin⟩
  have hcovers : b.Covers pos := BlockInfo.covers_of_inSlot (hs.laid.valid b hb).2 hpos
  rw [← hs.laid.eq_of_covers hb hx hcovers hin.covers, hfree] at hall
  exact Bool.false_ne_true hall

lemma Shows.payload_eq {skip : List BlockInfo} (hh : h.Shows blocks skip free) (hb : b ∈ blocks) :
    h.payload ⟨b.offset⟩ = .ok ⟨b.offset, b.size - 16⟩ := by
  have hbounds := hh.laid.bounds hb
  have hsmall := hh.laid.size_lt
  have hfooter : Block.footerOffset b.offset b.size = .ok (b.offset + b.size - 16) := by
    rw [Block.footerOffset, Checked.add_eq (by omega), Fault.ok_bind]
    exact Checked.sub_eq (by simp only [Block.overhead, Memory.wordSize]; omega)
  rw [Heap.payload, hh.size_eq hb, Fault.ok_bind, hfooter, Fault.ok_bind,
    if_pos (show b.offset ≤ _ ∧ _ from ⟨by omega, by omega⟩),
    show b.offset + b.size - 16 - b.offset = b.size - 16 by omega]
  rfl

lemma Shows.usableSize_eq {skip : List BlockInfo} (hh : h.Shows blocks skip free)
    (hb : b ∈ blocks) : h.usableSize ⟨b.offset⟩ = .ok (b.size - 16) := by
  have hbounds := hh.laid.bounds hb
  rw [Heap.usableSize, hh.size_eq hb, Fault.ok_bind]
  exact Checked.sub_eq (by simp only [Block.overhead, Memory.wordSize]; omega)

lemma Sound.overwrite (hs : h.Sound blocks free) (hb : b ∈ blocks) (hall : b.allocated = true)
    (span : Span) (hlo : b.offset ≤ span.start)
    (hhi : span.start + span.length ≤ b.offset + b.size - 16) (f : Nat → UInt8) :
    (h.overwrite span f).Sound blocks free ∧
      Memory.ChangedOnly (fun pos => span.start ≤ pos ∧ pos < span.start + span.length) h.memory
        (h.overwrite span f).memory := by
  have hframe := Memory.overwrite_changedOnly h.memory span.start span.length f
  refine ⟨hs.of_payloads (hframe.mono fun pos hpos => ⟨b, hb, hall, ?_⟩), hframe⟩
  exact ⟨by omega, by omega⟩

lemma Sound.turnover_overwrite (hs : h.Sound blocks free) (hb : b ∈ blocks)
    (hall : b.allocated = true) (span : Span) (hlo : b.offset ≤ span.start)
    (hhi : span.start + span.length ≤ b.offset + b.size - 16) (f : Nat → UInt8) :
    Turnover h (h.overwrite span f) blocks blocks [b] [b] := by
  have hframe := (hs.overwrite hb hall span hlo hhi f).2
  apply hs.turnover (Nat.le_of_eq hframe.size.symm) (by simpa using hb)
  · intro x _
    exact mem_iff_mem_singleton_or hb
  · intro pos hne
    by_contra hnot
    apply hne
    apply hframe.byte pos
    rintro ⟨h₁, h₂⟩
    refine hnot (.inr (.inl ⟨b, by simp, ?_⟩))
    unfold BlockInfo.Covers
    omega

lemma Sound.overwrite_payload (hs : h.Sound blocks free) (hb : b ∈ blocks)
    (hall : b.allocated = true) (f : Nat → UInt8) :
    (h.overwrite ⟨b.offset, b.size - 16⟩ f).Sound blocks free ∧
      Turnover h (h.overwrite ⟨b.offset, b.size - 16⟩ f) blocks blocks [b] [b] := by
  have hbounds := hs.laid.bounds hb
  have hin : b.offset + (b.size - 16) ≤ b.offset + b.size - 16 := by omega
  have hlo : b.offset ≤ b.offset := Nat.le_refl _
  exact ⟨(hs.overwrite hb hall ⟨b.offset, b.size - 16⟩ hlo hin f).1,
    hs.turnover_overwrite hb hall ⟨b.offset, b.size - 16⟩ hlo hin f⟩

end Heap

end BlockHeap
