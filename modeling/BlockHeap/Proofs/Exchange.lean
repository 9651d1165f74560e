import BlockHeap.Proofs.Stamps

/-!
# Exchanging blocks of a heap

All writes of tags have one effect on what a heap shows: some blocks, none of them on a list, give
way to others of the same extent.  `Heap.Shows.exchange` states this for any write inside the
extent.  `Heap.Shows.rewrite` is the case of one new block and `Heap.Shows.split` that of two; both
compute the write as well.
-/

namespace BlockHeap

namespace Heap.Shows

variable {h : Heap} {pre mid mid' post : List BlockInfo} {free : SizeClass → List BlockInfo}
variable {lo hi : Nat}

/-- **Exchange.**  Blocks that are on no list give way to others of the same extent, if the write
stays inside the extent and leaves the tags of the new ones there. -/
lemma exchange {m : Memory} (hh : h.Shows (pre ++ (mid ++ post)) mid free)
    (hpre : Tiles (h.prologue + 16) pre lo) (hmid : Tiles lo mid' hi)
    (hpost : Tiles hi post h.memory.size)
    (hm : Memory.ChangedOnly (fun pos => lo - 8 ≤ pos ∧ pos < hi - 8) h.memory m)
    (hvalid : ∀ b ∈ mid', b.Valid) (htags : ∀ b ∈ mid', b.Tagged m) :
    (h.put m h.lists).Shows (pre ++ (mid' ++ post)) mid' free := by
  have hroom := hh.laid.prologue_room
  have hlo := hpre.le
  have hhi := hpost.le
  have hlohi := hmid.le
  -- the old blocks filled the same extent
  obtain ⟨lo', hpre', hmidpost⟩ := tiles_append.1 hh.laid.tiles
  obtain rfl := hpre.unique hpre'
  obtain ⟨hi', hold, hpost'⟩ := tiles_append.1 hmidpost
  have hout : ∀ b ∈ pre ++ post, (b.offset + b.size ≤ lo ∨ lo ≤ b.offset ∧ hi ≤ b.offset) ∧
      (b.offset + b.size ≤ lo ∨ lo ≤ b.offset ∧ hi' ≤ b.offset) ∧ 32 ≤ b.size := by
    intro b hb
    have hsize := (hh.laid.valid b (by simp only [List.mem_append] at hb ⊢; tauto)).2
    rcases List.mem_append.1 hb with hb | hb
    · have := hpre.bounds hb
      omega
    · have h₁ := hpost.bounds hb
      have h₂ := hpost'.bounds hb
      have := hold.le
      omega
  refine ⟨hh.laid.replace hpre hmid hpost hm hvalid htags, ?_⟩
  apply (hh.listed.of_changedOnly hm ?_).replace
  · intro b hb hin
    have h₁ := hout b hb
    have h₂ := hold.bounds hin
    omega
  · intro b hb hin
    have h₁ := hout b hb
    have h₂ := hmid.bounds hin
    omega
  · intro b hb _ hskip pos hpos ht
    have := hout b (by simp only [List.mem_append] at hb ⊢; tauto)
    unfold Link.InSlot at hpos
    omega

lemma rewrite (b : BlockInfo) (hh : h.Shows (pre ++ (mid ++ post)) mid free)
    (hpre : Tiles (h.prologue + 16) pre b.offset)
    (hpost : Tiles (b.offset + b.size) post h.memory.size) (hvalid : b.Valid) :
    ∃ m, Block.write h.memory b.offset b.tag = .ok m ∧
      (h.put m h.lists).Shows (pre ++ (b :: post)) [b] free ∧
      Memory.ChangedOnly b.AtTags h.memory m := by
  have hroom := hh.laid.prologue_room
  have hsmall := hh.laid.size_lt
  have hlo := hpre.le
  have hhi := hpost.le
  have hsize := hvalid.2
  have htag := BlockInfo.size_tag hvalid (by omega)
  have hframe := BlockInfo.setTags_changedOnly h.memory (by omega) hvalid
  refine ⟨Block.setTags h.memory b.offset b.size b.tag, ?_, ?_, hframe⟩
  · rw [Block.write_eq (by omega) (by omega) (by omega) hsmall, htag]
  · refine hh.exchange hpre (show Tiles b.offset [b] _ from ⟨rfl, rfl⟩) hpost
      (hframe.mono fun pos hpos => hpos.covers hvalid) ?_ ?_
    · simpa using hvalid
    · simpa using BlockInfo.tagged_setTags (by omega) hvalid (by omega)

/-- Two blocks, one after the other, take the place of blocks that are on no list. -/
lemma split (used rest : BlockInfo) (hh : h.Shows (pre ++ (mid ++ post)) mid free)
    (hpre : Tiles (h.prologue + 16) pre used.offset) (hrest : rest.offset = used.offset + used.size)
    (hpost : Tiles (rest.offset + rest.size) post h.memory.size) (hused : used.Valid)
    (hrestValid : rest.Valid) :
    ∃ m₁ m, Block.write h.memory used.offset used.tag = .ok m₁ ∧
      Block.write m₁ rest.offset rest.tag = .ok m ∧
      (h.put m h.lists).Shows (pre ++ (used :: rest :: post)) [used, rest] free ∧
      Memory.Stamped (fun _ => False) [used, rest] h.memory m := by
  have hroom := hh.laid.prologue_room
  have hsmall := hh.laid.size_lt
  have hlo := hpre.le
  have hhi := hpost.le
  have hsize := hused.2
  have hsize' := hrestValid.2
  have htag := BlockInfo.size_tag hused (by omega)
  have htag' := BlockInfo.size_tag hrestValid (by omega)
  set m₁ := Block.setTags h.memory used.offset used.size used.tag with hm₁
  have hm₁size : m₁.size = h.memory.size := Block.size_setTags ..
  have hframe₁ := BlockInfo.setTags_changedOnly h.memory (by omega) hused
  have hframe₂ := BlockInfo.setTags_changedOnly m₁ (show 8 ≤ rest.offset by omega) hrestValid
  have htagged₁ : used.Tagged m₁ := BlockInfo.tagged_setTags (by omega) hused (by omega)
  have htagged₂ : rest.Tagged (Block.setTags m₁ rest.offset rest.size rest.tag) :=
    BlockInfo.tagged_setTags (by omega) hrestValid (by omega)
  refine ⟨m₁, _, ?_, ?_, ?_,
    .cons (by omega) hused htagged₁ (hframe₁.mono fun _ => .inl) <|
      .cons (by omega) hrestValid htagged₂ (hframe₂.mono fun _ => .inl) (.nil (.refl _ _))⟩
  · rw [Block.write_eq (by omega) (by omega) (by omega) hsmall, htag]
  · rw [Block.write_eq (by omega) (by omega) (by omega) (by omega), htag']
  · refine hh.exchange hpre (show Tiles used.offset [used, rest] _ from ⟨rfl, hrest, ?_⟩) hpost
      ((hframe₁.mono fun pos hpos => ?_).trans (hframe₂.mono fun pos hpos => ?_)) ?_ ?_
    · show used.offset + used.size + rest.size = _
      rw [hrest]
    · have := hpos.covers hused
      unfold BlockInfo.Covers at this
      omega
    · have := hpos.covers hrestValid
      unfold BlockInfo.Covers at this
      omega
    · simpa using ⟨hused, hrestValid⟩
    · have hkept : used.Tagged (Block.setTags m₁ rest.offset rest.size rest.tag) :=
        htagged₁.of_changedOnly (hframe₂.mono fun pos hpos => hpos.covers hrestValid) (by omega)
          hused (by omega)
      simpa using ⟨hkept, htagged₂⟩

end Heap.Shows

end BlockHeap
