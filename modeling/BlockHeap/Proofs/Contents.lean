import BlockHeap.Proofs.Resizing

/-!
# What becomes of the bytes of a payload

A turnover tells that the payloads of other blocks stay, and nothing of the block that an operation
is about.  A block that is resized, in whichever of the four ways, keeps as many bytes of its
payload as the old and the new one have in common (`Heap.Sound.resizeBlock_keeps`).
-/

namespace BlockHeap

namespace Memory

variable {m m' : Memory} {start stop i : Nat}

lemma eq_of_byte (hsize : m.size = m'.size) (hbyte : ∀ pos < m.size, m.byte pos = m'.byte pos) :
    m = m' := by
  obtain ⟨bytes⟩ := m
  obtain ⟨bytes'⟩ := m'
  refine congrArg Memory.mk (ByteArray.ext_getElem hsize ?_)
  intro pos hpos hpos'
  have hat := hbyte pos hpos
  rwa [byte, byte, dif_pos hpos, dif_pos hpos'] at hat

lemma get!_slice (hi : start + i < stop) (hstop : stop ≤ m.size) :
    (m.slice start stop).get! i = m.byte (start + i) := by
  have hpos : start + i < m.bytes.size := by
    unfold size at hstop
    omega
  have hlen : i < (m.slice start stop).size := by
    rw [slice, ByteArray.size_extract]
    unfold size at hstop
    omega
  rw [byte, dif_pos hpos, ← ByteArray.getElem_extract hlen]
  exact getElem!_pos (m.slice start stop).data i hlen

/-- Writing to the front of a run of bytes is writing the whole run, with the old bytes behind the
front. -/
lemma overwrite_front (m : Memory) (start : Nat) {size n : Nat} (hle : size ≤ n)
    (f : Nat → UInt8) :
    m.overwrite start size f =
      m.overwrite start n fun i => if i < size then f i else m.byte (start + i) := by
  apply eq_of_byte
  · rw [size_overwrite, size_overwrite]
  · intro pos _
    rw [byte_overwrite, byte_overwrite]
    by_cases hfront : start ≤ pos ∧ pos < start + size ∧ pos < m.size
    · rw [if_pos hfront, if_pos (by omega), if_pos (by omega)]
    · rw [if_neg hfront]
      split
      · rw [if_neg (by omega), Nat.add_sub_cancel' (by omega)]
      · rfl

end Memory

section

variable {m : Memory} {prologue pos : Nat} {blocks : List BlockInfo} {b : BlockInfo}

lemma Laid.not_inFree (h : Laid m prologue blocks) (hb : b ∈ blocks) (hall : b.allocated = true)
    (hpos : b.Covers pos) : ¬ InFree blocks pos := by
  rintro ⟨x, hx, hfree, hin⟩
  rw [← h.eq_of_covers hb hx hpos hin, hall] at hfree
  cases hfree

lemma Laid.not_inFreeSlot (h : Laid m prologue blocks) (hb : b ∈ blocks)
    (hall : b.allocated = true) (hpos : b.Covers pos) : ¬ InFreeSlot blocks pos :=
  fun hlink => h.not_inFree hb hall hpos (hlink.inFree h.valid)

end

namespace Heap

variable {h h' : Heap} {blocks : List BlockInfo} {free : SizeClass → List BlockInfo}
variable {pre post : List BlockInfo} {b x t : BlockInfo} {q : Ptr} {size needed i : Nat}

lemma byte_overwrite (h : Heap) (span : Span) (f : Nat → UInt8) (hi : i < span.length)
    (hin : span.start + i < h.memory.size) :
    (h.overwrite span f).memory.byte (span.start + i) = f i := by
  refine (Memory.byte_overwrite ..).trans ?_
  rw [if_pos ⟨Nat.le_add_right .., Nat.add_lt_add_left hi _, hin⟩, Nat.add_sub_cancel_left]

/-- Writing to the front of a part is writing the whole part, with the old bytes behind the
front. -/
lemma overwrite_front (h : Heap) (start : Nat) {n : Nat} (hle : size ≤ n) (f : Nat → UInt8) :
    h.overwrite ⟨start, size⟩ f =
      h.overwrite ⟨start, n⟩ fun i => if i < size then f i else h.memory.byte (start + i) := by
  obtain ⟨⟨memory, limit, backing⟩, lists, prologue, config⟩ := h
  exact congrArg (fun m => Heap.mk ⟨m, limit, backing⟩ lists prologue config)
    (Memory.overwrite_front memory start hle f)

/-! ## Resizing -/

/-- Cutting a block down leaves its front alone. -/
lemma Sound.shrink_keeps {m : Memory} (hs : h.Sound (pre ++ b :: post) free)
    (hall : b.allocated = true) (hi : i + 16 < needed) (hle : needed ≤ b.size)
    (hframe : Memory.ChangedOnly
      (fun pos => (b.front needed).AtTags pos ∨
        (joint (pre ++ [b.front needed]) (b.back needed) post).Covers pos ∨
        InFreeSlot (pre ++ post) pos) h.memory m) :
    m.byte (b.offset + i) = h.memory.byte (b.offset + i) := by
  have hb : b ∈ pre ++ b :: post := by simp
  have hbounds := hs.laid.bounds hb
  have hin : b.Covers (b.offset + i) := by
    unfold BlockInfo.Covers
    omega
  apply hframe.byte
  rintro (hpos | hpos | hpos)
  · simp only [BlockInfo.AtTags, BlockInfo.front] at hpos
    omega
  · -- the rest starts behind the front
    simp only [joint_back, BlockInfo.Covers] at hpos
    omega
  · exact hs.laid.not_inFreeSlot hb hall hin (hpos.mono (by simp))

/-- Taking in the block behind it leaves the payload of a block alone. -/
lemma Sound.absorb_keeps {m : Memory} (hs : h.Sound (pre ++ b :: x :: post) free)
    (hall : b.allocated = true) (hi : i + 16 < b.size)
    (hframe : Memory.ChangedOnly
      (fun pos => (merged b x).AtTags pos ∨ InFreeSlot (pre ++ b :: x :: post) pos) h.memory m) :
    m.byte (b.offset + i) = h.memory.byte (b.offset + i) := by
  have hb : b ∈ pre ++ b :: x :: post := by simp
  have hbounds := hs.laid.bounds hb
  have hin : b.Covers (b.offset + i) := by
    unfold BlockInfo.Covers
    omega
  apply hframe.byte
  rintro (hpos | hpos)
  · simp only [BlockInfo.AtTags, merged] at hpos
    omega
  · exact hs.laid.not_inFreeSlot hb hall hin hpos

/-- A payload that has moved is in the new block. -/
lemma Sound.move_keeps (hs : h.Sound blocks free) (hb : b ∈ blocks) (hall : b.allocated = true)
    (hmove : (h.move b.offset b.size size).outcome = .ok (h', some q)) (hi : i + 16 < b.size)
    (hisize : i < size) : h'.memory.byte (q.offset + i) = h.memory.byte (b.offset + i) := by
  obtain ⟨h₁, result, blocks₁, free₁, halloc, hs₁, hanswer⟩ := hs.allocate size
  cases hanswer with
  | refused error =>
    simp only [Heap.move, Traced.outcome_bind, halloc, Fault.ok_bind] at hmove
    cases hmove
  | served t htall hfresh hroom hturn =>
    have hbt : b ≠ t := fun he => hfresh (he ▸ hb)
    have hb₁ : b ∈ blocks₁ := (hturn.mem_iff b hall).2 (.inr ⟨hb, by simp⟩)
    have ht₁ : t ∈ blocks₁ := (hturn.mem_iff t htall).2 (.inl (by simp))
    have hbounds := hs₁.laid.bounds hb₁
    have htbounds := hs₁.laid.bounds ht₁
    rw [hs₁.move_eq hb₁ ht₁ hroom halloc] at hmove
    generalize hf : (fun i => (h₁.memory.slice b.offset
      (b.offset + min (b.size - 16) size)).get! i) = f at hmove
    set span : Span := ⟨t.offset, min (b.size - 16) size⟩ with hspan
    have hspanIn : span.start + span.length ≤ t.offset + t.size - 16 := by
      simp only [hspan]
      omega
    obtain ⟨hs₂, -⟩ := hs₁.overwrite ht₁ htall span (Nat.le_refl _) hspanIn f
    obtain ⟨pre, post, rfl⟩ := List.append_of_mem hb₁
    obtain ⟨m, lists, hrelease, -, hframe⟩ := hs₂.releaseBlock hall
    rw [hrelease] at hmove
    obtain ⟨rfl, hq⟩ := Prod.mk.inj (Except.ok.inj hmove)
    obtain rfl := Option.some.inj hq
    have htcovers : t.Covers (t.offset + i) := by
      unfold BlockInfo.Covers
      omega
    have hbcovers : b.Covers (b.offset + i) := by
      unfold BlockInfo.Covers
      omega
    calc m.byte (t.offset + i)
        = (h₁.overwrite span f).memory.byte (t.offset + i) :=
          (hs₂.turnover_release lists hframe).kept t ht₁ htall (by simpa using hbt.symm) _ htcovers
      _ = f i := byte_overwrite h₁ span f (by simp only [hspan]; omega)
          (by simp only [hspan]; omega)
      _ = h₁.memory.byte (b.offset + i) := by
          rw [← hf]
          exact Memory.get!_slice (by omega) (by omega)
      _ = h.memory.byte (b.offset + i) := hturn.kept b hb hall (by simp) _ hbcovers

/-- **Resizing keeps what fits.**  A block that could be resized holds what it held, as far as it
was asked for and there was something. -/
lemma Sound.resizeBlock_keeps (hs : h.Sound blocks free) (hb : b ∈ blocks)
    (hall : b.allocated = true)
    (hresize : (h.resizeBlock ⟨b.offset⟩ size).outcome = .ok (h', some q)) (hi : i + 16 < b.size)
    (hisize : i < size) : h'.memory.byte (q.offset + i) = h.memory.byte (b.offset + i) := by
  obtain ⟨haligned, hmin, hroom⟩ := blockFor_spec size
  obtain ⟨pre, post, rfl⟩ := List.append_of_mem hb
  rw [hs.resizeBlock_eq] at hresize
  split_ifs at hresize with hlt heq hless hfits
  · cases hresize
    rfl
  · by_cases hsplit : 32 ≤ b.size - blockFor size
    · obtain ⟨m, lists, hshrink, -, hframe⟩ := hs.shrink_of_split hall haligned hmin hsplit
      rw [hshrink] at hresize
      cases hresize
      exact hs.shrink_keeps hall (by omega) (Nat.le_of_lt hless) hframe
    · rw [shrink_of_not_split h (Nat.le_of_lt hless) hsplit] at hresize
      cases hresize
      rfl
  · obtain ⟨x, post, rfl, hfree, -⟩ := exists_of_any_firstFree? hfits
    obtain ⟨m, lists, habsorb, -, hframe⟩ := hs.absorbNext hall hfree
    rw [habsorb] at hresize
    cases hresize
    exact hs.absorb_keeps hall hi hframe
  · exact hs.move_keeps hb hall hresize hi hisize
  · cases hresize

end Heap

end BlockHeap
