import BlockHeap.Proofs.Contents
import BlockHeap.Proofs.Sessions

/-!
# What resizing comes to

Of the ways to resize a block its owner sees two.  If block and free space behind it are
enough together, the pointer stays and so does the arena (`Heap.Sound.resizeBlock_inPlace`), be
the block cut down, left alone or joined with what is behind it.  If they are not, resizing is a
request and a release one after the other: it is refused if the request is, and leaves the blocks
that those two leave (`Heap.Sound.move_layout`).

`Session.Reachable.resize_live` puts both together with what holds either way: there is room for
what was asked for, and as much of the payload is there as fits.
-/

namespace BlockHeap

namespace Heap

variable {h h' : Heap} {pre post blocks : List BlockInfo} {free : SizeClass → List BlockInfo}
variable {b : BlockInfo} {size : Nat} {result : Option Ptr}

lemma blockSize?_eq_none_iff (size : Nat) :
    blockSize? size = none ↔ Checked.bound - 24 < size := by
  rw [blockSize?_eq]
  unfold Checked.bound
  split
  · exact iff_of_false nofun (by omega)
  · exact iff_of_true rfl (by omega)

/-- The allocated block of the pointer and the free block behind it, if there is one, have `n` bytes
together. -/
def Reaches (h : Heap) (p : Ptr) (n : Nat) : Prop :=
  ∃ pre b post free, h.Sound (pre ++ b :: post) free ∧ b.allocated = true ∧ p = ⟨b.offset⟩ ∧
    n ≤ b.size + (firstFree? post).elim 0 BlockInfo.size

lemma Sound.reaches_of_shrink {needed : Nat}
    (hs : h.Sound (joined (pre ++ [b.front needed]) (b.back needed) post) free)
    (hle : needed ≤ b.size) :
    h.Reaches ⟨b.offset⟩ (b.size + (firstFree? post).elim 0 BlockInfo.size) := by
  have hlast : lastFree? (pre ++ [b.front needed]) = none := by simp [BlockInfo.front]
  have hbefore : beforeJoint (pre ++ [b.front needed]) = pre ++ [b.front needed] := by
    rw [beforeJoint, hlast]
    rfl
  rw [joined, hbefore, ← List.append_cons] at hs
  refine ⟨pre, b.front needed, _, free, hs, rfl, rfl, ?_⟩
  rw [firstFree?_cons, if_neg (by simp [joint]), Option.elim_some, joint, hlast]
  simp only [BlockInfo.front, BlockInfo.back, Option.elim_none]
  omega

lemma Sound.reaches_of_absorb {x : BlockInfo} (hs : h.Sound (pre ++ merged b x :: post) free) :
    h.Reaches ⟨b.offset⟩ (b.size + x.size) :=
  ⟨pre, merged b x, post, free, hs, rfl, rfl, Nat.le_add_right ..⟩

/-- **In place.**  A block that is large enough, alone or with the free block behind it, stays where
it is, and the arena does not grow.  The two stay as large together. -/
lemma Sound.resizeBlock_inPlace (hs : h.Sound (pre ++ b :: post) free) (hall : b.allocated = true)
    (hlt : size + 23 < Checked.bound)
    (hle : blockFor size ≤ b.size + (firstFree? post).elim 0 BlockInfo.size) :
    ∃ h', (h.resizeBlock ⟨b.offset⟩ size).outcome = .ok (h', some ⟨b.offset⟩) ∧
      h'.memory.size = h.memory.size ∧
      h'.Reaches ⟨b.offset⟩ (b.size + (firstFree? post).elim 0 BlockInfo.size) := by
  obtain ⟨haligned, hmin, -⟩ := blockFor_spec size
  have hreaches : h.Reaches ⟨b.offset⟩ (b.size + (firstFree? post).elim 0 BlockInfo.size) :=
    ⟨pre, b, post, free, hs, hall, rfl, Nat.le_refl _⟩
  rw [hs.resizeBlock_eq, if_pos hlt]
  split_ifs with heq hless hfits
  · exact ⟨h, rfl, rfl, hreaches⟩
  · by_cases hsplit : 32 ≤ b.size - blockFor size
    · obtain ⟨m, lists, hshrink, hsound, hframe⟩ := hs.shrink_of_split hall haligned hmin hsplit
      exact ⟨h.put m lists, by rw [hshrink]; rfl, hframe.size,
        hsound.reaches_of_shrink (Nat.le_of_lt hless)⟩
    · refine ⟨h, ?_, rfl, hreaches⟩
      rw [shrink_of_not_split h (Nat.le_of_lt hless) hsplit]
      rfl
  · obtain ⟨x, post, rfl, hfree, -⟩ := exists_of_any_firstFree? hfits
    obtain ⟨m, lists, habsorb, hsound, hframe⟩ := hs.absorbNext hall hfree
    rw [firstFree?_cons, hfree, if_neg Bool.false_ne_true, Option.elim_some]
    exact ⟨h.put m lists, by rw [habsorb]; rfl, hframe.size, hsound.reaches_of_absorb⟩
  · -- with no free block behind it, the block alone would have to be enough
    cases hfirst : firstFree? post with
    | none =>
      rw [hfirst, Option.elim_none] at hle
      omega
    | some x => simp [hfirst] at hfits hle; omega

lemma Sound.resizeBlock_of_lt (hs : h.Sound (pre ++ b :: post) free)
    (hlt : size + 23 < Checked.bound)
    (hsmall : b.size + (firstFree? post).elim 0 BlockInfo.size < blockFor size) :
    (h.resizeBlock ⟨b.offset⟩ size).outcome = (h.move b.offset b.size size).outcome := by
  rw [hs.resizeBlock_eq, if_pos hlt, if_neg (by omega), if_neg (by omega), if_neg]
  cases hfirst : firstFree? post with
  | none => simp
  | some x =>
    rw [hfirst, Option.elim_some] at hsmall
    simpa using hsmall

/-- What is left by a request for `size` bytes that was answered by `q`, and a release of `p` after
it: the blocks of `h'`, in an arena as large. -/
def AsAfterRelease (h₁ : Heap) (p q : Ptr) (h' : Heap) : Prop :=
  q ≠ p ∧ ∃ h₂ layout, (h₁.release (some p)).outcome = .ok h₂ ∧ h₂.blocks = .ok layout ∧
    h'.blocks = .ok layout ∧ h'.memory.size = h₂.memory.size

/-- **By moving.**  A move has the answer of a request, and leaves the blocks of a request and a
release. -/
lemma Sound.move_layout (hs : h.Sound blocks free) (hb : b ∈ blocks) (hall : b.allocated = true)
    (size : Nat) :
    ∃ h₁ answer h', (h.tryAllocate size).outcome = .ok (h₁, answer) ∧
      (h.move b.offset b.size size).outcome = .ok (h', answer.toOption) ∧
      ∀ q, answer = .ok q → h₁.AsAfterRelease ⟨b.offset⟩ q h' := by
  obtain ⟨h₁, answer, blocks₁, free₁, halloc, hs₁, hanswer⟩ := hs.tryAllocate size
  have hallocate := allocate_eq_ok halloc
  cases hanswer with
  | refused error =>
    refine ⟨h, .error error, h, halloc, ?_, ?_⟩
    · simp only [Heap.move, Traced.outcome_bind, hallocate, Fault.ok_bind]
      rfl
    · rintro q ⟨⟩
  | served t htall hfresh hroom hturn =>
    have hbt : b ≠ t := fun he => hfresh (he ▸ hb)
    have hb₁ : b ∈ blocks₁ := (hturn.mem_iff b hall).2 (.inr ⟨hb, List.not_mem_nil⟩)
    have ht₁ : t ∈ blocks₁ := (hturn.mem_iff t htall).2 (.inl (by simp))
    have hptr : (⟨t.offset⟩ : Ptr) ≠ ⟨b.offset⟩ := fun he =>
      hbt (hs₁.laid.eq_of_offset hb₁ ht₁ (congrArg Ptr.offset he).symm)
    obtain ⟨pre, post, rfl⟩ := List.append_of_mem hb₁
    obtain ⟨m, lists, hmove, hsize, hs', -⟩ :=
      hs₁.move_of_served hall ht₁ htall hbt hroom hallocate
    -- a release without the copy joins the same blocks
    obtain ⟨m₂, lists₂, hrelease, hs₂, hframe⟩ := hs₁.releaseBlock hall
    refine ⟨h₁, _, _, halloc, hmove, ?_⟩
    rintro _ ⟨⟩
    exact ⟨hptr, _, _, hrelease, hs₂.blocks_eq, hs'.blocks_eq, hsize.trans hframe.size.symm⟩

/-- **What resizing comes to**, for a pointer whose block has `old` bytes with `behind` free ones
after it.  The pointer stays if these are enough, and otherwise the answer is that of a request.  A
pointer that is returned has room, and as much of the payload as fits; if none is returned nothing
has changed. -/
structure Resizes (h : Heap) (p : Ptr) (size old behind : Nat) (h' : Heap) (result : Option Ptr) :
    Prop where
  inPlace : ∀ needed, blockSize? size = some needed → needed ≤ old + behind →
    result = some p ∧ h'.memory.size = h.memory.size
  moved : ∀ needed, blockSize? size = some needed → old + behind < needed →
    ∃ h₁ answer, (h.tryAllocate size).outcome = .ok (h₁, answer) ∧ result = answer.toOption ∧
      ∀ q, answer = .ok q → h₁.AsAfterRelease p q h'
  tooLarge : Checked.bound - 24 < size → result = none
  kept : ∀ q, result = some q → ∃ usable usable', h.usableSize p = .ok usable ∧
    h'.usableSize q = .ok usable' ∧ size ≤ usable' ∧
    ∀ i < min usable size, h'.memory.byte (q.offset + i) = h.memory.byte (p.offset + i)
  refused : result = none → h' = h

/-- What is returned has room for what was asked for and keeps what it held. -/
lemma Sound.resizeBlock_usable (hs : h.Sound blocks free) (hb : b ∈ blocks)
    (hall : b.allocated = true) {q : Ptr}
    (hresize : (h.resizeBlock ⟨b.offset⟩ size).outcome = .ok (h', some q)) :
    ∃ usable usable', h.usableSize ⟨b.offset⟩ = .ok usable ∧ h'.usableSize q = .ok usable' ∧
      size ≤ usable' ∧
      ∀ i < min usable size, h'.memory.byte (q.offset + i) = h.memory.byte (b.offset + i) := by
  obtain ⟨h'', result, blocks', free', hresize', hs', hresized⟩ := hs.resizeBlock hb hall size
  obtain ⟨rfl, rfl⟩ := Prod.mk.inj (Except.ok.inj (hresize'.symm.trans hresize))
  cases hresized with
  | served b' hall' hfresh hroom hturn =>
    have hb' : b' ∈ blocks' := (hturn.mem_iff b' hall').2 (.inl (by simp))
    refine ⟨_, _, hs.usableSize_eq hb, hs'.usableSize_eq hb', by omega, ?_⟩
    intro i hi
    exact hs.resizeBlock_keeps hb hall hresize (by omega) (by omega)

lemma Sound.resizes (hs : h.Sound (pre ++ b :: post) free) (hall : b.allocated = true)
    (size : Nat) :
    ∃ h' result, (h.resizeBlock ⟨b.offset⟩ size).outcome = .ok (h', result) ∧
      h.Resizes ⟨b.offset⟩ size b.size ((firstFree? post).elim 0 BlockInfo.size) h' result := by
  have hb : b ∈ pre ++ b :: post := by simp
  obtain ⟨h', result, blocks', free', hresize, -, hresized⟩ := hs.resizeBlock hb hall size
  refine ⟨h', result, hresize, ?_, ?_, ?_, ?_, ?_⟩
  · intro needed hsome hle
    obtain ⟨hlt, rfl⟩ := blockSize?_eq_some_iff.1 hsome
    obtain ⟨h'', hstays, hsize, -⟩ := hs.resizeBlock_inPlace hall hlt hle
    obtain ⟨rfl, rfl⟩ := Prod.mk.inj (Except.ok.inj (hresize.symm.trans hstays))
    exact ⟨rfl, hsize⟩
  · intro needed hsome hsmall
    obtain ⟨hlt, rfl⟩ := blockSize?_eq_some_iff.1 hsome
    obtain ⟨h₁, answer, h'', halloc, hmove, hlayout⟩ := hs.move_layout hb hall size
    rw [hs.resizeBlock_of_lt hlt hsmall, hmove] at hresize
    obtain ⟨rfl, rfl⟩ := Prod.mk.inj (Except.ok.inj hresize)
    exact ⟨h₁, answer, halloc, rfl, hlayout⟩
  · intro hlarge
    rw [Heap.resizeBlock, (blockSize?_eq_none_iff size).2 hlarge] at hresize
    cases hresize
    rfl
  · rintro q rfl
    exact hs.resizeBlock_usable hb hall hresize
  · rintro rfl
    cases hresized
    rfl

/-! ## No bytes, no pointer -/

lemma resize_zero (h : Heap) (ptr : Option Ptr) :
    h.resize ptr 0 = (fun h' => (h', none)) <$> h.release ptr :=
  (map_eq_pure_bind _ _).symm

lemma resize_none (h : Heap) (size : Nat) : h.resize none size = h.allocate size := by
  by_cases hsize : size = 0
  · subst hsize
    simp [Heap.resize, Heap.allocate, Heap.tryAllocate, Heap.release, Except.toOption]
  · rw [Heap.resize, if_neg hsize]

end Heap

namespace Session

variable {arena : Arena} {s : Session} {p : Ptr}

/-- **What resizing a live pointer comes to.**  Whatever a program has done with a heap, a live
pointer has a block, and resizing it to some bytes goes as its size and the free bytes behind it
have it; resizing it to none is giving it back, and resizing no pointer is asking for one. -/
theorem Reachable.resize_live (hs : Reachable arena s) (hp : p ∈ s.live) :
    (∃ pre old post, s.heap.blocks = .ok (pre ++ ⟨p.offset, old, true⟩ :: post) ∧
      ∀ size ≠ 0, ∃ h' result, (s.heap.resize (some p) size).outcome = .ok (h', result) ∧
        s.heap.Resizes p size old ((firstFree? post).elim 0 BlockInfo.size) h' result) ∧
    (∀ size, blockSize? size = none ↔ Checked.bound - 24 < size) ∧
    (∃ h', (s.heap.release (some p)).outcome = .ok h') ∧
    s.heap.resize (some p) 0 = (fun h' => (h', none)) <$> s.heap.release (some p) ∧
    ∀ size, s.heap.resize none size = s.heap.allocate size := by
  obtain ⟨blocks, free, hh⟩ := hs.holds
  obtain ⟨⟨offset, old, allocated⟩, hb, rfl, rfl⟩ := hh.exists_block hp
  obtain ⟨pre, post, rfl⟩ := List.append_of_mem hb
  refine ⟨⟨pre, old, post, hh.sound.blocks_eq, ?_⟩, Heap.blockSize?_eq_none_iff, ?_,
    s.heap.resize_zero _, s.heap.resize_none⟩
  · intro size hsize
    rw [Heap.resize, if_neg hsize]
    exact hh.sound.resizes rfl size
  · obtain ⟨m, lists, hrelease, -, -⟩ := hh.sound.releaseBlock rfl
    exact ⟨_, hrelease⟩

/-- A block of 32 bytes with as many free ones behind it has room for 48 without moving. -/
theorem Reachable.resize_live_small :
    ∃ s : Session, s.live = [⟨64⟩, ⟨32⟩] ∧ ∃ h' usable,
      (s.heap.resize (some ⟨64⟩) 48).outcome = .ok (h', some ⟨64⟩) ∧
        h'.memory.size = s.heap.memory.size ∧ h'.usableSize ⟨64⟩ = .ok usable ∧ 48 ≤ usable := by
  obtain ⟨s, hs, hlive, hblocks⟩ := exists_small
  obtain ⟨⟨pre, old, post, hblocks', hresize⟩, -⟩ :=
    Reachable.resize_live hs (p := ⟨64⟩) (by simp [hlive])
  obtain ⟨h', result, houtcome, hresizes⟩ := hresize 48 (by decide)
  have hsplit := Except.ok.inj (hblocks'.symm.trans hblocks)
  obtain ⟨-, rfl, rfl⟩ : pre = [⟨32, 32, true⟩] ∧ old = 32 ∧ post = [⟨96, 32, false⟩] := by
    simpa [List.append_eq_cons_iff, List.cons_eq_append_iff] using hsplit
  obtain ⟨rfl, hsize⟩ := hresizes.inPlace 64 (by decide) (by decide)
  obtain ⟨-, usable, -, husable, hroom, -⟩ := hresizes.kept _ rfl
  exact ⟨s, hlive, h', usable, houtcome, hsize, husable, hroom⟩

end Session

end BlockHeap
