import BlockHeap.Proofs.Contents
import BlockHeap.Proofs.Requests

/-!
# What clearing clears

A block that is handed out again may be larger than what was asked for, and it holds what its last
owner left in it.  `Heap.tryZeroedAllocate` reads the extent of the payload back from the header
that the request has just written, and clears up to the footer.

`Heap.Keeps h blocks pos` names the bytes that a heap keeps for itself: what is in front of the
first block, the tags, the links of the free blocks, and the epilogue.  `Heap.Cleared` says how the
heap with a cleared block differs from the one without: in the usable bytes of the block, all of
which are zero, and in nothing else.  Asking for zeros fails by itself only if the product is no
machine number, and comes to what asking for bytes comes to otherwise, with the payload cleared
(`Session.Reachable.tryZeroedAllocate_clears`).
-/

namespace BlockHeap

namespace Heap

/-- The offset holds a byte that a heap keeps for itself, in the padding and the prologue, in a tag
or a link of a block, or in the epilogue. -/
inductive Keeps (h : Heap) (blocks : List BlockInfo) (pos : Nat) : Prop
  | front (hpos : pos < h.prologue + 8)
  | tag {b : BlockInfo} (hb : b ∈ blocks) (hpos : b.AtTags pos)
  | link (hpos : InFreeSlot blocks pos)
  | epilogue (hpos : h.memory.size - 8 ≤ pos)

/-- The second heap is the first one with the `n` payload bytes of a block cleared; heads, prologue,
configuration and the bounds of the arena are the same. -/
structure Cleared (h h' : Heap) (p : Ptr) (blocks : List BlockInfo) (n : Nat) : Prop where
  rest : h' = h.put h'.memory h.lists
  before : h.blocks = .ok blocks
  after : h'.blocks = .ok blocks
  block : ⟨p.offset, n + 16, true⟩ ∈ blocks
  usableBefore : h.usableSize p = .ok n
  usableAfter : h'.usableSize p = .ok n
  zero : ∀ i < n, h'.memory.byte (p.offset + i) = 0
  frame : Memory.ChangedOnly (fun pos => p.offset ≤ pos ∧ pos < p.offset + n) h.memory h'.memory
  kept : ∀ pos, h.Keeps blocks pos → h'.memory.byte pos = h.memory.byte pos

variable {h h' : Heap} {blocks : List BlockInfo} {free : SizeClass → List BlockInfo}
variable {b : BlockInfo} {p : Ptr} {result : Except HeapError Ptr} {size needed chunk k n pos : Nat}

/-- The payload of an allocated block belongs to its owner. -/
lemma Sound.not_keeps (hs : h.Sound blocks free) (hb : b ∈ blocks) (hall : b.allocated = true)
    (hpos : b.InPayload pos) : ¬ h.Keeps blocks pos := by
  have hcovers := hpos.covers
  have hbounds := hs.laid.covers_bounds hb hcovers
  intro hkeeps
  cases hkeeps with
  | front hfront => omega
  | @tag x hx htag =>
    obtain rfl := hs.laid.eq_of_covers hb hx hcovers (htag.covers (hs.laid.valid x hx))
    unfold BlockInfo.AtTags at htag
    unfold BlockInfo.InPayload at hpos
    omega
  | link hlink => exact hs.laid.not_inFreeSlot hb hall hcovers hlink
  | epilogue htop => omega

/-- **Clearing.**  Clearing the payload of an allocated block does just that. -/
lemma Sound.cleared (hs : h.Sound blocks free) (hb : b ∈ blocks) (hall : b.allocated = true) :
    h.Cleared (h.overwrite ⟨b.offset, b.size - 16⟩ fun _ => 0) ⟨b.offset⟩ blocks (b.size - 16) := by
  have hbounds := hs.laid.bounds hb
  have hpayload : ∀ pos, b.offset ≤ pos ∧ pos < b.offset + (b.size - 16) → b.InPayload pos :=
    fun pos hpos => ⟨hpos.1, by omega⟩
  have hblock : (⟨b.offset, b.size - 16 + 16, true⟩ : BlockInfo) = b := by
    rw [Nat.sub_add_cancel (by omega), ← hall]
  obtain ⟨hs', hframe⟩ := hs.overwrite hb hall ⟨b.offset, b.size - 16⟩ le_rfl
    (show b.offset + (b.size - 16) ≤ b.offset + b.size - 16 by omega) fun _ => 0
  refine ⟨rfl, hs.blocks_eq, hs'.blocks_eq, hblock ▸ hb, hs.usableSize_eq hb, hs'.usableSize_eq hb,
    ?_, hframe, ?_⟩
  · intro i hi
    exact byte_overwrite h ⟨b.offset, b.size - 16⟩ (fun _ => 0) hi
      (show b.offset + i < h.memory.size by omega)
  · intro pos hkeeps
    exact hframe.byte pos fun hpos => hs.not_keeps hb hall (hpayload pos hpos) hkeeps

/-- Asking for zeros goes as asking for as many bytes, and what is served is cleared. -/
lemma Sound.exists_cleared {count : Nat} (hs : h.Sound blocks free)
    (hlt : count * size < Checked.bound) :
    ∃ h₁ h₂ result, (h.tryAllocate (count * size)).outcome = .ok (h₁, result) ∧
      (h.tryZeroedAllocate count size).outcome = .ok (h₂, result) ∧
      (∀ error, result = .error error → h₂ = h₁) ∧
      ∀ p, result = .ok p → ∃ blocks₁ n, h₁.Cleared h₂ p blocks₁ n := by
  obtain ⟨h₁, result, blocks₁, free₁, halloc, hs₁, hanswer⟩ := hs.tryAllocate (count * size)
  cases hanswer with
  | refused error =>
    exact ⟨h, h, _, halloc, tryZeroedAllocate_of_refused hlt halloc, fun _ _ => rfl, nofun⟩
  | served b hall hfresh hroom hturn =>
    have hb : b ∈ blocks₁ := (hturn.mem_iff b hall).2 (.inl (by simp))
    refine ⟨h₁, _, _, halloc, hs₁.tryZeroedAllocate_of_served hb hlt halloc, nofun, ?_⟩
    rintro p ⟨⟩
    exact ⟨blocks₁, _, hs₁.cleared hb hall⟩

/-- Every usable byte of a block that was asked for with zeros is zero. -/
lemma Sound.tryZeroedAllocate_cleared {count i : Nat} (hs : h.Sound blocks free)
    (hzeroed : (h.tryZeroedAllocate count size).outcome = .ok (h', .ok p))
    (hn : h'.usableSize p = .ok n) (hi : i < n) : h'.memory.byte (p.offset + i) = 0 := by
  by_cases hlt : count * size < Checked.bound
  · obtain ⟨h₁, h₂, result, -, hzeroed₂, -, hserved⟩ := hs.exists_cleared hlt
    obtain ⟨rfl, rfl⟩ := Prod.mk.inj (Except.ok.inj (hzeroed₂.symm.trans hzeroed))
    obtain ⟨blocks₁, k, hcleared⟩ := hserved p rfl
    obtain rfl := Except.ok.inj (hcleared.usableAfter.symm.trans hn)
    exact hcleared.zero i hi
  · cases hzeroed.symm.trans (tryZeroedAllocate_of_overflow (Nat.le_of_not_lt hlt))

lemma Decided.ne_overflow (hd : Decided h blocks size needed chunk h' result) :
    result ≠ .error (.overflow k n) := by
  rintro rfl
  by_cases hzero : size = 0
  · cases hd.zeroSize.2 hzero
  by_cases hle : size ≤ Checked.bound - 24
  · by_cases hfits : SomeFits blocks needed
    · obtain ⟨-, p, hserved⟩ := (hd.reused hzero hle).2 hfits
      cases hserved
    by_cases hrefuses : h.arena.Refuses (max needed chunk)
    · obtain ⟨requested, available, hrefused⟩ := (hd.exhausted hzero hle).2 ⟨hfits, hrefuses⟩
      cases hrefused
    · cases ((hd.grown hzero hle).2 ⟨hfits, hrefuses⟩).2
  · obtain ⟨m, hlarge⟩ := hd.tooLarge.2 (Nat.lt_of_not_le hle)
    cases hlarge

end Heap

namespace Session

variable {arena : Arena} {s : Session}

/-- **Asking for zeros.**  Whatever a program has done with a heap, asking for zeros is refused for
the product exactly if the product is no machine number, and then the heap is the old one.
Otherwise the answer is that to the request for as many bytes.  If that is refused the heaps are the
same; if it is served they differ in the payload of the new block, which is cleared up to its
footer, and in no other byte and no head of a list. -/
theorem Reachable.tryZeroedAllocate_clears (hs : Reachable arena s) (count size : Nat) :
    ∃ h' result, (s.heap.tryZeroedAllocate count size).outcome = .ok (h', result) ∧
      ((∃ k n, result = .error (.overflow k n)) ↔ Checked.bound ≤ count * size) ∧
      (Checked.bound ≤ count * size → result = .error (.overflow count size) ∧ h' = s.heap) ∧
      (count * size < Checked.bound →
        ∃ h, (s.heap.tryAllocate (count * size)).outcome = .ok (h, result) ∧
          (∀ error, result = .error error → h' = h) ∧
          ∀ p, result = .ok p → ∃ blocks n, h.Cleared h' p blocks n) := by
  obtain ⟨blocks, free, hh⟩ := hs.holds
  by_cases hlt : count * size < Checked.bound
  · obtain ⟨h, h', result, halloc, hzeroed, hrefused, hserved⟩ := hh.sound.exists_cleared hlt
    have hnever : ¬ ∃ k n, result = .error (.overflow k n) := by
      rintro ⟨k, n, hover⟩
      obtain ⟨h₁, result₁, halloc₁, hdecided⟩ := hh.sound.decided (count * size)
      obtain ⟨rfl, rfl⟩ := Prod.mk.inj (Except.ok.inj (halloc.symm.trans halloc₁))
      exact hdecided.ne_overflow hover
    exact ⟨h', result, hzeroed, iff_of_false hnever (Nat.not_le.2 hlt),
      fun hge => absurd hlt (Nat.not_lt.2 hge), fun _ => ⟨h, halloc, hrefused, hserved⟩⟩
  · have hge := Nat.le_of_not_lt hlt
    exact ⟨_, _, Heap.tryZeroedAllocate_of_overflow hge, iff_of_true ⟨_, _, rfl⟩ hge,
      fun _ => ⟨rfl, rfl⟩, fun hlt' => absurd hlt' hlt⟩

/-- Eight bytes are served from a block with room for 24, which its last owner has filled. -/
theorem Reachable.tryZeroedAllocate_clears_recycled : ∃ (s : Session) (h h' : Heap),
    (s.heap.tryAllocate 8).outcome = .ok (h, .ok ⟨32⟩) ∧ h.memory.byte 48 = 255 ∧
      (s.heap.tryZeroedAllocate 1 8).outcome = .ok (h', .ok ⟨32⟩) ∧
      ∀ i < 24, h'.memory.byte (32 + i) = 0 := by
  obtain ⟨-, s, -, -, hs, hview⟩ := exists_of_attempt ⟨40, 1, 1024⟩ 1024
    [.tryAllocate 8, .write ⟨32⟩ fun _ => 255, .release (some ⟨32⟩)]
    (fun s => (s.heap.tryAllocate 8).outcome.toOption.map fun answer =>
      (answer.2.toOption, answer.1.memory.byte 48, (answer.1.usableSize ⟨32⟩).toOption))
    (a := (some ⟨32⟩, 255, some 24)) (by decide +kernel)
  obtain ⟨⟨h, result⟩, halloc, hview⟩ := Option.map_eq_some_iff.1 hview
  obtain ⟨hresult, hrest⟩ := Prod.mk.inj hview
  obtain ⟨hbyte, husable⟩ := Prod.mk.inj hrest
  obtain rfl := eq_ok_of_toOption hresult
  have halloc := eq_ok_of_toOption halloc
  obtain ⟨h', result, hzeroed, -, -, hserved⟩ := Reachable.tryZeroedAllocate_clears hs 1 8
  obtain ⟨h₁, halloc₁, -, hcleared⟩ := hserved (by decide)
  obtain ⟨rfl, rfl⟩ := Prod.mk.inj (Except.ok.inj (halloc.symm.trans halloc₁))
  obtain ⟨blocks, n, hcleared⟩ := hcleared ⟨32⟩ rfl
  obtain rfl := Except.ok.inj ((eq_ok_of_toOption husable).symm.trans hcleared.usableBefore)
  exact ⟨s, h, h', halloc, hbyte, hzeroed, hcleared.zero⟩

end Session

end BlockHeap
