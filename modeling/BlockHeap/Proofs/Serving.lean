import BlockHeap.Proofs.Agreement
import BlockHeap.Proofs.Clearing
import BlockHeap.Proofs.ReleaseOrder

/-!
# What a program can count on

A program that keeps books of its own about a heap wants to know, for the call it has just made,
what to write into them.  `Session.Advance` is what holds after every call: the session is one that
a program can come to, the other live pointers are unaffected, and the arena has not become smaller.
`Session.Served` adds what there is to know of a request: a pointer with room for what was asked
for, or no pointer and the old heap.

Each call that a replay makes has one lemma here, from `Session.Reachable.exists_tryAllocate` to
`Session.Reachable.fill`, and none of them mentions blocks.  Nor does the bound on what the live
pointers can be good for together (`Session.Reachable.occupancy`).
-/

namespace BlockHeap

/-- Every block has tags, and what is left of the allocated ones is payload. -/
lemma sum_allocated_le {blocks : List BlockInfo} (hvalid : ∀ b ∈ blocks, b.Valid) :
    ((blocks.filter (·.allocated)).map fun b => b.size - 16).sum + 16 * blocks.length ≤
      totalSize blocks := by
  induction blocks with
  | nil => exact Nat.le_refl _
  | cons b rest ih =>
    obtain ⟨hb, hrest⟩ := List.forall_mem_cons.1 hvalid
    have hsize := hb.2
    have := ih hrest
    rw [totalSize, List.length_cons]
    cases hall : b.allocated with
    | false =>
      simp only [List.filter_cons, hall, Bool.false_eq_true, if_false]
      omega
    | true =>
      simp only [List.filter_cons, hall, if_true, List.map_cons, List.sum_cons]
      omega

namespace Heap

variable {h h' : Heap} {blocks : List BlockInfo} {free : SizeClass → List BlockInfo}
variable {b : BlockInfo} {p : Ptr} {count size : Nat} {f : Nat → UInt8}
variable {result : Except HeapError Ptr}

/-- The payload of the pointer has room for so many bytes. -/
def HasRoom (h : Heap) (p : Ptr) (size : Nat) : Prop := ∃ n, h.usableSize p = .ok n ∧ size ≤ n

/-- The payload of the pointer starts with so many bytes `f 0`, `f 1`, …. -/
structure Stores (h : Heap) (p : Ptr) (size : Nat) (f : Nat → UInt8) : Prop where
  room : h.HasRoom p size
  byte : ∀ i < size, h.memory.byte (p.offset + i) = f i

lemma Stores.agrees (hh : h.Stores p size f) : h.agrees ⟨p.offset, size⟩ f = true :=
  (Memory.agrees_iff ..).2 hh.byte

lemma Sound.hasRoom (hs : h.Sound blocks free) (hb : b ∈ blocks) (hroom : size + 16 ≤ b.size) :
    h.HasRoom ⟨b.offset⟩ size :=
  ⟨_, hs.usableSize_eq hb, Nat.le_sub_of_add_le hroom⟩

/-- How many bytes a pointer is good for. -/
def capacity (h : Heap) (p : Ptr) : Nat := (h.usableSize p).toOption.getD 0

lemma HasRoom.le_capacity (hroom : h.HasRoom p size) : size ≤ h.capacity p := by
  obtain ⟨n, hn, hle⟩ := hroom
  rw [capacity, hn]
  exact hle

lemma Sound.capacity_eq (hs : h.Sound blocks free) (hb : b ∈ blocks) :
    h.capacity ⟨b.offset⟩ = b.size - 16 := by
  rw [capacity, hs.usableSize_eq hb]
  rfl

lemma lt_bound_of_tryZeroedAllocate
    (halloc : (h.tryZeroedAllocate count size).outcome = .ok (h', .ok p)) :
    count * size < Checked.bound := by
  by_contra hlt
  rw [Heap.tryZeroedAllocate, if_neg hlt] at halloc
  cases halloc

/-- Zeros are refused for want of a size exactly if none are asked for. -/
lemma Sound.tryZeroedAllocate_zeroSize_iff (hs : h.Sound blocks free)
    (halloc : (h.tryZeroedAllocate count size).outcome = .ok (h', result)) :
    result = .error .zeroSize ↔ count * size = 0 := by
  by_cases hlt : count * size < Checked.bound
  · obtain ⟨h₁, h₂, result₂, halloc₁, halloc₂, -⟩ := hs.exists_cleared hlt
    obtain ⟨-, rfl⟩ := Prod.mk.inj (Except.ok.inj (halloc₂.symm.trans halloc))
    obtain ⟨h₃, result₃, halloc₃, hdecided⟩ := hs.decided (count * size)
    obtain ⟨-, rfl⟩ := Prod.mk.inj (Except.ok.inj (halloc₁.symm.trans halloc₃))
    exact hdecided.zeroSize
  · cases halloc.symm.trans (tryZeroedAllocate_of_overflow (Nat.le_of_not_lt hlt))
    refine iff_of_false (by simp) ?_
    intro hzero
    exact hlt (hzero ▸ by decide)

end Heap

namespace Session

variable {arena : Arena} {s s' : Session} {h' : Heap} {blocks blocks' : List BlockInfo}
variable {free' : SizeClass → List BlockInfo} {call : Call} {answer : Answer} {old : Option Ptr}
variable {p q : Ptr} {size : Nat} {f : Nat → UInt8}

/-! ## Pointers -/

lemma Unaffected.stores (h : Unaffected s s' p) (hstores : s.heap.Stores p size f) :
    s'.heap.Stores p size f := by
  obtain ⟨n, hn, hn', hkept⟩ := h.payload
  obtain ⟨⟨k, hk, hle⟩, hbyte⟩ := hstores
  obtain rfl := Except.ok.inj (hn.symm.trans hk)
  exact ⟨⟨n, hn', hle⟩, fun i hi => (hkept i (hi.trans_le hle)).trans (hbyte i hi)⟩

lemma Reachable.payloadFront_eq (hs : Reachable arena s) (hp : p ∈ s.live)
    (hroom : s.heap.HasRoom p size) : s.heap.payloadFront p size = .ok ⟨p.offset, size⟩ := by
  obtain ⟨blocks, free, hh⟩ := hs.holds
  obtain ⟨b, hb, -, rfl⟩ := hh.exists_block hp
  obtain ⟨n, hn, hle⟩ := hroom
  obtain rfl := Except.ok.inj ((hh.sound.usableSize_eq hb).symm.trans hn)
  rw [Heap.payloadFront, hh.sound.payload_eq hb, Fault.ok_bind]
  exact if_pos hle

/-! ## Calls -/

/-- What holds after a call to which `old` was handed over. -/
structure Advance (arena : Arena) (s s' : Session) (old : Option Ptr) : Prop where
  reachable : Reachable arena s'
  kept : ∀ p ∈ s.live, old ≠ some p → Unaffected s s' p
  size_le : s.heap.memory.size ≤ s'.heap.memory.size

lemma Reachable.advance (hs : Reachable arena s) (hpermit : s.Permits call)
    (hperform : s.perform call = .ok (s', answer)) : Advance arena s s' call.pointer? := by
  obtain ⟨blocks, free, hh⟩ := hs.holds
  obtain ⟨s₁, answer₁, blocks', free', gone, new, hperform₁, hh', hturn⟩ := hh.perform hpermit
  obtain ⟨rfl, rfl⟩ := Prod.mk.inj (Except.ok.inj (hperform.symm.trans hperform₁))
  exact ⟨hs.step hpermit hperform, fun p hp hne => hh.unaffected hh' hturn hp hne, hturn.size_le⟩

/-- The two ways in which a request for `size` bytes in the place of `old` can go. -/
inductive Served (arena : Arena) (s : Session) (old : Option Ptr) (size : Nat) :
    Heap → Option Ptr → Prop where
  | served {h' : Heap} (q : Ptr)
      (hadvance : Advance arena s ⟨h', exchange s.live old (some q)⟩ old)
      (hroom : h'.HasRoom q size) : Served arena s old size h' (some q)
  | refused : Served arena s old size s.heap none

lemma Reachable.served_of_answered {result : Except HeapError Ptr} (hs : Reachable arena s)
    (hcall : call.pointer? = none) (hsound : h'.Sound blocks' free')
    (hanswered : Heap.Answered s.heap blocks size h' blocks' result)
    (hperform : s.perform call = .ok (⟨h', exchange s.live none result.toOption⟩, answer)) :
    Served arena s none size h' result.toOption := by
  have hadvance := hs.advance (fun p hp => by simp [hcall] at hp) hperform
  rw [hcall] at hadvance
  cases hanswered with
  | refused error => exact .refused
  | served b hall hfresh hroom hturn =>
    have hb : b ∈ blocks' := (hturn.mem_iff b hall).2 (.inl (by simp))
    exact .served _ hadvance (hsound.hasRoom hb hroom)

/-- **A request.**  It is served or refused, and refused for want of a size exactly if nothing is
asked for. -/
lemma Reachable.exists_tryAllocate (hs : Reachable arena s) (size : Nat) :
    ∃ h' result, (s.heap.tryAllocate size).outcome = .ok (h', result) ∧
      Served arena s none size h' result.toOption ∧ (result = .error .zeroSize ↔ size = 0) := by
  obtain ⟨blocks, free, hh⟩ := hs.holds
  obtain ⟨h', result, blocks', free', halloc, hsound, hanswered⟩ := hh.sound.tryAllocate size
  obtain ⟨h₁, result₁, halloc₁, hdecided⟩ := hh.sound.decided size
  obtain ⟨rfl, rfl⟩ := Prod.mk.inj (Except.ok.inj (halloc.symm.trans halloc₁))
  have hperform : s.perform (.tryAllocate size) =
      .ok (⟨h', exchange s.live none result.toOption⟩, result.map some) := by
    simp only [Session.perform, halloc, Fault.ok_bind]
    rfl
  exact ⟨h', result, halloc, hs.served_of_answered rfl hsound hanswered hperform,
    hdecided.zeroSize⟩

/-- **A request for zeros.**  If it is served, the zeros are there. -/
lemma Reachable.exists_tryZeroedAllocate (hs : Reachable arena s) (count size : Nat) :
    ∃ h' result, (s.heap.tryZeroedAllocate count size).outcome = .ok (h', result) ∧
      Served arena s none (count * size) h' result.toOption ∧
      (result = .error .zeroSize ↔ count * size = 0) ∧
      ∀ q, result = .ok q → count * size < Checked.bound ∧
        h'.Stores q (count * size) fun _ => 0 := by
  obtain ⟨blocks, free, hh⟩ := hs.holds
  obtain ⟨h', result, blocks', free', halloc, hsound, hanswered⟩ :=
    hh.sound.tryZeroedAllocate count size
  have hperform : s.perform (.tryZeroedAllocate count size) =
      .ok (⟨h', exchange s.live none result.toOption⟩, result.map some) := by
    simp only [Session.perform, halloc, Fault.ok_bind]
    rfl
  refine ⟨h', result, halloc, hs.served_of_answered rfl hsound hanswered hperform,
    hh.sound.tryZeroedAllocate_zeroSize_iff halloc, ?_⟩
  rintro q rfl
  refine ⟨Heap.lt_bound_of_tryZeroedAllocate halloc, ?_⟩
  cases hanswered with
  | served b hall hfresh hroom hturn =>
    have hb : b ∈ blocks' := (hturn.mem_iff b hall).2 (.inl (by simp))
    obtain ⟨n, hn, hle⟩ := hsound.hasRoom hb hroom
    exact ⟨⟨n, hn, hle⟩, fun i hi =>
      hh.sound.tryZeroedAllocate_cleared halloc hn (hi.trans_le hle)⟩

/-- **Giving a pointer back**, if there is one. -/
lemma Reachable.exists_release (hs : Reachable arena s) (hold : ∀ p ∈ old, p ∈ s.live) :
    ∃ h', (s.heap.release old).outcome = .ok h' ∧
      Advance arena s ⟨h', exchange s.live old none⟩ old := by
  obtain ⟨blocks, free, hh⟩ := hs.holds
  have hpermit : s.Permits (.release old) := hold
  obtain ⟨s', answer, -, -, -, -, hperform, -, -⟩ := hh.perform hpermit
  obtain ⟨h', hrelease, hs'⟩ := bind_eq_ok_iff.1 hperform
  obtain ⟨rfl, rfl⟩ := Prod.mk.inj (Except.ok.inj hs')
  exact ⟨h', hrelease, hs.advance hpermit hperform⟩

/-- **Resizing.**  What was stored is stored in the new place, as far as it fits. -/
lemma Reachable.exists_resize (hs : Reachable arena s) (hold : ∀ p ∈ old, p ∈ s.live)
    (hsize : size ≠ 0) :
    ∃ h' result, (s.heap.resize old size).outcome = .ok (h', result) ∧
      Served arena s old size h' result ∧
      ∀ p ∈ old, ∀ q ∈ result, ∀ n f, s.heap.Stores p n f → h'.Stores q (min n size) f := by
  obtain ⟨blocks, free, hh⟩ := hs.holds
  cases old with
  | none =>
    obtain ⟨h', result, halloc, hserved, -⟩ := hs.exists_tryAllocate size
    refine ⟨h', result.toOption, ?_, hserved, by simp⟩
    rw [Heap.resize, if_neg hsize]
    exact Heap.allocate_eq_ok halloc
  | some p =>
    obtain ⟨b, hb, hall, rfl⟩ := hh.exists_block (hold p rfl)
    obtain ⟨h', result, blocks', free', hblock, hsound, hresized⟩ :=
      hh.sound.resizeBlock hb hall size
    have hresize : (s.heap.resize (some ⟨b.offset⟩) size).outcome = .ok (h', result) := by
      rw [Heap.resize, if_neg hsize]
      exact hblock
    refine ⟨h', result, hresize, ?_⟩
    cases hresized with
    | refused => exact ⟨.refused, by simp⟩
    | served b' hall' hfresh hroom hturn =>
      have hperform : s.perform (.resize (some ⟨b.offset⟩) size) =
          .ok (⟨h', exchange s.live (some ⟨b.offset⟩) (some ⟨b'.offset⟩)⟩,
            .ok (some ⟨b'.offset⟩)) := by
        simp only [Session.perform, hresize, Fault.ok_bind]
        rfl
      have hpermit : s.Permits (.resize (some ⟨b.offset⟩) size) := hold
      have hb' : b' ∈ blocks' := (hturn.mem_iff b' hall').2 (.inl (by simp))
      obtain ⟨k, hk, hle⟩ := hsound.hasRoom hb' hroom
      refine ⟨.served _ (hs.advance hpermit hperform) ⟨k, hk, hle⟩, ?_⟩
      rintro p ⟨⟩ q ⟨⟩ n f ⟨⟨l, hl, hnl⟩, hbyte⟩
      obtain rfl := Except.ok.inj ((hh.sound.usableSize_eq hb).symm.trans hl)
      refine ⟨⟨k, hk, by omega⟩, ?_⟩
      intro i hi
      rw [hh.sound.resizeBlock_keeps hb hall hblock (by omega) (by omega)]
      exact hbyte i (by omega)

/-- **Filling.**  Writing to the front of a live payload is a write of the program. -/
lemma Reachable.fill (hs : Reachable arena s) (hq : q ∈ s.live) (hroom : s.heap.HasRoom q size)
    (f : Nat → UInt8) :
    Advance arena s ⟨s.heap.overwrite ⟨q.offset, size⟩ f, s.live⟩ (some q) ∧
      (s.heap.overwrite ⟨q.offset, size⟩ f).Stores q size f := by
  obtain ⟨blocks, free, hh⟩ := hs.holds
  obtain ⟨b, hb, hall, rfl⟩ := hh.exists_block hq
  obtain ⟨n, hn, hle⟩ := hroom
  obtain rfl := Except.ok.inj ((hh.sound.usableSize_eq hb).symm.trans hn)
  have hbounds := hh.sound.laid.bounds hb
  set call : Call := .write ⟨b.offset⟩ fun i =>
    if i < size then f i else s.heap.memory.byte (b.offset + i) with hcall
  have hpermit : s.Permits call := by
    rintro p ⟨⟩
    exact hq
  have hperform : s.perform call =
      .ok (⟨s.heap.overwrite ⟨b.offset, size⟩ f, s.live⟩, .ok none) := by
    rw [s.heap.overwrite_front b.offset hle, hcall]
    simp only [Session.perform, hh.sound.payload_eq hb, Fault.ok_bind]
    rfl
  refine ⟨hs.advance hpermit hperform, ⟨_, ?_, hle⟩, ?_⟩
  · rw [s.heap.overwrite_front b.offset hle]
    exact (hh.sound.overwrite_payload hb hall _).1.usableSize_eq hb
  · intro i hi
    exact Heap.byte_overwrite s.heap ⟨b.offset, size⟩ f hi (by simp only; omega)

/-! ## Room -/

/-- **Occupancy.**  What the live pointers are good for together, the sentinels and the tags of one
block fit into the arena. -/
lemma Reachable.occupancy (hs : Reachable arena s) :
    (s.live.map s.heap.capacity).sum + 48 ≤ s.heap.memory.size := by
  obtain ⟨blocks, free, hh⟩ := hs.holds
  have hprologue := hh.sound.laid.prologue_room
  have htotal := hh.sound.laid.tiles.totalSize_eq
  have hallocated := sum_allocated_le hh.sound.laid.valid
  have hblocks : 0 < blocks.length := by
    apply List.length_pos_of_ne_nil
    rintro rfl
    have := hs.room
    rw [← htotal] at this
    exact absurd this (Nat.lt_irrefl _)
  have hsum : (s.live.map s.heap.capacity).sum =
      ((blocks.filter (·.allocated)).map fun b => b.size - 16).sum := by
    rw [(hh.live_perm.map _).sum_eq, List.map_map]
    congr 1
    apply List.map_congr_left
    intro b hb
    exact hh.sound.capacity_eq (List.mem_filter.1 hb).1
  omega

end Session

end BlockHeap
