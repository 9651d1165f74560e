import BlockHeap.Proofs.Reallocation
import BlockHeap.Proofs.Serving

/-!
# Shrinking can be undone in place

What a block gives up when it is cut down becomes free right behind it.  So the block and the free
block behind it have as many bytes together as before, or more if there was free space already
(`Heap.Reaches`), and as long as it does not ask for more its owner can resize the pointer at will.

`Session.Stays` is what every such call keeps (`Session.Stays.resize`): the pointer, the arena, the
other live pointers, and the bytes that were never given up.  `Session.Reachable.resize_twice` is
the case of two calls that ask for no more than the block had to begin with.
-/

namespace BlockHeap

/-- So many bytes, and at least one, are served by a block of `n` bytes. -/
def FitsIn (size n : Nat) : Prop := size ≠ 0 ∧ ∃ needed, blockSize? size = some needed ∧ needed ≤ n

lemma FitsIn.spec {size n : Nat} (h : FitsIn size n) :
    size ≠ 0 ∧ size + 23 < Checked.bound ∧ blockFor size ≤ n := by
  obtain ⟨hsize, needed, hneeded, hle⟩ := h
  obtain ⟨hlt, rfl⟩ := blockSize?_eq_some_iff.1 hneeded
  exact ⟨hsize, hlt, hle⟩

namespace Heap

variable {h : Heap} {p : Ptr} {size n : Nat}

/-- **One call.**  A pointer stays where it is if block and free space behind it are enough, and
they stay so; the payload has room for what was asked for, and holds what it held as far as that
goes. -/
lemma Reaches.resize (hr : h.Reaches p n) (hfits : FitsIn size n) :
    ∃ h' usable usable', (h.resize (some p) size).outcome = .ok (h', some p) ∧
      h'.memory.size = h.memory.size ∧ h'.Reaches p n ∧ h.usableSize p = .ok usable ∧
      h'.usableSize p = .ok usable' ∧ size ≤ usable' ∧
      ∀ i < min usable size, h'.memory.byte (p.offset + i) = h.memory.byte (p.offset + i) := by
  obtain ⟨hsize, hlt, hle⟩ := hfits.spec
  obtain ⟨pre, b, post, free, hs, hall, rfl, hn⟩ := hr
  obtain ⟨h', hresize, hkept, pre', b', post', free', hs', hall', hptr, hn'⟩ :=
    hs.resizeBlock_inPlace hall hlt (hle.trans hn)
  obtain ⟨usable, usable', husable, husable', hroom, hbyte⟩ :=
    hs.resizeBlock_usable (by simp) hall hresize
  refine ⟨h', usable, usable', ?_, hkept, ⟨pre', b', post', free', hs', hall', hptr, hn.trans hn'⟩,
    husable, husable', hroom, hbyte⟩
  rw [Heap.resize, if_neg hsize]
  exact hresize

end Heap

namespace Session

variable {arena : Arena} {s s₁ : Session} {p : Ptr} {n k size : Nat}

/-- After resizes of `p` that block and free space behind it were enough for: pointer and arena
are where they were, the other live pointers are unaffected, and the first `k` bytes are the old ones. -/
structure Stays (arena : Arena) (s s' : Session) (p : Ptr) (n k : Nat) : Prop where
  reachable : Reachable arena s'
  live : p ∈ s'.live
  size : s'.heap.memory.size = s.heap.memory.size
  reaches : s'.heap.Reaches p n
  room : s'.heap.HasRoom p k
  others : ∀ q ∈ s.live, q ≠ p → Unaffected s s' q
  bytes : ∀ i < k, s'.heap.memory.byte (p.offset + i) = s.heap.memory.byte (p.offset + i)

/-- Before any resize, with all that the block of the pointer has. -/
lemma Reachable.stays (hs : Reachable arena s) (hp : p ∈ s.live) :
    ∃ old, Block.size s.heap.memory p.offset = .ok old ∧ Stays arena s s p old (old - 16) := by
  obtain ⟨blocks, free, hh⟩ := hs.holds
  obtain ⟨b, hb, hall, rfl⟩ := hh.exists_block hp
  refine ⟨b.size, hh.sound.size_eq hb, hs, hp, rfl, ?_, ⟨_, hh.sound.usableSize_eq hb, le_rfl⟩, ?_,
    fun _ _ => rfl⟩
  · obtain ⟨pre, post, rfl⟩ := List.append_of_mem hb
    exact ⟨pre, b, post, free, hh.sound, hall, rfl, Nat.le_add_right ..⟩
  · intro q hq _
    obtain ⟨x, hx, -, rfl⟩ := hh.exists_block hq
    exact ⟨hq, _, hh.sound.usableSize_eq hx, hh.sound.usableSize_eq hx, fun _ _ => rfl⟩

lemma Stays.resize (h : Stays arena s s₁ p n k) (hfits : FitsIn size n) :
    ∃ s₂, s₁.perform (.resize (some p) size) = .ok (s₂, .ok (some p)) ∧
      s₂.heap.HasRoom p size ∧ Stays arena s s₂ p n (min k size) := by
  obtain ⟨h', usable, usable', hresize, hsize, hreaches, husable, husable', hroom, hbyte⟩ :=
    h.reaches.resize hfits
  have hperform : s₁.perform (.resize (some p) size) =
      .ok (⟨h', exchange s₁.live (some p) (some p)⟩, .ok (some p)) := by
    simp only [Session.perform, hresize, Fault.ok_bind]
    rfl
  have hpermit : s₁.Permits (.resize (some p) size) := by
    rintro q ⟨⟩
    exact h.live
  have hadvance := h.reachable.advance hpermit hperform
  -- the bytes to be kept were all there
  obtain ⟨room, hhas, hle⟩ := h.room
  obtain rfl := Except.ok.inj (husable.symm.trans hhas)
  refine ⟨_, hperform, ⟨usable', husable', hroom⟩, hadvance.reachable, List.mem_cons_self,
    hsize.trans h.size, hreaches, ⟨usable', husable', by omega⟩, ?_, ?_⟩
  · intro q hq hne
    have hkept := h.others q hq hne
    exact hkept.trans (hadvance.kept q hkept.live fun he => hne (Option.some.inj he).symm)
  · intro i hi
    exact (hbyte i (by omega)).trans (h.bytes i (by omega))

/-- **Shrinking can be undone in place.**  Whatever a program has done with a heap, let a live
pointer be resized twice in a row, each time to some bytes that the block it has to begin with could
serve.  Both calls return the pointer and leave the arena as large as it was.  The pointer has room
for what was asked for last, and the bytes that were asked for both times are those of the
beginning; the other live pointers are unaffected throughout. -/
theorem Reachable.resize_twice (hs : Reachable arena s) (hp : p ∈ s.live) :
    ∃ old, Block.size s.heap.memory p.offset = .ok old ∧
      ∀ m n, FitsIn m old → FitsIn n old → ∃ s₁ s₂,
        s.perform (.resize (some p) m) = .ok (s₁, .ok (some p)) ∧
        s₁.perform (.resize (some p) n) = .ok (s₂, .ok (some p)) ∧
        s₁.heap.memory.size = s.heap.memory.size ∧ s₂.heap.memory.size = s.heap.memory.size ∧
        s₂.heap.HasRoom p n ∧
        (∀ q ∈ s.live, q ≠ p → Unaffected s s₁ q ∧ Unaffected s s₂ q) ∧
        ∀ i < min m n, s₂.heap.memory.byte (p.offset + i) = s.heap.memory.byte (p.offset + i) := by
  obtain ⟨old, hold, hstays⟩ := hs.stays hp
  refine ⟨old, hold, ?_⟩
  intro m n hm hn
  obtain ⟨s₁, hperform₁, -, h₁⟩ := hstays.resize hm
  obtain ⟨s₂, hperform₂, hroom, h₂⟩ := h₁.resize hn
  refine ⟨s₁, s₂, hperform₁, hperform₂, h₁.size, h₂.size, hroom, ?_, ?_⟩
  · exact fun q hq hne => ⟨h₁.others q hq hne, h₂.others q hq hne⟩
  · intro i hi
    have hfits := hm.spec.2.2
    have hneeded := (blockFor_spec m).2.2
    exact h₂.bytes i (by omega)

/-- A block of 96 bytes is cut down to 32, which leaves 128 free bytes behind it, and takes them in
again. -/
theorem Reachable.resize_twice_large : ∃ s s₁ s₂ : Session, s.live = [⟨64⟩, ⟨32⟩] ∧
    s.heap.blocks = .ok [⟨32, 32, true⟩, ⟨64, 96, true⟩, ⟨160, 64, false⟩] ∧
    s.perform (.resize (some ⟨64⟩) 8) = .ok (s₁, .ok (some ⟨64⟩)) ∧
    s₁.perform (.resize (some ⟨64⟩) 80) = .ok (s₂, .ok (some ⟨64⟩)) ∧
    s₂.heap.memory.size = s.heap.memory.size ∧ s₂.heap.HasRoom ⟨64⟩ 80 ∧
    Unaffected s s₂ ⟨32⟩ := by
  obtain ⟨-, s, -, -, hs, hview⟩ := exists_of_attempt ⟨192, 1, 1024⟩ 1024
    [.tryAllocate 8, .tryAllocate 80]
    (fun s => s.heap.blocks.toOption.map fun blocks => (s.live, blocks))
    (a := ([⟨64⟩, ⟨32⟩], [⟨32, 32, true⟩, ⟨64, 96, true⟩, ⟨160, 64, false⟩]))
    (by decide +kernel)
  obtain ⟨blocks, hblocks, hview⟩ := Option.map_eq_some_iff.1 hview
  obtain ⟨hlive, rfl⟩ := Prod.mk.inj hview
  have hblocks := eq_ok_of_toOption hblocks
  obtain ⟨old, hold, hresize⟩ := Reachable.resize_twice hs (p := ⟨64⟩) (by simp [hlive])
  -- the block of the pointer is the second one
  obtain ⟨blocks, free, hh⟩ := hs.holds
  obtain rfl := Except.ok.inj (hh.sound.blocks_eq.symm.trans hblocks)
  obtain rfl : 96 = old := Except.ok.inj
    ((hh.sound.size_eq (b := ⟨64, 96, true⟩) (by simp)).symm.trans hold)
  obtain ⟨s₁, s₂, hperform₁, hperform₂, -, hkept, hroom, hothers, -⟩ :=
    hresize 8 80 ⟨by decide, 32, by decide, by decide⟩ ⟨by decide, 96, by decide, by decide⟩
  exact ⟨s, s₁, s₂, hlive, hblocks, hperform₁, hperform₂, hkept, hroom,
    (hothers ⟨32⟩ (by simp [hlive]) (by decide)).2⟩

end Session

end BlockHeap
