import BlockHeap.Proofs.Isolation
import BlockHeap.Proofs.Tilings

/-!
# The order of releases does not matter

A program gives back some of its pointers, in one order or another.  On the way the heaps have
little in common: what a release joins depends on what was released before, and so do the free
lists, which differ even in the end.  The blocks do not.  After the releases the allocated blocks
are those of the pointers that were kept (`Session.Holds.run_releases`), no two free blocks are
neighbours, and so there is only one way for the blocks to tile the arena
(`Tiles.eq_of_allocated`).  Whatever is computed from the blocks agrees with them, and the payloads
of the kept pointers have never been written to (`Session.Reachable.release_order`).
-/

namespace BlockHeap

namespace Session

variable {arena : Arena} {s s' s₁ s₂ : Session} {blocks blocks' blocks₁ blocks₂ : List BlockInfo}
variable {free free' free₁ free₂ : SizeClass → List BlockInfo} {p : Ptr} {ps qs : List Ptr}

/-- The calls that give back the pointers one after the other. -/
def releases (ps : List Ptr) : List Call := ps.map fun p => .release (some p)

lemma Unaffected.trans (h : Unaffected s s₁ p) (h' : Unaffected s₁ s₂ p) : Unaffected s s₂ p := by
  obtain ⟨n, hn, hn₁, hkept⟩ := h.payload
  obtain ⟨k, hk, hk₂, hkept'⟩ := h'.payload
  obtain rfl := Except.ok.inj (hn₁.symm.trans hk)
  exact ⟨h'.live, n, hn, hk₂, fun i hi => (hkept' i hi).trans (hkept i hi)⟩

lemma Unaffected.symm (h : Unaffected s s' p) (hp : p ∈ s.live) : Unaffected s' s p := by
  obtain ⟨n, hn, hn', hkept⟩ := h.payload
  exact ⟨hp, n, hn', hn, fun i hi => (hkept i hi).symm⟩

/-! ## Releasing one pointer after the other -/

/-- What is left of a session when pointers were given back: the other pointers with their blocks
and payloads, in an arena of the same size. -/
structure Released (s s' : Session) (blocks blocks' : List BlockInfo) (ps : List Ptr) : Prop where
  size : s'.heap.memory.size = s.heap.memory.size
  prologue : s'.heap.prologue = s.heap.prologue
  live : s'.live = s.live.filter (· ∉ ps)
  mem_iff : ∀ b, b.allocated = true → (b ∈ blocks' ↔ b ∈ blocks ∧ b.ptr ∉ ps)
  kept : ∀ p ∈ s.live, p ∉ ps → Unaffected s s' p

lemma Holds.released_nil (hh : Holds arena s blocks free) : Released s s blocks blocks [] where
  size := rfl
  prologue := rfl
  live := by simp
  mem_iff := by simp
  kept p hp _ := by
    obtain ⟨b, hb, -, rfl⟩ := hh.exists_block hp
    exact ⟨hp, _, hh.sound.usableSize_eq hb, hh.sound.usableSize_eq hb, fun _ _ => rfl⟩

lemma Holds.perform_release (hh : Holds arena s blocks free) (hp : p ∈ s.live) :
    ∃ s' blocks' free', s.perform (.release (some p)) = .ok (s', .ok none) ∧
      Holds arena s' blocks' free' ∧ Released s s' blocks blocks' [p] := by
  obtain ⟨b, hb, hall, rfl⟩ := (hh.mem_live p).1 hp
  obtain ⟨h', blocks', free', hrelease, hsize, hh', hturned⟩ :=
    hh.turned_release hb hall (show (Call.release (some b.ptr)).pointer? = some b.ptr from rfl)
  refine ⟨_, blocks', free', ?_, hh', hsize, hturned.prologue, ?_, ?_, ?_⟩
  · simp only [Session.perform, hrelease, Fault.ok_bind]
    rfl
  · simp [Session.exchange]
  · intro x hx
    -- a block is known by its pointer
    have hptr : x ∈ blocks → (x = b ↔ x.ptr = b.ptr) := fun hxb =>
      ⟨congrArg BlockInfo.ptr, fun he => hh.sound.laid.eq_of_offset hxb hb (congrArg Ptr.offset he)⟩
    rw [hturned.mem_iff x hx, List.mem_singleton]
    simp only [Option.toList_none, Option.toList_some, List.not_mem_nil, List.mem_singleton,
      false_or]
    exact and_congr_right fun hxb => (hptr hxb).not
  · intro q hq hne
    refine hh.unaffected hh' hturned hq ?_
    rintro ⟨⟩
    exact hne (List.mem_singleton_self _)

/-- First one pointer, then others. -/
lemma Released.trans (h : Released s s₁ blocks blocks₁ [p])
    (h' : Released s₁ s₂ blocks₁ blocks₂ ps) :
    Released s s₂ blocks blocks₂ (p :: ps) where
  size := h'.size.trans h.size
  prologue := h'.prologue.trans h.prologue
  live := by
    rw [h'.live, h.live, List.filter_filter]
    congr 1
    funext q
    simp [Bool.and_comm]
  mem_iff b hb := by
    rw [h'.mem_iff b hb, h.mem_iff b hb]
    simp only [List.mem_cons, List.not_mem_nil, or_false, not_or, and_assoc]
  kept q hq hne := by
    rw [List.mem_cons, not_or] at hne
    have hkept := h.kept q hq (by simpa using hne.1)
    exact hkept.trans (h'.kept q hkept.live hne.2)

/-- **Releases.**  Different live pointers can be given back in any order. -/
lemma Holds.run_releases (hh : Holds arena s blocks free) (hnodup : ps.Nodup)
    (hlive : ∀ p ∈ ps, p ∈ s.live) :
    ∃ s' blocks' free', s.run (releases ps) = .ok s' ∧ Holds arena s' blocks' free' ∧
      Released s s' blocks blocks' ps := by
  induction ps generalizing s blocks free with
  | nil => exact ⟨s, blocks, free, rfl, hh, hh.released_nil⟩
  | cons p ps ih =>
    obtain ⟨hp, hrest⟩ := List.forall_mem_cons.1 hlive
    obtain ⟨hnot, hnodup⟩ := List.nodup_cons.1 hnodup
    obtain ⟨s₁, blocks₁, free₁, hperform, hh₁, hreleased⟩ := hh.perform_release hp
    have hrest₁ : ∀ q ∈ ps, q ∈ s₁.live := by
      intro q hq
      rw [hreleased.live, List.mem_filter]
      refine ⟨hrest q hq, ?_⟩
      simp only [List.mem_singleton, decide_not, Bool.not_eq_true', decide_eq_false_iff_not]
      rintro rfl
      exact hnot hq
    obtain ⟨s₂, blocks₂, free₂, hrun, hh₂, hreleased'⟩ := ih hh₁ hnodup hrest₁
    refine ⟨s₂, blocks₂, free₂, ?_, hh₂, hreleased.trans hreleased'⟩
    show s.run (.release (some p) :: releases ps) = .ok s₂
    rw [Session.run, hperform]
    exact hrun

/-! ## Two orders -/

/-- After the same releases in whatever order, the blocks are the same. -/
lemma Released.blocks_eq (hh₁ : Holds arena s₁ blocks₁ free₁) (hh₂ : Holds arena s₂ blocks₂ free₂)
    (h₁ : Released s s₁ blocks blocks₁ ps) (h₂ : Released s s₂ blocks blocks₂ qs)
    (hperm : ps.Perm qs) : blocks₁ = blocks₂ := by
  have htiles₂ := hh₂.sound.laid.tiles
  rw [h₂.prologue, h₂.size, ← h₁.prologue, ← h₁.size] at htiles₂
  refine hh₁.sound.laid.tiles.eq_of_allocated htiles₂ ?_ ?_ hh₁.sound.coalesced
    hh₂.sound.coalesced ?_
  · intro b hb
    have := (hh₁.sound.laid.valid b hb).2
    omega
  · intro b hb
    have := (hh₂.sound.laid.valid b hb).2
    omega
  · intro b hall
    rw [h₁.mem_iff b hall, h₂.mem_iff b hall, hperm.mem_iff]

/-- There is always room between prologue and epilogue. -/
lemma Reachable.room (hs : Reachable arena s) : s.heap.prologue + 16 < s.heap.memory.size := by
  induction hs with
  | made hmade =>
    obtain ⟨b, free, hh⟩ := holds_made hmade
    have := hh.sound.laid.bounds List.mem_cons_self
    omega
  | step hs hpermit hperform ih =>
    obtain ⟨blocks, free, hh⟩ := hs.holds
    obtain ⟨s', answer, blocks', free', gone, new, hcall, -, hturned⟩ := hh.perform hpermit
    rw [hperform] at hcall
    cases hcall
    have hsize := hturned.size_le
    rw [hturned.prologue]
    omega

/-- Without allocated blocks, one free block covers everything between prologue and epilogue. -/
lemma Holds.blocks_eq_of_free (hh : Holds arena s blocks free)
    (hroom : s.heap.prologue + 16 < s.heap.memory.size)
    (hfree : ∀ b ∈ blocks, b.allocated = false) :
    blocks = [⟨s.heap.prologue + 16, s.heap.memory.size - (s.heap.prologue + 16), false⟩] := by
  have hone : Tiles (s.heap.prologue + 16)
      [⟨s.heap.prologue + 16, s.heap.memory.size - (s.heap.prologue + 16), false⟩]
      s.heap.memory.size := ⟨rfl, Nat.add_sub_cancel' hroom.le⟩
  refine hh.sound.laid.tiles.eq_of_allocated hone ?_ ?_ hh.sound.coalesced
    (List.isChain_singleton _) ?_
  · intro b hb
    have := (hh.sound.laid.valid b hb).2
    omega
  · intro b hb
    obtain rfl := List.mem_singleton.1 hb
    exact Nat.sub_pos_of_lt hroom
  · intro b hall
    constructor
    · intro hb
      exact absurd hall (by simp [hfree b hb])
    · intro hb
      obtain rfl := List.mem_singleton.1 hb
      cases hall

/-- The size of the arena, the blocks, their numbers and the live pointers are the same. -/
structure SameLayout (s₁ s₂ : Session) (blocks : List BlockInfo) (stats : Stats) : Prop where
  size : s₁.heap.memory.size = s₂.heap.memory.size
  blocks : s₁.heap.blocks = .ok blocks ∧ s₂.heap.blocks = .ok blocks
  stats : s₁.heap.stats = .ok stats ∧ s₂.heap.stats = .ok stats
  live : s₁.live = s₂.live

/-- **The order of releases does not matter.**  Take any session and some of its live pointers, and
give them back in two orders.  Both times all releases succeed, and the two heaps have the same
size, the same blocks and the same numbers; the other pointers stay live and their payloads are
untouched.  If no pointer is left then the heap is one free block. -/
theorem Reachable.release_order (hs : Reachable arena s) (hnodup : ps.Nodup)
    (hlive : ∀ p ∈ ps, p ∈ s.live) (hperm : ps.Perm qs) :
    ∃ s₁ s₂ blocks stats, s.run (releases ps) = .ok s₁ ∧ s.run (releases qs) = .ok s₂ ∧
      SameLayout s₁ s₂ blocks stats ∧ s₁.heap.memory.size = s.heap.memory.size ∧
      (∀ p ∈ s.live, p ∉ ps → Unaffected s s₁ p ∧ Unaffected s₁ s₂ p) ∧
      ((∀ p ∈ s.live, p ∈ ps) → blocks =
        [⟨s.heap.prologue + 16, s.heap.memory.size - (s.heap.prologue + 16), false⟩]) := by
  obtain ⟨blocks, free, hh⟩ := hs.holds
  obtain ⟨s₁, blocks₁, free₁, hrun₁, hh₁, h₁⟩ := hh.run_releases hnodup hlive
  obtain ⟨s₂, blocks₂, free₂, hrun₂, hh₂, h₂⟩ := hh.run_releases (hperm.nodup_iff.1 hnodup)
    fun q hq => hlive q (hperm.mem_iff.2 hq)
  obtain rfl := h₁.blocks_eq hh₁ hh₂ h₂ hperm
  obtain ⟨stats, hstats, -⟩ := hh₁.sound.stats_eq
  have hsize : s₁.heap.memory.size = s₂.heap.memory.size := h₁.size.trans h₂.size.symm
  refine ⟨s₁, s₂, blocks₁, stats, hrun₁, hrun₂, ⟨hsize, ⟨hh₁.sound.blocks_eq, hh₂.sound.blocks_eq⟩,
    ⟨hstats, ?_⟩, ?_⟩, h₁.size, ?_, ?_⟩
  · rw [← hstats, Heap.stats, Heap.stats, hh₁.sound.blocks_eq, hh₂.sound.blocks_eq, hsize]
  · rw [h₁.live, h₂.live]
    exact List.filter_congr fun p _ => decide_eq_decide.2 hperm.mem_iff.not
  · intro p hp hne
    have hkept := h₁.kept p hp hne
    have hkept₂ := h₂.kept p hp fun hin => hne (hperm.mem_iff.2 hin)
    exact ⟨hkept, (hkept.symm hp).trans hkept₂⟩
  · intro hall
    rw [← h₁.size, ← h₁.prologue]
    apply hh₁.blocks_eq_of_free
    · rw [h₁.size, h₁.prologue]
      exact hs.room
    · intro b hb
      by_contra hallocated
      rw [Bool.not_eq_false] at hallocated
      obtain ⟨hb, hne⟩ := (h₁.mem_iff b hallocated).1 hb
      exact hne (hall b.ptr ((hh.mem_live _).2 ⟨b, hb, hallocated, rfl⟩))

/-- Two small blocks, given back in either order, leave one free block. -/
theorem Reachable.release_order_small : ∃ (s s₁ s₂ : Session) (stats : Stats),
    s.live = [⟨64⟩, ⟨32⟩] ∧ s.run (releases [⟨64⟩, ⟨32⟩]) = .ok s₁ ∧
      s.run (releases [⟨32⟩, ⟨64⟩]) = .ok s₂ ∧ SameLayout s₁ s₂ [⟨32, 96, false⟩] stats := by
  obtain ⟨s, hs, hlive, hwalk⟩ := exists_small
  have hnodup : ([⟨64⟩, ⟨32⟩] : List Ptr).Nodup := by decide
  have hperm : ([⟨64⟩, ⟨32⟩] : List Ptr).Perm [⟨32⟩, ⟨64⟩] := List.Perm.swap ..
  obtain ⟨s₁, s₂, blocks, stats, hrun₁, hrun₂, hsame, -, -, hone⟩ :=
    Reachable.release_order hs hnodup (fun p hp => hlive ▸ hp) hperm
  -- the three blocks say where the prologue is and how large the arena
  obtain ⟨_, _, hh⟩ := hs.holds
  have htiles := hh.sound.laid.tiles
  obtain rfl := Except.ok.inj (hh.sound.blocks_eq.symm.trans hwalk)
  obtain ⟨hfirst, -, -, hlast⟩ := htiles
  simp only at hfirst hlast
  rw [← hfirst] at hone hlast
  rw [← hlast] at hone
  exact ⟨s, s₁, s₂, stats, hlive, hrun₁, hrun₂, hone (fun p hp => hlive ▸ hp) ▸ hsame⟩

end Session

end BlockHeap
