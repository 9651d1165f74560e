import BlockHeap.Proofs.Contents
import BlockHeap.Proofs.Sessions

/-!
# What joining comes to

Between two requests a heap is sound.  While one is carried out there is a moment at which a block
was just marked free and is on no list yet, and whatever stands beside it may be free as well:
`Heap.Pending` is the invariant at that moment.  `Heap.Joins` is what coalescing makes of it, in all
four cases of free neighbours: one free block in the place of the block and its free neighbours,
which is the first of its class, and no change to anything else, be it blocks, bytes of allocated
blocks, or the order of the lists.

A release marks a block free and coalesces it, so it comes to the same (`Heap.Sound.release_joins`).
-/

namespace BlockHeap

/-- The free blocks among the neighbours of a block. -/
def freeNeighbours (pre post : List BlockInfo) : List BlockInfo :=
  (lastFree? pre).toList ++ (firstFree? post).toList

/-- The lists with some blocks taken out and one put in front of the class of its size. -/
def relisted (free : SizeClass → List BlockInfo) (gone : List BlockInfo) (new : BlockInfo) :
    SizeClass → List BlockInfo := fun c =>
  (if c = SizeClass.ofSize new.size then [new] else []) ++ (free c).filter (· ∉ gone)

section

variable {m : Memory} {lists : FreeLists} {prologue pos : Nat} {b : BlockInfo}
variable {pre post blocks skip : List BlockInfo} {free : SizeClass → List BlockInfo}

/-- To take a block off its list is to leave it out of all lists. -/
lemma detach_eq_filter (hnodup : ∀ c, (free c).Nodup) (x : BlockInfo) :
    detach free x = fun c => (free c).filter (· ∉ [x]) := by
  funext c
  rw [detach, (hnodup c).erase_eq_filter]
  apply List.filter_congr
  intro y _
  by_cases hyx : y = x <;> simp [hyx]

/-- Joining takes the free neighbours out and puts the joint block in front. -/
lemma Listed.relist_eq (h : Listed m lists blocks skip free) :
    relist free pre b post = relisted free (freeNeighbours pre post) (joint pre b post) := by
  have hdetached : (lastFree? pre).elim ((firstFree? post).elim free (detach free))
      (detach ((firstFree? post).elim free (detach free))) =
        fun c => (free c).filter (· ∉ freeNeighbours pre post) := by
    have hnodup := h.nodup
    unfold freeNeighbours
    cases firstFree? post with
    | none => cases lastFree? pre <;> simp [detach_eq_filter hnodup]
    | some y =>
      rw [Option.elim_some, detach_eq_filter hnodup]
      cases lastFree? pre with
      | none => simp
      | some x =>
        rw [Option.elim_some, detach_eq_filter fun c => (hnodup c).filter _]
        simp
  funext c
  unfold relist relisted attach
  rw [hdetached]
  by_cases hc : c = SizeClass.ofSize (joint pre b post).size
  · subst hc
    rw [Function.update_self, if_pos rfl]
    rfl
  · rw [Function.update_of_ne hc, if_neg hc]
    rfl

lemma Laid.inFree_of_coalesce (h : Laid m prologue (pre ++ b :: post)) (hfree : b.allocated = false)
    (hpos : (joint pre b post).Covers pos ∨ InFreeSlot (pre ++ post) pos) :
    InFree (pre ++ b :: post) pos := by
  rcases hpos with hpos | hpos
  · rcases h.inFree_of_joint b rfl rfl hpos with hin | hin
    · exact hin
    · exact ⟨b, by simp, hfree, hin⟩
  · exact (hpos.mono (by simp)).inFree h.valid

end

namespace Heap

variable {h h' : Heap} {pre post : List BlockInfo} {free : SizeClass → List BlockInfo}
variable {b : BlockInfo} {m : Memory} {start : Nat}

/-- **A block just marked free.**  The heap is sound, except that the block `b` between `pre` and
`post` is free and on no list, and may have free neighbours. -/
structure Pending (h : Heap) (pre : List BlockInfo) (b : BlockInfo) (post : List BlockInfo)
    (free : SizeClass → List BlockInfo) : Prop extends Shows h (pre ++ b :: post) [b] free where
  marked : b.allocated = false
  arena : h.arena.Sound
  config : h.config.validate = .ok ()
  before : Coalesced pre
  after : Coalesced post

/-- **Joining.**  From `h` to `h'` the free block `b` and its free neighbours have become one, which
starts at `start` and fills their extent.  Only bytes of free blocks change.  The other blocks are
those of before, and so are the lists, but for the free neighbours, which are on none, and the new
block, which is the first of its class. -/
structure Joins (h : Heap) (pre : List BlockInfo) (b : BlockInfo) (post : List BlockInfo)
    (free : SizeClass → List BlockInfo) (h' : Heap) (start : Nat) : Prop where
  same : h' = h.put h'.memory h'.lists
  frame : Memory.ChangedOnly (InFree (pre ++ b :: post)) h.memory h'.memory
  kept : ∀ x ∈ pre ++ post, x.allocated = true → ∀ pos, x.Covers pos →
    h'.memory.byte pos = h.memory.byte pos
  layout : ∃ before after size, pre = before ++ (lastFree? pre).toList ∧
    post = (firstFree? post).toList ++ after ∧
    Tiles start ((lastFree? pre).toList ++ b :: (firstFree? post).toList) (start + size) ∧
    h'.blocks = .ok (before ++ ⟨start, size, false⟩ :: after) ∧
    h'.lists.head (SizeClass.ofSize size) = some start ∧
    h'.Sound (before ++ ⟨start, size, false⟩ :: after)
      (relisted free (freeNeighbours pre post) ⟨start, size, false⟩)

/-- **Coalescing.**  In each of the four cases. -/
lemma Pending.coalesce (hp : h.Pending pre b post free) :
    ∃ h' start, (h.coalesce b.offset).outcome = .ok (h', start) ∧
      h.Joins pre b post free h' start := by
  obtain ⟨m, lists, hcoalesce, hshows, hframe⟩ := hp.toShows.coalesce
  rw [hp.listed.relist_eq] at hshows
  have hsound : (h.put m lists).Sound (joined pre b post)
      (relisted free (freeNeighbours pre post) (joint pre b post)) :=
    { hshows with
      arena := hp.arena.of_size hframe.size
      config := hp.config
      coalesced := coalesced_joined hp.before hp.after }
  have hfree := hframe.mono fun pos => hp.laid.inFree_of_coalesce hp.marked
  refine ⟨_, _, hcoalesce, rfl, hfree, ?_, ?_⟩
  · intro x hx hall pos hpos
    have hx' : x ∈ pre ++ b :: post := (hp.laid.mem_sides_iff.1 hx).1
    exact hfree.byte pos (hp.laid.not_inFree hx' hall hpos)
  · refine ⟨beforeJoint pre, afterJoint post, (joint pre b post).size,
      (beforeJoint_append pre).symm, (firstFree?_append post).symm, hp.laid.tiles_joint.2.1,
      hsound.blocks_eq, ?_, hsound⟩
    rw [hsound.listed.represents.head, relisted, if_pos rfl]
    rfl

/-- A block that is given back is marked free first. -/
lemma Sound.pending (hs : h.Sound (pre ++ b :: post) free) (hall : b.allocated = true) :
    ∃ m, (h.releaseBlock b.offset).outcome =
        ((h.put m h.lists).coalesce b.offset).outcome.map Prod.fst ∧
      (h.put m h.lists).Pending pre b.freed post free ∧
      Memory.ChangedOnly b.AtTags h.memory m := by
  obtain ⟨m, hrelease, hshows, hframe⟩ := hs.markFree hall
  exact ⟨m, hrelease, { hshows with
    marked := rfl
    arena := hs.arena.of_size hframe.size
    config := hs.config
    before := hs.coalesced.before
    after := hs.coalesced.after }, hframe⟩

/-- The tags that mark the block do not count. -/
lemma Joins.of_marked (hj : (h.put m h.lists).Joins pre b.freed post free h' start)
    (hs : h.Sound (pre ++ b :: post) free) (hframe : Memory.ChangedOnly b.AtTags h.memory m) :
    h.Joins pre b.freed post free h' start := by
  have hb : b ∈ pre ++ b :: post := by simp
  have hcovers : ∀ pos, b.AtTags pos → b.Covers pos := fun pos hpos =>
    hpos.covers (hs.laid.valid b hb)
  refine ⟨hj.same, (hframe.mono ?_).trans hj.frame, ?_, hj.layout⟩
  · intro pos hpos
    exact ⟨b.freed, by simp, rfl, hcovers pos hpos⟩
  · intro x hx hall pos hpos
    refine (hj.kept x hx hall pos hpos).trans (hframe.byte pos fun hin => ?_)
    obtain ⟨hx', hne⟩ := hs.laid.mem_sides_iff.1 hx
    exact hne (List.mem_singleton.2 (hs.laid.eq_of_covers hx' hb hpos (hcovers pos hin)))

/-- **Releasing.**  An allocated block is joined with its free neighbours. -/
lemma Sound.release_joins (hs : h.Sound (pre ++ b :: post) free) (hall : b.allocated = true) :
    ∃ h' start, (h.release (some ⟨b.offset⟩)).outcome = .ok h' ∧
      h.Joins pre b.freed post free h' start := by
  obtain ⟨m, hrelease, hpending, hframe⟩ := hs.pending hall
  obtain ⟨h', start, hcoalesce, hjoins⟩ := hpending.coalesce
  have hcoalesce' : ((h.put m h.lists).coalesce b.offset).outcome = .ok (h', start) := hcoalesce
  refine ⟨h', start, ?_, hjoins.of_marked hs hframe⟩
  rw [hcoalesce'] at hrelease
  exact hrelease

/-- **What joining comes to.**  Take any heap that is sound but for one block that was just marked
free and is on no list yet.  Coalescing joins that block with its free neighbours, whichever there
are, and changes nothing else; it answers with the start of the joint block.  And whatever a program
has done with a heap, to release a live pointer is to do this to its block. -/
theorem coalesce_joins :
    (∀ {h : Heap} {pre post : List BlockInfo} {b : BlockInfo} {free : SizeClass → List BlockInfo},
      h.Pending pre b post free → ∃ h' start, (h.coalesce b.offset).outcome = .ok (h', start) ∧
        h.Joins pre b post free h' start) ∧
    ∀ {arena : Arena} {s : Session} {p : Ptr}, Session.Reachable arena s → p ∈ s.live →
      ∃ pre size post free h' start,
        s.heap.Sound (pre ++ ⟨p.offset, size, true⟩ :: post) free ∧
        (s.heap.release (some p)).outcome = .ok h' ∧
        s.heap.Joins pre ⟨p.offset, size, false⟩ post free h' start := by
  refine ⟨Pending.coalesce, ?_⟩
  intro arena s p hs hp
  obtain ⟨blocks, free, hh⟩ := hs.holds
  obtain ⟨⟨offset, size, allocated⟩, hb, rfl, rfl⟩ := hh.exists_block hp
  obtain ⟨pre, post, rfl⟩ := List.append_of_mem hb
  obtain ⟨h', start, hrelease, hjoins⟩ := hh.sound.release_joins rfl
  exact ⟨pre, size, post, free, h', start, hh.sound, hrelease, hjoins⟩

/-- Two free blocks of 32 bytes become one of 64, be it in a release or when the first was just
marked free. -/
theorem coalesce_joins_small : ∃ (s : Session) (h : Heap), s.live = [⟨64⟩, ⟨32⟩] ∧
    (s.heap.release (some ⟨64⟩)).outcome = .ok h ∧
    h.blocks = .ok [⟨32, 32, true⟩, ⟨64, 64, false⟩] ∧
    ∃ (marked h' : Heap) (free : SizeClass → List BlockInfo),
      marked.Pending [⟨32, 32, true⟩] ⟨64, 32, false⟩ [⟨96, 32, false⟩] free ∧
      (marked.coalesce 64).outcome = .ok (h', 64) ∧
      h'.blocks = .ok [⟨32, 32, true⟩, ⟨64, 64, false⟩] := by
  -- what stands in the place of the two
  have hjoined : ∀ {h h' : Heap} {free : SizeClass → List BlockInfo} {start : Nat},
      h.Joins [⟨32, 32, true⟩] ⟨64, 32, false⟩ [⟨96, 32, false⟩] free h' start →
        start = 64 ∧ h'.blocks = .ok [⟨32, 32, true⟩, ⟨64, 64, false⟩] := by
    intro h h' free start hj
    obtain ⟨before, after, size, hbefore, hafter, htiles, hblocks, -, -⟩ := hj.layout
    obtain rfl : [⟨32, 32, true⟩] = before := hbefore.trans (List.append_nil _)
    obtain rfl : [] = after := (List.cons.inj hafter).2
    obtain ⟨rfl, -, hend⟩ : 64 = start ∧ 96 = start + 32 ∧ start + 32 + 32 = start + size := htiles
    obtain rfl : size = 64 := by omega
    exact ⟨rfl, hblocks⟩
  obtain ⟨s, hs, hlive, hblocks⟩ := Session.exists_small
  obtain ⟨hcoalesces, hreleases⟩ := coalesce_joins
  obtain ⟨pre, size, post, free, h, start, hsound, hrelease, hjoins⟩ :=
    hreleases hs (p := ⟨64⟩) (by simp [hlive])
  have hsplit := Except.ok.inj (hsound.blocks_eq.symm.trans hblocks)
  obtain ⟨rfl, rfl, rfl⟩ : pre = [⟨32, 32, true⟩] ∧ size = 32 ∧ post = [⟨96, 32, false⟩] := by
    simpa [List.append_eq_cons_iff, List.cons_eq_append_iff] using hsplit
  obtain ⟨m, -, hpending, -⟩ := hsound.pending rfl
  obtain ⟨h', start', hcoalesce, hjoins'⟩ := hcoalesces hpending
  obtain ⟨rfl, hblocks'⟩ := hjoined hjoins'
  exact ⟨s, h, hlive, hrelease, (hjoined hjoins).2, _, h', free, hpending, hcoalesce, hblocks'⟩

end Heap

end BlockHeap
