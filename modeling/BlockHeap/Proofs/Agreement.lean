import BlockHeap.Proofs.Totality

/-!
# Three views of a heap

The blocks of a heap can be listed, counted and checked.  `Session.Agree` says that the three tell
the same: the check reports nothing, it has met as many blocks as are listed and counted, both of
its walks have met as many free ones as are counted, and there are as many allocated ones as live
pointers.  What is counted is what it is meant to be, the largest free size and sizes that add up
to the arena.

The numbers are sums over the list (`Stats.freeBlocks_foldl`, `Stats.largestFree_foldl`), and the
live pointers stand for the allocated blocks one to one (`Session.Holds.length_live`), so the views
agree on every heap that a program can come to (`Session.Reachable.views_agree`).
-/

namespace BlockHeap

namespace Stats

lemma freeBlocks_foldl (blocks : List BlockInfo) (stats : Stats) :
    (blocks.foldl count stats).freeBlocks = stats.freeBlocks + freeCount blocks := by
  induction blocks generalizing stats with
  | nil => rfl
  | cons b rest ih =>
    have hcount : (stats.count b).freeBlocks = stats.freeBlocks + (!b.allocated).toNat := by
      unfold count
      cases b.allocated <;> rfl
    rw [List.foldl_cons, ih, hcount, freeCount_cons, Nat.add_assoc]

lemma largestFree_foldl (blocks : List BlockInfo) (stats : Stats) :
    (blocks.foldl count stats).largestFree =
      ((blocks.filter (!·.allocated)).map BlockInfo.size).foldl max stats.largestFree := by
  induction blocks generalizing stats with
  | nil => rfl
  | cons b rest ih =>
    rw [List.foldl_cons, ih]
    unfold count
    cases hall : b.allocated <;> simp [hall]

end Stats

lemma Heap.Shows.stats_free {h : Heap} {blocks skip : List BlockInfo}
    {free : SizeClass → List BlockInfo} {stats : Stats} (hh : h.Shows blocks skip free)
    (hstats : h.stats = .ok stats) :
    stats.freeBlocks = freeCount blocks ∧
      stats.largestFree = ((blocks.filter (!·.allocated)).map BlockInfo.size).max?.getD 0 := by
  rw [Heap.stats, hh.blocks_eq, Fault.ok_bind] at hstats
  obtain rfl := Except.ok.inj hstats
  constructor
  · rw [Stats.freeBlocks_foldl]
    exact Nat.zero_add _
  · rw [Stats.largestFree_foldl]
    cases (blocks.filter (!·.allocated)).map BlockInfo.size with
    | nil => rfl
    | cons n sizes => rw [List.max?_cons', Option.getD_some, List.foldl_cons, Nat.zero_max]

namespace Session

variable {arena : Arena} {s : Session} {blocks : List BlockInfo}
variable {free : SizeClass → List BlockInfo}

/-- The live pointers are those of the allocated blocks, in some order. -/
lemma Holds.live_perm (hh : Holds arena s blocks free) :
    s.live.Perm ((blocks.filter (·.allocated)).map BlockInfo.ptr) := by
  have hnodup : ((blocks.filter (·.allocated)).map BlockInfo.ptr).Nodup := by
    apply List.Nodup.of_map Ptr.offset
    rw [List.map_map]
    exact (hh.sound.laid.tiles.nodup_offset hh.sound.laid.valid).sublist
      (List.filter_sublist.map _)
  refine (List.perm_ext_iff_of_nodup hh.nodup hnodup).2 ?_
  intro p
  rw [hh.mem_live p]
  simp [and_assoc]

lemma Holds.length_live (hh : Holds arena s blocks free) :
    s.live.length = blocks.countP (·.allocated) := by
  rw [hh.live_perm.length_eq, List.length_map, List.countP_eq_length_filter]

/-- The blocks that are counted as allocated are as many as the live pointers. -/
lemma Reachable.exists_stats (hs : Reachable arena s) :
    ∃ stats, s.heap.stats = .ok stats ∧ stats.allocatedBlocks = s.live.length := by
  obtain ⟨blocks, free, hh⟩ := hs.holds
  obtain ⟨stats, hstats, -, hcounted, -⟩ := hh.sound.stats_eq
  obtain ⟨hfree, -⟩ := hh.sound.stats_free hstats
  have hlive := hh.length_live
  have hsplit : blocks.length = blocks.countP (·.allocated) + freeCount blocks := by
    simpa [freeCount] using List.length_eq_countP_add_countP (·.allocated) (l := blocks)
  exact ⟨stats, hstats, by omega⟩

/-- **Agreement.**  The list of the blocks, their numbers and the report of a check, with a listing
or without one, fit together and fit the live pointers: both walks of the check meet all free
blocks, the allocated blocks are as many as the pointers that were handed out and not given back,
and sentinels and blocks fill the arena behind what it held before. -/
structure Agree (s : Session) (blocks : List BlockInfo) (stats : Stats) (report : Report) :
    Prop where
  listed : s.heap.blocks = .ok blocks
  numbered : s.heap.stats = .ok stats
  checked : ∀ verbose, ∃ listing, (s.heap.check verbose).outcome = .ok ⟨report, listing⟩
  clean : report.violations = []
  reported : report.blocks = blocks.length
  counted : stats.allocatedBlocks + stats.freeBlocks = blocks.length
  arenaFree : report.arenaFree = stats.freeBlocks
  listFree : report.listFree = stats.freeBlocks
  nodup : s.live.Nodup
  allocated : stats.allocatedBlocks = s.live.length
  largest : stats.largestFree =
    ((blocks.filter (!·.allocated)).map BlockInfo.size).max?.getD 0
  bytes : stats.allocatedBytes + stats.freeBytes + s.heap.prologue + 16 = stats.arenaBytes
  arena : stats.arenaBytes = s.heap.memory.size

/-- **The views of a heap agree.**  Whatever a program has done with a heap, as long as it handed
over live pointers only, the check of the heap raises no false alarm, and it counts what the list of
the blocks and their numbers count. -/
theorem Reachable.views_agree (hs : Reachable arena s) :
    ∃ blocks stats report, s.Agree blocks stats report := by
  obtain ⟨blocks, free, hh⟩ := hs.holds
  obtain ⟨stats, hstats, harena, hcounted, hbytes⟩ := hh.sound.stats_eq
  obtain ⟨hfree, hlargest⟩ := hh.sound.stats_free hstats
  have hlive := hh.length_live
  have hsplit : blocks.length = blocks.countP (·.allocated) + freeCount blocks := by
    simpa [freeCount] using List.length_eq_countP_add_countP (·.allocated) (l := blocks)
  refine ⟨blocks, stats, ⟨[], blocks.length, freeCount blocks, freeCount blocks⟩, ?_⟩
  exact
    { listed := hh.sound.blocks_eq
      numbered := hstats
      checked := fun verbose => by
        obtain ⟨listing, hinspect⟩ := hh.sound.inspect_eq verbose
        exact ⟨listing, (s.heap.outcome_check verbose).trans hinspect⟩
      clean := rfl
      reported := rfl
      counted := hcounted
      arenaFree := hfree.symm
      listFree := hfree.symm
      nodup := hh.nodup
      allocated := by omega
      largest := hlargest
      bytes := hbytes
      arena := harena }

/-- The views of two small live blocks and a free one. -/
theorem Reachable.views_agree_small : ∃ (s : Session) (stats : Stats) (report : Report),
    s.live = [⟨64⟩, ⟨32⟩] ∧
      s.Agree [⟨32, 32, true⟩, ⟨64, 32, true⟩, ⟨96, 32, false⟩] stats report ∧
      report.blocks = 3 ∧ stats.allocatedBlocks = 2 ∧ stats.largestFree = 32 := by
  obtain ⟨s, hs, hlive, hblocks⟩ := exists_small
  obtain ⟨blocks, stats, report, hagree⟩ := Reachable.views_agree hs
  obtain rfl := Except.ok.inj (hagree.listed.symm.trans hblocks)
  exact ⟨s, stats, report, hlive, hagree, hagree.reported, by rw [hagree.allocated, hlive]; rfl,
    hagree.largest⟩

end Session

end BlockHeap
