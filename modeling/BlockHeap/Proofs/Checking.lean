import BlockHeap.Check.Report
import BlockHeap.Proofs.Cycles
import BlockHeap.Proofs.Walking
import Mathlib.Data.List.Chain
import Mathlib.Data.List.Nodup
import Mathlib.Data.List.Perm.Subperm

/-!
# Checking a sound heap

The check of a sound heap finds nothing.  The walk over the blocks meets the prologue, the blocks of
the layout and the epilogue, none of them broken (`Laid.surveyBlocks_eq`).  No list leads back into
itself (`FreeLists.Represents.hasCycle_eq`), so each is walked to its end, and its blocks are those
of its class (`Listed.surveyClass_eq`).  Both walks have counted all free blocks, hence
`Heap.Sound.inspect_eq`.
-/

namespace BlockHeap

/-- How many of the blocks are free. -/
def freeCount (blocks : List BlockInfo) : Nat := blocks.countP (!·.allocated)

lemma freeCount_cons (b : BlockInfo) (blocks : List BlockInfo) :
    freeCount (b :: blocks) = (!b.allocated).toNat + freeCount blocks := by
  unfold freeCount
  cases hall : b.allocated <;> simp [hall, Nat.add_comm]

/-! ## The walk over the blocks -/

section

variable {m : Memory} {prologue start fuel pos block : Nat} {blocks rest : List BlockInfo}
variable {tag : Tag}

lemma Block.tagAt?_eq (hpos : pos + 8 ≤ m.size) : Block.tagAt? m pos = some ⟨m.wordAt pos⟩ := by
  rw [Block.tagAt?, Memory.word?, if_pos (show pos + Memory.wordSize ≤ m.size from hpos)]
  rfl

/-- Nothing is wrong with a block that has its tag at both ends. -/
lemma Block.inspect_eq (haligned : block % 8 = 0) (hlo : 8 ≤ block) (hsize : 16 ≤ tag.size)
    (hmin : block = prologue ∨ 32 ≤ tag.size) (hhi : block + tag.size ≤ m.size)
    (hlt : m.size < Checked.bound) (hfooter : m.wordAt (block + tag.size - 16) = tag.raw) :
    Block.inspect m prologue block tag = .ok ([], true) := by
  have hmin' : ¬ (block ≠ prologue ∧ tag.size < Block.minSize) := by
    rintro ⟨hne, hsmall⟩
    have : tag.size < 32 := hsmall
    rcases hmin with hmin | hmin
    · exact hne hmin
    · omega
  have hfooterOffset : Block.footerOffset block tag.size = .ok (block + tag.size - 16) := by
    rw [Block.footerOffset, Checked.add_eq (by omega), Fault.ok_bind]
    exact Checked.sub_eq (by simp only [Block.overhead, Memory.wordSize]; omega)
  rw [Block.inspect, Block.headerOffset, Memory.wordSize, Checked.sub_eq hlo, Fault.ok_bind,
    if_neg (show ¬ (m.size ≤ block - 8 ∨ m.size < block - 8 + tag.size) by omega), hfooterOffset,
    Fault.ok_bind, Block.tagAt?_eq (by omega), hfooter, if_pos (isAligned_iff.2 haligned),
    if_neg hmin']
  simp

/-- Nothing is wrong with the blocks of a layout, nor with the prologue. -/
lemma Laid.inspect_eq {b : BlockInfo} (h : Laid m prologue blocks) (hb : b ∈ blocks) :
    Block.inspect m prologue b.offset b.tag = .ok ([], true) := by
  have hsmall := h.size_lt
  have hbounds := h.bounds hb
  have hsize := h.size_tag hb
  apply Block.inspect_eq (h.aligned hb)
  · omega
  · omega
  · right
    omega
  · omega
  · omega
  · rw [hsize]
    exact (h.tagged b hb).2

lemma Laid.inspect_prologue (h : Laid m prologue blocks) :
    Block.inspect m prologue prologue (.of 16 true) = .ok ([], true) := by
  have hsmall := h.size_lt
  have hroom := h.prologue_room
  have hle := h.tiles.le
  have hsize := Tag.size_of_prologue
  apply Block.inspect_eq h.prologue_aligned
  · omega
  · omega
  · exact .inl rfl
  · omega
  · omega
  · rw [hsize, Nat.add_sub_cancel]
    exact h.prologue_footer

lemma Laid.survey_eq (h : Laid m prologue blocks) (htiles : Tiles start rest m.size)
    (hrest : rest ⊆ blocks) (hco : Coalesced rest) (hstart : prologue < start)
    (lastFree : Option Nat) (hlast : lastFree.isSome → ∀ x ∈ rest.head?, x.allocated = true)
    (hfuel : rest.length < fuel) :
    Block.survey m prologue fuel start lastFree =
      .ok ⟨rest.map BlockInfo.offset ++ [m.size], [], rest.length, freeCount rest⟩ := by
  have hsmall := h.size_lt
  have hroom := h.prologue_room
  induction rest generalizing start fuel lastFree with
  | nil =>
    obtain ⟨fuel, rfl⟩ : ∃ k, fuel = k + 1 := ⟨fuel - 1, by omega⟩
    obtain rfl : start = m.size := htiles
    have htag : Block.tagAt? m (m.size - 8) = some (.of 0 true) := by
      rw [Block.tagAt?_eq (by omega), h.epilogue]
    rw [Block.survey, Block.headerOffset, Memory.wordSize, Checked.sub_eq (by omega), Fault.ok_bind,
      htag]
    simp [freeCount]
  | cons b rest ih =>
    obtain ⟨fuel, rfl⟩ : ∃ k, fuel = k + 1 := ⟨fuel - 1, by omega⟩
    obtain ⟨rfl, htiles⟩ := htiles
    have hb : b ∈ blocks := hrest List.mem_cons_self
    have hbounds := h.bounds hb
    have htag : Block.tagAt? m (b.offset - 8) = some b.tag := by
      rw [Block.tagAt?_eq (by omega), (h.tagged b hb).1]
    have hne : ¬ b.size = 0 := by omega
    have hnext : Block.survey m prologue fuel (b.offset + b.size)
        (if b.allocated then none else some b.offset) =
          .ok ⟨rest.map BlockInfo.offset ++ [m.size], [], rest.length, freeCount rest⟩ := by
      refine ih htiles (fun x hx => hrest (List.mem_cons_of_mem _ hx)) hco.tail (by omega) _ ?_
        (Nat.lt_of_succ_lt_succ hfuel)
      intro hsome x hx
      have hpair := (List.isChain_cons.1 hco).1 x hx
      cases hall : b.allocated with
      | true => simp [hall] at hsome
      | false => simpa [hall] using hpair
    rw [Block.survey, Block.headerOffset, Memory.wordSize, Checked.sub_eq (by omega), Fault.ok_bind,
      htag]
    simp only [h.size_tag hb, hne, if_false, h.inspect_eq hb, Fault.ok_bind, if_true,
      h.allocated_tag hb, Checked.add_eq (show b.offset + b.size < Checked.bound by omega), hnext]
    cases lastFree with
    | none => simp [Findings.append, freeCount_cons, Nat.ne_of_gt hstart, Nat.add_comm]
    | some prev =>
      -- two neighbours are never both free
      have hall : b.allocated = true := hlast rfl b rfl
      simp [Findings.append, freeCount_cons, Nat.ne_of_gt hstart, Nat.add_comm, hall]

lemma Laid.surveyBlocks_eq (h : Laid m prologue blocks) (hco : Coalesced blocks) :
    Block.survey m prologue (m.size + 9) prologue none =
      .ok ⟨prologue :: (blocks.map BlockInfo.offset ++ [m.size]), [], blocks.length,
        freeCount blocks⟩ := by
  have hsmall := h.size_lt
  have hroom := h.prologue_room
  have hlen := h.tiles.length_le h.valid
  have htag : Block.tagAt? m (prologue - 8) = some (.of 16 true) := by
    rw [Block.tagAt?_eq (by omega), h.prologue_header]
  have hrest := h.survey_eq h.tiles (List.Subset.refl _) hco (by omega) none nofun
    (show blocks.length < m.size + 8 by omega)
  rw [Block.survey, Block.headerOffset, Memory.wordSize, Checked.sub_eq (by omega), Fault.ok_bind,
    htag]
  simp only [Tag.size_of_prologue, h.inspect_prologue, Fault.ok_bind, Tag.allocated_of_prologue,
    if_true, Nat.reduceEqDiff, if_false,
    Checked.add_eq (show prologue + 16 < Checked.bound by omega), hrest]
  simp [Findings.append]

end

/-! ## The walks over the lists -/

section

variable {m : Memory} {prologue fuel i : Nat} {lists : FreeLists} {blocks : List BlockInfo}
variable {free : SizeClass → List BlockInfo} {queues : SizeClass → List Nat} {c : SizeClass}

lemma Link.at?_eq {pos : Nat} (hpos : pos + 8 ≤ m.size) :
    Link.at? m pos = Link.decode (m.wordAt pos) := by
  rw [Link.at?, Memory.word?, if_pos (show pos + Memory.wordSize ≤ m.size from hpos),
    Option.bind_some]

lemma Link.at?_of_next {block : Nat} {next : Option Nat} (h : Link.next m block = .ok next) :
    Link.at? m block = next := by
  obtain ⟨word, hword, hnext⟩ := bind_eq_ok_iff.1 h
  obtain ⟨hin, rfl⟩ := Memory.readWord_eq_ok_iff.1 hword
  exact (Link.at?_eq hin).trans (Except.ok.inj hnext)

lemma Link.at?_of_prev {block : Nat} {prev : Option Nat} (h : Link.prev m block = .ok prev) :
    Link.at? m (block + Memory.wordSize) = prev := by
  obtain ⟨pos, hpos, h⟩ := bind_eq_ok_iff.1 h
  obtain ⟨-, rfl⟩ := Checked.add_eq_ok_iff.1 hpos
  obtain ⟨word, hword, hprev⟩ := bind_eq_ok_iff.1 h
  obtain ⟨hin, rfl⟩ := Memory.readWord_eq_ok_iff.1 hword
  exact (Link.at?_eq hin).trans (Except.ok.inj hprev)

lemma Link.header?_eq_some_iff {block : Nat} {tag : Tag} : Link.header? m block = some tag ↔
    (8 ≤ block ∧ block + 16 ≤ m.size) ∧ Block.tagAt? m (block - 8) = some tag := by
  unfold Link.header? Memory.wordSize
  by_cases hin : 8 ≤ block ∧ block + 16 ≤ m.size <;> simp [hin]

lemma FreeLists.Represents.at?_eq (h : lists.Represents m queues) (hm : m.size < Checked.bound)
    {node : Nat} (hnode : (queues c)[i]? = some node) : Link.at? m node = (queues c)[i + 1]? := by
  obtain ⟨hi, rfl⟩ := List.getElem?_eq_some_iff.1 hnode
  have hq : queues c = (queues c).take i ++ (queues c)[i] :: (queues c).drop (i + 1) := by
    rw [List.getElem_cons_drop, List.take_append_drop]
  rw [Link.at?_of_next (FreeLists.neighbours_eq h hq hm).2, List.head?_drop]

/-- The links lead through the sequence and then nowhere. -/
lemma FreeLists.Represents.follow_eq (h : lists.Represents m queues) (hm : m.size < Checked.bound)
    (c : SizeClass) (n : Nat) : Link.follow m (lists.head c) n = (queues c)[n]? := by
  induction n with
  | zero => exact (h.head c).trans List.head?_eq_getElem?
  | succ n ih =>
    rw [Link.follow_succ, ih]
    cases hnode : (queues c)[n]? with
    | none =>
      have hlen := List.getElem?_eq_none_iff.1 hnode
      exact (List.getElem?_eq_none (Nat.le_succ_of_le hlen)).symm
    | some node => exact h.at?_eq hm hnode

lemma FreeLists.Represents.hasCycle_eq (h : lists.Represents m queues)
    (hm : m.size < Checked.bound) : Link.hasCycle m (lists.head c) = .ok false := by
  have hlen := h.length_le c
  apply Link.hasCycle_of_end
  rw [h.follow_eq hm]
  exact List.getElem?_eq_none (by omega)

/-- The walk over a list from any block on. -/
lemma Listed.survey_eq (hlaid : Laid m prologue blocks) (h : Listed m lists blocks [] free)
    {before rest : List BlockInfo} (hq : free c = before ++ rest) (hfuel : rest.length ≤ fuel) :
    Link.survey m c fuel (before.map BlockInfo.offset).getLast? (rest.map BlockInfo.offset).head? =
      .ok ⟨rest.map BlockInfo.offset, [], 0, rest.length⟩ := by
  have hsmall := hlaid.size_lt
  induction rest generalizing before fuel with
  | nil => cases fuel <;> rfl
  | cons b rest ih =>
    obtain ⟨fuel, rfl⟩ : ∃ k, fuel = k + 1 := ⟨fuel - 1, by rw [List.length_cons] at hfuel; omega⟩
    obtain ⟨hb, hfree, hc, -⟩ := (h.mem_iff c b).1 (hq ▸ by simp)
    have hbounds := hlaid.bounds hb
    have hq' : (free c).map BlockInfo.offset =
        before.map BlockInfo.offset ++ b.offset :: rest.map BlockInfo.offset := by simp [hq]
    obtain ⟨hprev, hnext⟩ := FreeLists.neighbours_eq h.represents hq' (by omega)
    have hheader : Link.header? m b.offset = some b.tag := by
      refine Link.header?_eq_some_iff.2 ⟨by omega, ?_⟩
      rw [Block.tagAt?_eq (by omega), (hlaid.tagged b hb).1]
    have hinspect :
        Link.inspect m c (before.map BlockInfo.offset).getLast? b.offset b.tag = [] := by
      simp [Link.inspect, Link.at?_of_prev hprev, hlaid.size_tag hb,
        hlaid.allocated_tag hb, hfree, hc]
    have hrest := ih (show free c = (before ++ [b]) ++ rest by simp [hq])
      (Nat.le_of_succ_le_succ hfuel)
    rw [List.map_append, List.map_cons, List.map_nil, List.getLast?_concat] at hrest
    rw [List.map_cons, List.head?_cons, Link.survey, hheader]
    simp only [Link.at?_of_next hnext, hrest, Fault.ok_bind, hinspect]
    simp [Findings.append, Nat.add_comm]

lemma Listed.surveyClass_eq (hlaid : Laid m prologue blocks) (h : Listed m lists blocks [] free)
    (c : SizeClass) :
    Link.surveyClass m lists c =
      .ok ⟨(free c).map BlockInfo.offset, [], 0, (free c).length⟩ := by
  have hsmall := hlaid.size_lt
  have hlen := h.represents.length_le c
  rw [List.length_map] at hlen
  rw [Link.surveyClass, h.represents.hasCycle_eq (by omega), Fault.ok_bind,
    h.represents.head c]
  exact h.survey_eq hlaid (show free c = [] ++ free c from rfl) (by omega)

end

/-! ## The whole check -/

section

variable {m : Memory} {prologue : Nat} {lists : FreeLists} {blocks : List BlockInfo}
variable {free : SizeClass → List BlockInfo}

lemma Laid.nodup (h : Laid m prologue blocks) : blocks.Nodup :=
  (h.tiles.nodup_offset h.valid).of_map _

/-- The lists together hold each free block once. -/
lemma Listed.length_flatMap (hlaid : Laid m prologue blocks) (h : Listed m lists blocks [] free) :
    ((List.finRange SizeClass.count).flatMap free).length = freeCount blocks := by
  have hperm : ((List.finRange SizeClass.count).flatMap free).Perm
      (blocks.filter (!·.allocated)) := by
    refine (List.perm_ext_iff_of_nodup ?_ (hlaid.nodup.filter _)).2 ?_
    · refine List.nodup_flatMap.2 ⟨fun c _ => h.nodup c, (List.nodup_finRange _).imp ?_⟩
      intro c d hne b hc hd
      apply hne
      exact ((h.mem_iff c b).1 hc).2.2.1.symm.trans ((h.mem_iff d b).1 hd).2.2.1
    · intro b
      simp only [List.mem_flatMap, List.mem_finRange, true_and, h.mem_iff, List.not_mem_nil,
        not_false_eq_true, and_true, List.mem_filter, Bool.not_eq_true', exists_and_left,
        exists_eq', and_true]
  rw [hperm.length_eq, freeCount, List.countP_eq_length_filter]

end

/-- The findings of walks that found nothing broken. -/
lemma Findings.concat_eq {α β : Type} (found : α → List β) (offset : β → Nat) (xs : List α) :
    ∃ seen, Findings.concat (xs.map fun x => ⟨(found x).map offset, [], 0, (found x).length⟩) =
      ⟨xs.flatMap fun x => (found x).map offset, [], seen, (xs.flatMap found).length⟩ := by
  induction xs with
  | nil => exact ⟨0, rfl⟩
  | cons x xs ih =>
    obtain ⟨seen, ih⟩ := ih
    exact ⟨0 + seen, by simp [Findings.concat, Findings.append, ih]⟩

/-- Every block with room for a header before it can be described. -/
lemma Block.exists_describe (m : Memory) {block : Nat} (hlo : 8 ≤ block) :
    ∃ line, Block.describe m block = .ok line := by
  rw [Block.describe, Block.headerOffset, Memory.wordSize, Checked.sub_eq hlo, Fault.ok_bind]
  cases Block.tagAt? m (block - 8) with
  | none => exact ⟨_, rfl⟩
  | some header =>
    by_cases hzero : header.size = 0
    · exact ⟨_, if_pos hzero⟩
    · have haligned := isAligned_iff.1 header.isAligned_size
      simp only [hzero, if_false]
      split
      · rw [Checked.sub_eq (by simp only [Block.overhead, Memory.wordSize]; omega)]
        cases hfooter : Block.tagAt? m (block + header.size - Block.overhead) with
        | none => exact ⟨_, by simp only [Fault.map_eq, hfooter, Fault.ok_bind]; rfl⟩
        | some footer => exact ⟨_, by simp only [Fault.map_eq, hfooter, Fault.ok_bind]; rfl⟩
      · exact ⟨_, rfl⟩

lemma exists_mapM {α β : Type} {f : α → Except Fault β} (xs : List α)
    (hf : ∀ x ∈ xs, ∃ y, f x = .ok y) : ∃ ys, xs.mapM f = .ok ys := by
  induction xs with
  | nil => exact ⟨[], rfl⟩
  | cons x xs ih =>
    obtain ⟨y, hy⟩ := hf x List.mem_cons_self
    obtain ⟨ys, hys⟩ := ih fun z hz => hf z (List.mem_cons_of_mem _ hz)
    exact ⟨y :: ys, by rw [List.mapM_cons, hy, Fault.ok_bind, hys]; rfl⟩

lemma mapM_eq_ok_iff {α β : Type} {f : α → Except Fault β} {xs : List α} {ys : List β} :
    xs.mapM f = .ok ys ↔ List.Forall₂ (fun x y => f x = .ok y) xs ys := by
  constructor
  · intro hmap
    induction xs generalizing ys with
    | nil =>
      cases hmap
      exact .nil
    | cons x xs ih =>
      rw [List.mapM_cons] at hmap
      obtain ⟨y, hy, hmap⟩ := bind_eq_ok_iff.1 hmap
      obtain ⟨ys, hys, hmap⟩ := bind_eq_ok_iff.1 hmap
      cases hmap
      exact .cons hy (ih hys)
  · intro hpairs
    induction hpairs with
    | nil => rfl
    | cons hy _ ih =>
      rw [List.mapM_cons, hy, Fault.ok_bind, ih]
      rfl

namespace Heap

variable {h : Heap} {blocks : List BlockInfo} {free : SizeClass → List BlockInfo}

lemma exists_listing (h : Heap) (visited : List Nat) (hvisited : ∀ block ∈ visited, 8 ≤ block) :
    ∃ listing, h.listing visited = .ok listing := by
  obtain ⟨lines, hlines⟩ := exists_mapM (f := Block.describe h.memory) visited fun block hblock =>
    Block.exists_describe _ (hvisited block hblock)
  exact ⟨_, by rw [Heap.listing, hlines, Fault.ok_bind]; rfl⟩

/-- The walks over the lists find nothing broken and meet every free block once. -/
lemma Sound.surveyLists_eq (hs : h.Sound blocks free) :
    ∃ seen, h.surveyLists = .ok ⟨(List.finRange SizeClass.count).flatMap
      fun c => (free c).map BlockInfo.offset, [], seen, freeCount blocks⟩ := by
  have hclass : Link.surveyClass h.memory h.lists =
      fun c => pure ⟨(free c).map BlockInfo.offset, [], 0, (free c).length⟩ :=
    funext fun c => hs.listed.surveyClass_eq hs.laid c
  obtain ⟨seen, hconcat⟩ := Findings.concat_eq free BlockInfo.offset
    (List.finRange SizeClass.count)
  refine ⟨seen, ?_⟩
  rw [Heap.surveyLists, hclass, List.mapM_pure, Fault.pure_eq, Fault.ok_bind, hconcat,
    hs.listed.length_flatMap hs.laid]
  rfl

/-- **The check of a sound heap.**  It comes to an end, finds nothing broken, and counts the blocks
and the free ones. -/
lemma Sound.inspect_eq (hs : h.Sound blocks free) (verbose : Bool) :
    ∃ listing, h.inspect verbose =
      .ok ⟨⟨[], blocks.length, freeCount blocks, freeCount blocks⟩, listing⟩ := by
  have hroom := hs.laid.prologue_room
  have hle := hs.laid.tiles.le
  have hprologue : Block.inspectPrologue h.memory h.prologue = .ok [] := by
    have htag : Block.tagAt? h.memory (h.prologue - 8) = some (.of 16 true) := by
      rw [Block.tagAt?_eq (by omega), hs.laid.prologue_header]
    rw [Block.inspectPrologue, Block.headerOffset, Memory.wordSize, Checked.sub_eq (by omega),
      Fault.ok_bind, htag]
    simp [Block.prologueSize, Block.overhead, Memory.wordSize]
  have harena : h.surveyBlocks = .ok _ := hs.laid.surveyBlocks_eq hs.coalesced
  obtain ⟨seen, hlists⟩ := hs.surveyLists_eq
  obtain ⟨listing, hlisting⟩ := h.exists_listing
    ((h.prologue :: (blocks.map BlockInfo.offset ++ [h.memory.size])) ++
      (List.finRange SizeClass.count).flatMap fun c => (free c).map BlockInfo.offset)
    fun block hblock => by
      simp only [List.mem_append, List.mem_cons, List.mem_map, List.mem_flatMap, List.not_mem_nil,
        or_false] at hblock
      rcases hblock with (rfl | ⟨b, hb, rfl⟩ | rfl) | ⟨c, -, b, hb, rfl⟩
      · omega
      · have := hs.laid.bounds hb
        omega
      · omega
      · have := hs.laid.bounds ((hs.listed.mem_iff c b).1 hb).1
        omega
  have hlen := hs.laid.tiles.length_le hs.laid.valid
  have hsmall := hs.laid.size_lt
  have hcount : Checked.count blocks.length = .ok blocks.length := Checked.count_eq (by omega)
  have hfree : Checked.count (freeCount blocks) = .ok (freeCount blocks) :=
    Checked.count_eq (List.countP_le_length.trans_lt (by omega))
  cases verbose with
  | true =>
    refine ⟨listing, ?_⟩
    simp only [Heap.inspect, hprologue, harena, hlists, hcount, hfree, Fault.ok_bind, if_true,
      hlisting, List.append_nil, Fault.pure_eq]
  | false =>
    refine ⟨[], ?_⟩
    simp [Heap.inspect, hprologue, harena, hlists, hcount, hfree]

end Heap

end BlockHeap
