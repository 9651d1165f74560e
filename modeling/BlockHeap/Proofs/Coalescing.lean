import BlockHeap.Proofs.Exchange
import Mathlib.Data.List.Chain

/-!
# Joining a block with its free neighbours

A layout `pre ++ b :: post` with `b` on no list is what coalescing starts from.  The free
neighbours of `b` are the last block of `pre` and the first one of `post`, if those are free;
`joint pre b post` is the block that covers all three, and `joined pre b post` the layout with that
block in their place.

The main result is `Heap.Shows.coalesce`: in each of the four cases the free neighbours leave their
lists, the joint block becomes the first of the class of its size, and no byte outside the joint
block and the link words of free blocks is touched; `Heap.Shows.coalesce_exact` says which bytes of
the joint block are.  `coalesced_joined` adds that no two free blocks are neighbours afterwards if
they were none before and after `b`.
-/

namespace BlockHeap

/-! ## The layout after joining -/

/-- The block before the end of a list, if it is free. -/
def lastFree? (pre : List BlockInfo) : Option BlockInfo := pre.getLast?.filter (!·.allocated)

/-- The block at the start of a list, if it is free. -/
def firstFree? (post : List BlockInfo) : Option BlockInfo := post.head?.filter (!·.allocated)

/-- The blocks before a joint one. -/
def beforeJoint (pre : List BlockInfo) : List BlockInfo :=
  if (lastFree? pre).isSome then pre.dropLast else pre

/-- The blocks after a joint one. -/
def afterJoint (post : List BlockInfo) : List BlockInfo :=
  if (firstFree? post).isSome then post.tail else post

/-- A free block together with its free neighbours. -/
def joint (pre : List BlockInfo) (b : BlockInfo) (post : List BlockInfo) : BlockInfo :=
  ⟨((lastFree? pre).getD b).offset,
    (lastFree? pre).elim 0 BlockInfo.size + b.size + (firstFree? post).elim 0 BlockInfo.size, false⟩

/-- The layout with a free block and its free neighbours joined. -/
def joined (pre : List BlockInfo) (b : BlockInfo) (post : List BlockInfo) : List BlockInfo :=
  beforeJoint pre ++ joint pre b post :: afterJoint post

/-- The lists without the free neighbours of a block and with the joint block in front. -/
def relist (free : SizeClass → List BlockInfo) (pre : List BlockInfo) (b : BlockInfo)
    (post : List BlockInfo) : SizeClass → List BlockInfo :=
  attach ((lastFree? pre).elim ((firstFree? post).elim free (detach free))
    (detach ((firstFree? post).elim free (detach free)))) (joint pre b post)

section

variable {pre post : List BlockInfo} {b x : BlockInfo}

@[simp] lemma lastFree?_nil : lastFree? [] = none := rfl

@[simp] lemma lastFree?_concat (pre : List BlockInfo) (x : BlockInfo) :
    lastFree? (pre ++ [x]) = if x.allocated then none else some x := by
  cases hx : x.allocated <;> simp [lastFree?, Option.filter, hx]

@[simp] lemma firstFree?_nil : firstFree? [] = none := rfl

@[simp] lemma firstFree?_cons (x : BlockInfo) (post : List BlockInfo) :
    firstFree? (x :: post) = if x.allocated then none else some x := by
  cases hx : x.allocated <;> simp [firstFree?, Option.filter, hx]

lemma beforeJoint_append (pre : List BlockInfo) :
    beforeJoint pre ++ (lastFree? pre).toList = pre := by
  rcases List.eq_nil_or_concat pre with rfl | ⟨xs, x, rfl⟩
  · rfl
  · rw [List.concat_eq_append]
    cases hx : x.allocated <;> simp [beforeJoint, hx]

lemma firstFree?_append (post : List BlockInfo) :
    (firstFree? post).toList ++ afterJoint post = post := by
  cases post with
  | nil => rfl
  | cons x post => cases hx : x.allocated <;> simp [afterJoint, hx]

lemma free_of_lastFree? (h : x ∈ lastFree? pre) : x ∈ pre ∧ x.allocated = false := by
  obtain ⟨hx, hfree⟩ := Option.filter_eq_some_iff.1 h
  exact ⟨List.mem_of_getLast? hx, by simpa using hfree⟩

lemma free_of_firstFree? (h : x ∈ firstFree? post) : x ∈ post ∧ x.allocated = false := by
  obtain ⟨hx, hfree⟩ := Option.filter_eq_some_iff.1 h
  exact ⟨List.mem_of_mem_head? hx, by simpa using hfree⟩

lemma mem_beforeJoint (hx : x.allocated = true) : x ∈ beforeJoint pre ↔ x ∈ pre := by
  conv_rhs => rw [← beforeJoint_append pre, List.mem_append]
  apply (or_iff_left _).symm
  intro hlast
  exact Bool.false_ne_true ((free_of_lastFree? (Option.mem_toList.1 hlast)).2.symm.trans hx)

lemma mem_afterJoint (hx : x.allocated = true) : x ∈ afterJoint post ↔ x ∈ post := by
  conv_rhs => rw [← firstFree?_append post, List.mem_append]
  apply (or_iff_right _).symm
  intro hfirst
  exact Bool.false_ne_true ((free_of_firstFree? (Option.mem_toList.1 hfirst)).2.symm.trans hx)

lemma mem_joined (hx : x.allocated = true) : x ∈ joined pre b post ↔ x ∈ pre ++ post := by
  have hne : x ≠ joint pre b post := (BlockInfo.ne_of_free_of_allocated rfl hx).symm
  simp [joined, mem_beforeJoint hx, mem_afterJoint hx, hne]

/-- A layout with the free neighbours of one of its blocks set apart. -/
lemma append_cons_eq (pre : List BlockInfo) (b : BlockInfo) (post : List BlockInfo) :
    pre ++ b :: post = beforeJoint pre ++
      (((lastFree? pre).toList ++ b :: (firstFree? post).toList) ++ afterJoint post) := by
  conv_lhs => rw [← beforeJoint_append pre, ← firstFree?_append post]
  simp

lemma joint_extent {lo hi : Nat}
    (h : Tiles lo ((lastFree? pre).toList ++ b :: (firstFree? post).toList) hi) :
    (joint pre b post).offset = lo ∧ (joint pre b post).offset + (joint pre b post).size = hi := by
  unfold joint
  revert h
  cases lastFree? pre <;> cases firstFree? post <;>
    simp [Tiles] <;> omega

/-- The rest of a block joins nothing but what stands behind it. -/
lemma joint_back (pre : List BlockInfo) (b : BlockInfo) (needed : Nat) (post : List BlockInfo) :
    joint (pre ++ [b.front needed]) (b.back needed) post =
      ⟨b.offset + needed, b.size - needed + (firstFree? post).elim 0 BlockInfo.size, false⟩ := by
  simp [joint, BlockInfo.front, BlockInfo.back]

lemma Laid.tiles_joint {m : Memory} {prologue : Nat} (h : Laid m prologue (pre ++ b :: post)) :
    Tiles (prologue + 16) (beforeJoint pre) (joint pre b post).offset ∧
      Tiles (joint pre b post).offset
        ((lastFree? pre).toList ++ b :: (firstFree? post).toList)
        ((joint pre b post).offset + (joint pre b post).size) ∧
      Tiles ((joint pre b post).offset + (joint pre b post).size) (afterJoint post) m.size := by
  have htiles := h.tiles
  rw [append_cons_eq, tiles_append] at htiles
  obtain ⟨lo, hbefore, hrest⟩ := htiles
  obtain ⟨hi, hmid, hafter⟩ := tiles_append.1 hrest
  obtain ⟨rfl, rfl⟩ := joint_extent hmid
  exact ⟨hbefore, hmid, hafter⟩

lemma valid_joint (h : ∀ x ∈ pre ++ b :: post, x.Valid) : (joint pre b post).Valid := by
  have hb := h b (by simp)
  have hpre : ∀ x ∈ lastFree? pre, x.size % 8 = 0 := by
    intro x hx
    exact (h x (by simp [(free_of_lastFree? hx).1])).1
  have hpost : ∀ x ∈ firstFree? post, x.size % 8 = 0 := by
    intro x hx
    exact (h x (by simp [(free_of_firstFree? hx).1])).1
  unfold BlockInfo.Valid joint at *
  cases hl : lastFree? pre <;> cases hf : firstFree? post <;>
    simp [hl, hf] at hpre hpost ⊢ <;> omega

lemma mem_of_mem_sides (hx : x ∈ beforeJoint pre ++ afterJoint post) : x ∈ pre ++ post := by
  rw [← beforeJoint_append pre, ← firstFree?_append post]
  simp only [List.mem_append] at hx ⊢
  tauto

/-- Link words that joining writes lie in the joint block or belong to other blocks. -/
lemma covers_of_inLinks {pos : Nat} (hvalid : (joint pre b post).Valid)
    (hpos : InLinks (pre ++ post) (joined pre b post) pos) :
    (joint pre b post).Covers pos ∨ InFreeSlot (pre ++ post) pos := by
  rcases hpos with hpos | hpos
  · exact .inr hpos
  · exact (hpos.covers_or hvalid.2).imp_right fun hother =>
      hother.mono fun x hx => mem_of_mem_sides hx

/-! ## No two free neighbours -/

lemma Coalesced.before (h : Coalesced (pre ++ post)) : Coalesced pre :=
  (List.isChain_append.1 h).1

lemma Coalesced.after (h : Coalesced (pre ++ b :: post)) : Coalesced post :=
  (List.isChain_append.1 h).2.1.tail

lemma allocated_of_beforeJoint (h : Coalesced pre) (hx : x ∈ (beforeJoint pre).getLast?) :
    x.allocated = true := by
  rcases List.eq_nil_or_concat pre with rfl | ⟨xs, y, rfl⟩
  · simp [beforeJoint] at hx
  · rw [List.concat_eq_append] at h hx
    cases hy : y.allocated with
    | true =>
      simp only [beforeJoint, lastFree?_concat, hy, if_true, Option.isSome_none, Bool.false_eq_true,
        if_false, List.getLast?_concat, Option.mem_some_iff] at hx
      exact hx ▸ hy
    | false =>
      simp only [beforeJoint, lastFree?_concat, hy, Bool.false_eq_true, if_false,
        Option.isSome_some, if_true, List.dropLast_concat] at hx
      have := (List.isChain_append.1 h).2.2 x hx y (by simp)
      simpa [hy] using this

lemma allocated_of_afterJoint (h : Coalesced post) (hx : x ∈ (afterJoint post).head?) :
    x.allocated = true := by
  cases post with
  | nil => simp [afterJoint] at hx
  | cons y post =>
    cases hy : y.allocated with
    | true =>
      simp only [afterJoint, firstFree?_cons, hy, if_true, Option.isSome_none, Bool.false_eq_true,
        if_false, List.head?_cons, Option.mem_some_iff] at hx
      exact hx ▸ hy
    | false =>
      simp only [afterJoint, firstFree?_cons, hy, Bool.false_eq_true, if_false,
        Option.isSome_some, if_true, List.tail_cons] at hx
      cases post with
      | nil => simp at hx
      | cons z post =>
        simp only [List.head?_cons, Option.mem_some_iff] at hx
        have := (List.isChain_cons_cons.1 h).1
        simpa [hy, hx] using this

lemma coalesced_joined (hpre : Coalesced pre) (hpost : Coalesced post) :
    Coalesced (joined pre b post) := by
  have hpre' : Coalesced (beforeJoint pre) := by
    rw [← beforeJoint_append pre] at hpre
    exact (List.isChain_append.1 hpre).1
  have hpost' : Coalesced (afterJoint post) := by
    rw [← firstFree?_append post] at hpost
    exact (List.isChain_append.1 hpost).2.1
  refine List.isChain_append.2 ⟨hpre', hpost'.cons ?_, ?_⟩
  · intro x hx
    exact .inr (allocated_of_afterJoint hpost hx)
  · intro x hx _ _
    exact .inl (allocated_of_beforeJoint hpre hx)

end

/-! ## The operation -/

namespace Heap.Shows

variable {h : Heap} {pre post blocks skip : List BlockInfo} {free : SizeClass → List BlockInfo}
variable {b : BlockInfo}

lemma freePredecessor?_eq (hh : h.Shows (pre ++ b :: post) skip free) :
    Block.freePredecessor? h.memory b.offset = .ok ((lastFree? pre).map BlockInfo.offset) := by
  have hbounds := hh.laid.bounds (show b ∈ pre ++ b :: post by simp)
  rw [Block.freePredecessor?, Block.precedingTag_eq (by omega) (by omega), Fault.ok_bind]
  obtain ⟨mid, hpre, hoff, -⟩ := tiles_append.1 hh.laid.tiles
  rcases List.eq_nil_or_concat pre with rfl | ⟨xs, x, rfl⟩
  · have hpro : b.offset - 16 = h.prologue := by
      have : h.prologue + 16 = mid := hpre
      omega
    rw [hpro, hh.laid.prologue_footer, if_pos Tag.allocated_of_prologue]
    rfl
  · rw [List.concat_eq_append] at hpre hh ⊢
    have hx : x ∈ xs ++ [x] ++ b :: post := by simp
    obtain ⟨mid', -, hxoff, hxmid⟩ := tiles_append.1 hpre
    have hend : x.offset + x.size = b.offset := by
      have : mid' + x.size = mid := hxmid
      omega
    have htag : Tag.mk (h.memory.wordAt (b.offset - 16)) = x.tag := by
      rw [← hend, (hh.laid.tagged x hx).2]
    rw [htag, hh.laid.allocated_tag hx, lastFree?_concat]
    cases hfree : x.allocated with
    | true => rfl
    | false =>
      simp only [Bool.false_eq_true, if_false, hh.laid.size_tag hx,
        Checked.sub_eq (show x.size ≤ b.offset by omega), Fault.ok_bind, Option.map_some]
      rw [← hend, Nat.add_sub_cancel]
      rfl

lemma next_eq (hh : h.Shows blocks skip free) (hb : b ∈ blocks) :
    Block.next h.memory b.offset = .ok (b.offset + b.size) := by
  have hbounds := hh.laid.bounds hb
  have hsmall := hh.laid.size_lt
  rw [Block.next, hh.size_eq hb, Fault.ok_bind, Checked.add_eq (by omega)]

lemma header_next (hh : h.Shows (pre ++ b :: post) skip free) :
    Block.header h.memory (b.offset + b.size) =
      .ok (post.head?.elim (Tag.of 0 true) BlockInfo.tag) := by
  obtain ⟨mid, -, hoff, hpost⟩ := tiles_append.1 hh.laid.tiles
  cases post with
  | nil =>
    have hbounds := hh.laid.bounds (show b ∈ pre ++ [b] by simp)
    have htop : b.offset + b.size = h.memory.size := by
      have : mid + b.size = h.memory.size := hpost
      omega
    rw [htop, hh.laid.header_top]
    rfl
  | cons x post =>
    have hx : b.offset + b.size = x.offset := by
      have := hpost.1
      omega
    rw [hx, hh.header_eq (by simp)]
    rfl

lemma freeSuccessor?_eq (hh : h.Shows (pre ++ b :: post) skip free) :
    Block.freeSuccessor? h.memory b.offset = .ok ((firstFree? post).map BlockInfo.offset) := by
  obtain ⟨mid, -, hoff, hpost⟩ := tiles_append.1 hh.laid.tiles
  rw [Block.freeSuccessor?, hh.next_eq (by simp), Fault.ok_bind, hh.header_next, Fault.ok_bind]
  cases post with
  | nil => simp
  | cons x post =>
    have hx : b.offset + b.size = x.offset := by
      have := hpost.1
      omega
    rw [List.head?_cons, Option.elim_some, hh.laid.allocated_tag (by simp), firstFree?_cons, hx]
    cases x.allocated <;> rfl

lemma free_predecessor (hh : h.Shows (pre ++ b :: post) skip free) :
    ∀ x ∈ lastFree? pre, x ∈ pre ++ b :: post ∧ x.allocated = false ∧ x ≠ b := by
  intro x hx
  obtain ⟨hmem, hfree⟩ := free_of_lastFree? hx
  have := hh.laid.before hmem
  refine ⟨by simp [hmem], hfree, ?_⟩
  rintro rfl
  omega

lemma free_successor (hh : h.Shows (pre ++ b :: post) skip free) :
    ∀ x ∈ firstFree? post, x ∈ pre ++ b :: post ∧ x.allocated = false ∧ x ≠ b := by
  intro x hx
  obtain ⟨hmem, hfree⟩ := free_of_firstFree? hx
  have := hh.laid.after hmem
  refine ⟨by simp [hmem], hfree, ?_⟩
  rintro rfl
  omega

lemma free_neighbours_ne (hh : h.Shows (pre ++ b :: post) skip free) :
    ∀ x ∈ lastFree? pre, ∀ y ∈ firstFree? post, x ≠ y := by
  rintro x hx y hy rfl
  have h₁ := hh.laid.before (free_of_lastFree? hx).1
  have h₂ := hh.laid.after (free_of_firstFree? hy).1
  omega

/-- Free neighbours leave their lists. -/
lemma unlinkNeighbours {prev next : Option BlockInfo} (hh : h.Shows blocks [b] free)
    (hprev : ∀ x ∈ prev, x ∈ blocks ∧ x.allocated = false ∧ x ≠ b)
    (hnext : ∀ x ∈ next, x ∈ blocks ∧ x.allocated = false ∧ x ≠ b)
    (hne : ∀ x ∈ prev, ∀ y ∈ next, x ≠ y)
    (hsize : prev.elim 0 BlockInfo.size + b.size + next.elim 0 BlockInfo.size < Checked.bound) :
    ∃ m lists, h.unlinkNeighbours b.offset b.size (prev.map BlockInfo.offset)
        (next.map BlockInfo.offset) =
          .ok (h.put m lists, (prev.getD b).offset,
            prev.elim 0 BlockInfo.size + b.size + next.elim 0 BlockInfo.size) ∧
      (h.put m lists).Shows blocks (prev.toList ++ b :: next.toList)
        (prev.elim (next.elim free (detach free)) (detach (next.elim free (detach free)))) ∧
      Memory.ChangedOnly (InFreeSlot (blocks.filter (· ∉ [b]))) h.memory m := by
  cases next with
  | none =>
    cases prev with
    | none => exact ⟨h.memory, h.lists, by simp [Heap.unlinkNeighbours], hh, .refl _ _⟩
    | some p =>
      obtain ⟨hp, hpfree, hpb⟩ := hprev p rfl
      obtain ⟨m, lists, hunlink, hshows, hframe⟩ :=
        hh.unlink_exact hp hpfree (by simpa using hpb)
      refine ⟨m, lists, ?_, hshows, hframe⟩
      simp only [Option.elim_some, Option.elim_none, Nat.add_zero] at hsize
      simp [Heap.unlinkNeighbours, hunlink, Checked.add_eq (Nat.add_comm p.size b.size ▸ hsize),
        Nat.add_comm]
  | some n =>
    obtain ⟨hn, hnfree, hnb⟩ := hnext n rfl
    obtain ⟨m, lists, hunlink, hshows, hframe⟩ := hh.unlink_exact hn hnfree (by simpa using hnb)
    cases prev with
    | none =>
      refine ⟨m, lists, ?_, ⟨hshows.laid, hshows.listed.congr_skip ?_⟩, hframe⟩
      · simp only [Option.elim_some, Option.elim_none, Nat.zero_add] at hsize
        simp [Heap.unlinkNeighbours, hunlink, Checked.add_eq hsize]
      · simp [or_comm]
    | some p =>
      obtain ⟨hp, hpfree, hpb⟩ := hprev p rfl
      have hpn := hne p rfl n rfl
      obtain ⟨m', lists', hunlink', hshows', hframe'⟩ :=
        hshows.unlink_exact hp hpfree (by simpa using ⟨hpn, hpb⟩)
      refine ⟨m', lists', ?_, ⟨hshows'.laid, hshows'.listed.congr_skip ?_⟩,
        hframe.trans (hframe'.mono fun pos hpos => hpos.mono fun x hx => ?_)⟩
      · simp only [Option.elim_some] at hsize
        simp [Heap.unlinkNeighbours, hunlink, hunlink', Checked.add_eq hsize,
          Checked.add_eq (show p.size + b.size < Checked.bound by omega)]
      · simp [or_comm, or_left_comm]
      · simp only [List.mem_filter, List.mem_cons, decide_eq_true_eq] at hx ⊢
        exact ⟨hx.1, fun hin => hx.2 (.inr hin)⟩

/-- A free block that takes the place of blocks on no list enters the list of its class. -/
lemma insertFree {mid : List BlockInfo} (hh : h.Shows (pre ++ (mid ++ post)) mid free)
    (hfree : b.allocated = false) (hpre : Tiles (h.prologue + 16) pre b.offset)
    (hpost : Tiles (b.offset + b.size) post h.memory.size) (hvalid : b.Valid) :
    ∃ m lists, h.insertFree b.offset b.size = .ok (h.put m lists) ∧
      (h.put m lists).Shows (pre ++ (b :: post)) [] (attach free b) ∧
      Memory.ChangedOnly (fun pos => b.AtTags pos ∨ InFreeSlot (pre ++ b :: post) pos)
        h.memory m := by
  obtain ⟨m₁, hwrite, hshows₁, hframe₁⟩ := hh.rewrite b hpre hpost hvalid
  have hb : b ∈ pre ++ b :: post := by simp
  obtain ⟨lists, m, hinsert, hlisted, hframe⟩ :=
    hshows₁.listed.insertHead hshows₁.laid hb hfree
  have hin : ∀ pos, InFreeSlot (pre ++ b :: post) pos →
      ∃ x ∈ pre ++ b :: post, x.InPayload pos := by
    rintro pos ⟨x, hx, -, hlo, hhi⟩
    have := hshows₁.laid.bounds hx
    exact ⟨x, hx, hlo, by omega⟩
  refine ⟨m, lists, ?_, ⟨hshows₁.laid.of_changedOnly hframe hin, hlisted⟩,
    (hframe₁.mono fun pos => Or.inl).trans (hframe.mono fun pos => Or.inr)⟩
  have hpack : Tag.pack b.size false = .ok b.tag := by
    rw [Tag.pack_eq _ hvalid.1, BlockInfo.tag, hfree]
  rw [Heap.insertFree, Heap.modifyLists_eq]
  simp only [hpack, Fault.ok_bind, hwrite]
  exact hinsert

/-- **Coalescing.**  A block on no list and its free neighbours become one free block, the first of
its class; the neighbours leave their lists, and nothing is touched but tags and links. -/
lemma coalesce_exact (hh : h.Shows (pre ++ b :: post) [b] free) :
    ∃ m lists, (h.coalesce b.offset).outcome = .ok (h.put m lists, (joint pre b post).offset) ∧
      (h.put m lists).Shows (joined pre b post) [] (relist free pre b post) ∧
      Memory.Stamped (InLinks (pre ++ post) (joined pre b post)) [joint pre b post] h.memory m := by
  have hlaid := hh.laid
  have hb : b ∈ pre ++ b :: post := by simp
  have hsmall := hlaid.size_lt
  obtain ⟨hbefore, hmid, hafter⟩ := hlaid.tiles_joint
  have hcover := hmid.bounds (show b ∈ _ by simp)
  have hstop := hafter.le
  obtain ⟨m₁, lists₁, hunlink, hshows₁, hframe₁⟩ :=
    hh.unlinkNeighbours hh.free_predecessor hh.free_successor hh.free_neighbours_ne
      (show (joint pre b post).size < _ by omega)
  rw [append_cons_eq] at hshows₁
  rw [← hframe₁.size] at hafter
  obtain ⟨m, lists, hinsert, hshows, hframe⟩ :=
    hshows₁.insertFree rfl hbefore hafter (valid_joint hlaid.valid)
  have hsides : (pre ++ b :: post).filter (· ∉ [b]) ⊆ pre ++ post := by
    intro x hx
    obtain ⟨hx, hne⟩ := List.mem_filter.1 hx
    exact hlaid.mem_sides_iff.2 ⟨hx, of_decide_eq_true hne⟩
  have hlinks : Memory.ChangedOnly (InLinks (pre ++ post) (joined pre b post)) h.memory m₁ :=
    hframe₁.mono fun pos hpos => .inl (hpos.mono hsides)
  refine ⟨m, lists, ?_, hshows, Memory.Stamped.after (.of_laid hshows.laid (by simp)
    (hframe.mono fun pos hpos => hpos.imp_right .inr)) hlinks⟩
  simp only [Heap.coalesce, Traced.outcome_bind, Traced.outcome_liftM, Traced.outcome_emit,
    Traced.outcome_pure, hh.size_eq hb, hh.freePredecessor?_eq, hh.freeSuccessor?_eq,
    Fault.ok_bind, hunlink]
  unfold joint at hinsert
  rw [hinsert]
  rfl

/-- The same for callers who know nothing of the bytes of the joint block. -/
lemma coalesce (hh : h.Shows (pre ++ b :: post) [b] free) :
    ∃ m lists, (h.coalesce b.offset).outcome = .ok (h.put m lists, (joint pre b post).offset) ∧
      (h.put m lists).Shows (joined pre b post) [] (relist free pre b post) ∧
      Memory.ChangedOnly
        (fun pos => (joint pre b post).Covers pos ∨ InFreeSlot (pre ++ post) pos) h.memory m := by
  obtain ⟨m, lists, hcoalesce, hshows, hstamped⟩ := hh.coalesce_exact
  have hvalid := valid_joint hh.laid.valid
  refine ⟨m, lists, hcoalesce, hshows, hstamped.changedOnly.mono ?_⟩
  rintro pos (⟨x, hx, hpos⟩ | hpos)
  · obtain rfl := List.mem_singleton.1 hx
    exact .inl (hpos.covers hvalid)
  · exact covers_of_inLinks hvalid hpos

/-- **Carving.**  A block on no list is cut in two: the first part is an allocated block, and the
second one a free block that is joined with the block behind it if that is free. -/
lemma carve {needed : Nat} (hh : h.Shows (pre ++ ([b] ++ post)) [b] free)
    (haligned : needed % 8 = 0) (hmin : 32 ≤ needed) (hsplit : 32 ≤ b.size - needed) :
    ∃ m₁ m lists, h.modifyMemory (fun m => do
        let m ← Block.write m b.offset (Tag.of needed true)
        Block.write m (b.offset + needed) (Tag.of (b.size - needed) false)) =
          .ok (h.put m₁ h.lists) ∧
      ((h.put m₁ h.lists).coalesce (b.offset + needed)).outcome =
        .ok (h.put m lists, b.offset + needed) ∧
      (h.put m lists).Shows (joined (pre ++ [b.front needed]) (b.back needed) post) []
        (relist free (pre ++ [b.front needed]) (b.back needed) post) ∧
      Memory.Stamped
        (InLinks (pre ++ post) (joined (pre ++ [b.front needed]) (b.back needed) post))
        [b.front needed, b.back needed, joint (pre ++ [b.front needed]) (b.back needed) post]
        h.memory m := by
  have hall : (b.front needed).allocated = true := rfl
  have hused : (b.front needed).Valid := ⟨haligned, hmin⟩
  have hrest := (hh.laid.valid b (by simp)).back haligned hsplit
  have hend := BlockInfo.back_end (b := b) (n := needed) (by omega)
  obtain ⟨hpre, hpost⟩ := Laid.tiles_exchange hh.laid
  obtain ⟨m₁, m₂, hwrite₁, hwrite₂, hshows₂, hstamped₂⟩ :=
    hh.split (b.front needed) (b.back needed) hpre rfl (hend ▸ hpost) hused hrest
  have hwrite₁' : Block.write h.memory b.offset (Tag.of needed true) = .ok m₁ := hwrite₁
  have hwrite : (do
      let m ← Block.write h.memory b.offset (Tag.of needed true)
      Block.write m (b.offset + needed) (Tag.of (b.size - needed) false)) = .ok m₂ := by
    rw [hwrite₁', Fault.ok_bind]
    exact hwrite₂
  -- the allocated part belongs to what stands before the free one
  have hshows₂' : (h.put m₂ h.lists).Shows ((pre ++ [b.front needed]) ++ b.back needed :: post)
      [b.back needed] free := by
    have := (skip_cons_iff hall).1 hshows₂
    rwa [List.append_cons] at this
  obtain ⟨m, lists, hcoalesce, hshows, hstamped⟩ := hshows₂'.coalesce_exact
  have hoff := congrArg BlockInfo.offset (joint_back pre b needed post)
  rw [hoff] at hcoalesce
  refine ⟨m₂, m, lists, Heap.modifyMemory_eq hwrite, hcoalesce, hshows,
    (hstamped₂.mono fun _ => False.elim).trans (hstamped.mono fun pos hpos => ?_)⟩
  exact hpos.imp_left (·.of_allocated hall)

end Heap.Shows

end BlockHeap
