import BlockHeap.Heap.Allocate
import BlockHeap.Proofs.Coalescing

/-!
# Placing a block

A request is served from one free block: `Heap.Sound.place` says that this block gives way to an
allocated one and, if what is left over can stand alone, a free one behind it.  Since a free block
of a sound heap has no free neighbours, nothing is joined on the way.  No byte is touched outside
the free block and the link words of the other ones.
-/

namespace BlockHeap

/-- What a free block becomes when so many of its bytes are allocated. -/
def placed (b : BlockInfo) (needed : Nat) : List BlockInfo :=
  if 32 ≤ b.size - needed then [b.front needed, b.back needed] else [b.front b.size]

/-- The lists after a free block was placed. -/
def placedFree (free : SizeClass → List BlockInfo) (b : BlockInfo) (needed : Nat) :
    SizeClass → List BlockInfo :=
  if 32 ≤ b.size - needed then attach (detach free b) (b.back needed) else detach free b

/-- The blocks whose tags are written when so many bytes of a free block are allocated. -/
def placing (b : BlockInfo) (needed : Nat) : List BlockInfo :=
  if 32 ≤ b.size - needed then [b.front needed, b.back needed, b.back needed] else [b.front b.size]

section

variable {pre mid post : List BlockInfo} {b x : BlockInfo} {needed pos : Nat}

lemma covers_of_placing (hx : x ∈ placing b needed) (haligned : needed % 8 = 0)
    (hmin : 32 ≤ needed) (hvalid : b.Valid) (hpos : x.AtTags pos) : b.Covers pos := by
  have hsize := hvalid.2
  have halign := hvalid.1
  unfold placing at hx
  split at hx <;> simp only [List.mem_cons, List.not_mem_nil, or_false] at hx
  · rcases hx with rfl | rfl | rfl <;>
      simp only [BlockInfo.AtTags, BlockInfo.front, BlockInfo.back] at hpos <;>
      unfold BlockInfo.Covers <;> omega
  · subst hx
    exact BlockInfo.AtTags.covers (b := b) hpos hvalid

lemma covers_of_inLinks_placed (hvalid : b.Valid)
    (hpos : InLinks (pre ++ b :: post) (pre ++ (placed b needed ++ post)) pos) :
    b.Covers pos ∨ InFreeSlot (pre ++ post) pos := by
  rcases hpos with hpos | ⟨x, hx, hfree, hslot⟩
  · exact hpos.covers_or hvalid.2
  · simp only [List.mem_append] at hx
    rcases hx with hx | hx | hx
    · exact .inr ⟨x, by simp [hx], hfree, hslot⟩
    · left
      unfold placed at hx
      split at hx <;> simp only [List.mem_cons, List.not_mem_nil, or_false] at hx
      · rcases hx with rfl | rfl
        · cases hfree
        · simp only [Link.InSlot, BlockInfo.back] at hslot
          unfold BlockInfo.Covers
          omega
      · subst hx
        cases hfree
    · exact .inr ⟨x, by simp [hx], hfree, hslot⟩

/-- A free block stands between allocated ones. -/
lemma Coalesced.not_free (h : Coalesced (pre ++ b :: post)) (hfree : b.allocated = false) :
    lastFree? pre = none ∧ firstFree? post = none := by
  obtain ⟨-, hpost, hseam⟩ := List.isChain_append.1 h
  constructor
  · rcases List.eq_nil_or_concat pre with rfl | ⟨xs, x, rfl⟩
    · rfl
    · have := hseam x (by simp) b (by simp)
      simp_all
  · cases post with
    | nil => rfl
    | cons x post =>
      have := (List.isChain_cons_cons.1 hpost).1
      simp_all

/-- In the place of a free block any blocks can stand that are coalesced among themselves. -/
lemma Coalesced.exchange (h : Coalesced (pre ++ b :: post)) (hfree : b.allocated = false)
    (hmid : Coalesced mid) : Coalesced (pre ++ (mid ++ post)) := by
  obtain ⟨hpre, hpost, hseam⟩ := List.isChain_append.1 h
  have hlast : ∀ x ∈ pre.getLast?, x.allocated = true := by
    intro x hx
    simpa [hfree] using hseam x hx b (by simp)
  have hfirst : ∀ x ∈ post.head?, x.allocated = true := by
    intro x hx
    simpa [hfree] using (List.isChain_cons.1 hpost).1 x hx
  refine List.isChain_append.2 ⟨hpre, List.isChain_append.2 ⟨hmid, hpost.tail, ?_⟩, ?_⟩
  · exact fun _ _ y hy => .inr (hfirst y hy)
  · exact fun x hx _ _ => .inl (hlast x hx)

lemma joined_eq (hpre : lastFree? pre = none) (hpost : firstFree? post = none)
    (hfree : b.allocated = false) :
    joint pre b post = b ∧ joined pre b post = pre ++ b :: post := by
  have hj : joint pre b post = b := by
    obtain ⟨offset, size, allocated⟩ := b
    simp_all [joint]
  exact ⟨hj, by simp [joined, beforeJoint, afterJoint, hpre, hpost, hj]⟩

lemma relist_eq {free : SizeClass → List BlockInfo} (hpre : lastFree? pre = none)
    (hpost : firstFree? post = none) (hfree : b.allocated = false) :
    relist free pre b post = attach free b := by
  simp [relist, hpre, hpost, (joined_eq hpre hpost hfree).1]

end

namespace Heap

variable {h : Heap} {pre post blocks : List BlockInfo} {free : SizeClass → List BlockInfo}
variable {b : BlockInfo} {needed : Nat}

/-! ## Placing -/

/-- What is left over becomes a free block of its own. -/
lemma Sound.place_of_split (hs : h.Sound (pre ++ b :: post) free) (hfree : b.allocated = false)
    (haligned : needed % 8 = 0) (hmin : 32 ≤ needed) (hsplit : 32 ≤ b.size - needed) :
    ∃ m lists, (h.place b.offset needed).outcome = .ok (h.put m lists) ∧
      (h.put m lists).Sound (pre ++ ([b.front needed, b.back needed] ++ post))
        (attach (detach free b) (b.back needed)) ∧
      Memory.Stamped
        (InLinks (pre ++ b :: post) (pre ++ ([b.front needed, b.back needed] ++ post)))
        [b.front needed, b.back needed, b.back needed] h.memory m := by
  have hb : b ∈ pre ++ b :: post := by simp
  have hvalid := hs.laid.valid b hb
  have hbounds := hs.laid.bounds hb
  have hsmall := hs.laid.size_lt
  obtain ⟨-, hfirst⟩ := hs.coalesced.not_free hfree
  obtain ⟨m₁, lists₁, hunlink, hshows₁, hframe₁⟩ := hs.unlink hb hfree (by simp)
  obtain ⟨m₂, m, lists, hmodify, hcoalesce, hshows, hstamped⟩ :=
    hshows₁.carve haligned hmin hsplit
  simp only [put_put] at hmodify hcoalesce hshows
  have hlast' : lastFree? (pre ++ [b.front needed]) = none := by simp [BlockInfo.front]
  have hback : (b.back needed).allocated = false := rfl
  obtain ⟨hjoint, hjoined⟩ := joined_eq hlast' hfirst hback
  rw [hjoined, relist_eq hlast' hfirst rfl] at hshows
  rw [hjoint, hjoined] at hstamped
  refine ⟨m, lists, ?_, ?_, ?_⟩
  · have hrest : (b.size - needed) % 8 = 0 := (hvalid.back haligned hsplit).1
    simp only [Heap.place, Traced.outcome_bind, Traced.outcome_liftM, hunlink, Fault.ok_bind,
      Checked.sub_eq (show needed ≤ b.size by omega),
      if_pos (show Block.minSize ≤ b.size - needed from hsplit), Tag.pack_eq _ haligned,
      Tag.pack_eq _ hrest, Checked.add_eq (show b.offset + needed < Checked.bound by omega),
      hmodify, hcoalesce, Traced.outcome_pure]
  · apply hs.put (hstamped.changedOnly.size.trans hframe₁.size) (by simpa using hshows)
    apply hs.coalesced.exchange hfree
    simp [Coalesced, BlockInfo.front]
  · refine (hstamped.mono fun pos hpos => ?_).after (hframe₁.mono fun _ => .inl)
    exact hpos.mono (by simp) (by simp)

/-- Too little is left over, and the whole block is used. -/
lemma Sound.place_of_not_split (hs : h.Sound (pre ++ b :: post) free)
    (hfree : b.allocated = false) (hfit : needed ≤ b.size) (hsplit : ¬ 32 ≤ b.size - needed) :
    ∃ m lists, (h.place b.offset needed).outcome = .ok (h.put m lists) ∧
      (h.put m lists).Sound (pre ++ ([b.front b.size] ++ post)) (detach free b) ∧
      Memory.ChangedOnly (fun pos => b.AtTags pos ∨ InFreeSlot (pre ++ b :: post) pos)
        h.memory m := by
  have hvalid : (b.front b.size).Valid := hs.laid.valid b (by simp)
  have hall : (b.front b.size).allocated = true := rfl
  obtain ⟨m₁, lists₁, hunlink, hshows₁, hframe₁⟩ := hs.unlink (b := b) (by simp) hfree (by simp)
  have hskip : (h.put m₁ lists₁).Shows (pre ++ ([b] ++ post)) [b] (detach free b) := hshows₁
  obtain ⟨hpre, hpost⟩ := Laid.tiles_exchange hskip.laid
  obtain ⟨m, hwrite, hshows, hframe⟩ := hskip.rewrite (b.front b.size) hpre hpost hvalid
  refine ⟨m, lists₁, ?_, ?_, ?_⟩
  · have hmodify : (h.put m₁ lists₁).modifyMemory (fun m =>
        Block.write m b.offset (Tag.of b.size true)) = .ok ((h.put m₁ lists₁).put m lists₁) :=
      modifyMemory_eq hwrite
    simp only [Heap.place, Traced.outcome_bind, Traced.outcome_liftM, hunlink, Fault.ok_bind,
      Checked.sub_eq hfit, if_neg (show ¬ Block.minSize ≤ b.size - needed from hsplit),
      Tag.pack_eq _ (show b.size % 8 = 0 from hvalid.1), hmodify, put_put]
  · have hco : Coalesced [b.front b.size] := List.isChain_singleton _
    exact hs.put (hframe.size.trans hframe₁.size) ((Shows.skip_cons_iff hall).1 hshows)
      (hs.coalesced.exchange hfree hco)
  · exact (hframe₁.mono fun pos => Or.inr).trans (hframe.mono fun pos => Or.inl)

/-- **Placing.**  A free block that is large enough gives way to an allocated one, and to a free
one with what is left over if that can stand alone. -/
lemma Sound.place_exact (hs : h.Sound (pre ++ b :: post) free) (hfree : b.allocated = false)
    (haligned : needed % 8 = 0) (hmin : 32 ≤ needed) (hfit : needed ≤ b.size) :
    ∃ m lists, (h.place b.offset needed).outcome = .ok (h.put m lists) ∧
      (h.put m lists).Sound (pre ++ (placed b needed ++ post)) (placedFree free b needed) ∧
      Memory.Stamped (InLinks (pre ++ b :: post) (pre ++ (placed b needed ++ post)))
        (placing b needed) h.memory m := by
  unfold placed placedFree placing
  by_cases hsplit : 32 ≤ b.size - needed
  · simp only [if_pos hsplit]
    exact hs.place_of_split hfree haligned hmin hsplit
  · simp only [if_neg hsplit]
    obtain ⟨m, lists, hplace, hsound, hframe⟩ := hs.place_of_not_split hfree hfit hsplit
    refine ⟨m, lists, hplace, hsound,
      .of_laid hsound.laid (by simp) (hframe.mono fun pos hpos => ?_)⟩
    exact hpos.imp_right .inl

lemma Sound.place (hs : h.Sound (pre ++ b :: post) free) (hfree : b.allocated = false)
    (haligned : needed % 8 = 0) (hmin : 32 ≤ needed) (hfit : needed ≤ b.size) :
    ∃ m lists, (h.place b.offset needed).outcome = .ok (h.put m lists) ∧
      (h.put m lists).Sound (pre ++ (placed b needed ++ post)) (placedFree free b needed) ∧
      Memory.ChangedOnly (fun pos => b.Covers pos ∨ InFreeSlot (pre ++ post) pos) h.memory m := by
  obtain ⟨m, lists, hplace, hsound, hstamped⟩ := hs.place_exact hfree haligned hmin hfit
  have hvalid := hs.laid.valid b (by simp)
  refine ⟨m, lists, hplace, hsound, hstamped.changedOnly.mono ?_⟩
  rintro pos (⟨x, hx, hpos⟩ | hpos)
  · exact .inl (covers_of_placing hx haligned hmin hvalid hpos)
  · exact covers_of_inLinks_placed hvalid hpos

end Heap

end BlockHeap
