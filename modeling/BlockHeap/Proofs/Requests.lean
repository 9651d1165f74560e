import BlockHeap.Proofs.Sessions

/-!
# When requests succeed

Whether a request is served, and whether the arena grows for it, is a matter of sizes alone.  A
request for `size` bytes needs a block of the least multiple of eight with room for the bytes and
two tags, 32 at least.  If any free block is that large the request is served without growth,
whatever the fit window; if none is, the arena grows by what is needed, one chunk at least; and only
if it refuses to is the request refused (`Session.Reachable.tryAllocate_iff`).
-/

namespace BlockHeap

lemma leastMultiple_blockFor (size : Nat) : LeastMultiple (max 32 (size + 16)) (blockFor size) := by
  obtain ⟨haligned, hmin, hroom⟩ := blockFor_spec size
  exact ⟨haligned, by omega, fun k hk hle => blockFor_le hk (by omega) (by omega)⟩

lemma leastMultiple_chunk (config : Config) : LeastMultiple config.chunkSize config.chunk :=
  leastMultiple_alignDown _

/-- Some free block has the size that is needed. -/
def SomeFits (blocks : List BlockInfo) (needed : Nat) : Prop :=
  ∃ b ∈ blocks, b.allocated = false ∧ needed ≤ b.size

/-- The arena refuses to grow by so much. -/
def Arena.Refuses (arena : Arena) (increment : Nat) : Prop :=
  ∃ error, arena.grow increment = .ok (arena, .error error)

/-- Where the free space at the top starts: at the last block if that is free, and at the old top
otherwise. -/
def Heap.freeTop (h : Heap) (blocks : List BlockInfo) : Nat :=
  match blocks.getLast? with
  | some last => if last.allocated then h.memory.size else last.offset
  | none => h.memory.size

lemma Arena.refuses_iff {arena : Arena} (harena : arena.Sound) {increment : Nat} :
    arena.Refuses increment ↔ ¬ arena.CanGrow increment := by
  constructor
  · rintro ⟨error, hgrow⟩ hcan
    rw [grow_of_canGrow harena.size_le hcan] at hgrow
    exact absurd (congrArg Prod.snd (Except.ok.inj hgrow)) nofun
  · exact fun hcan => ⟨_, grow_of_not_canGrow harena.size_le hcan⟩

namespace Heap

variable {h : Heap} {blocks : List BlockInfo} {free : SizeClass → List BlockInfo} {size : Nat}

lemma offset_topBlock (h : Heap) (blocks : List BlockInfo) (size : Nat) :
    (h.topBlock blocks size).offset = h.freeTop blocks := by
  rcases List.eq_nil_or_concat blocks with rfl | ⟨xs, x, rfl⟩
  · rfl
  · rw [List.concat_eq_append]
    cases hx : x.allocated <;> simp [topBlock, joint, freeTop, Heap.chunkAtTop, hx]

/-- The outcome of a request, by the sizes of the free blocks: it is served from one of them, by
growth, or not at all. -/
structure Decided (h : Heap) (blocks : List BlockInfo) (size needed chunk : Nat) (h' : Heap)
    (result : Except HeapError Ptr) : Prop where
  zeroSize : result = .error .zeroSize ↔ size = 0
  tooLarge : (∃ n, result = .error (.tooLarge n)) ↔ Checked.bound - 24 < size
  reused : size ≠ 0 → size ≤ Checked.bound - 24 →
    ((h'.memory.size = h.memory.size ∧ ∃ p, result = .ok p) ↔ SomeFits blocks needed)
  grown : size ≠ 0 → size ≤ Checked.bound - 24 →
    ((h'.memory.size = h.memory.size + max needed chunk ∧ result = .ok ⟨h.freeTop blocks⟩) ↔
      ¬ SomeFits blocks needed ∧ ¬ h.arena.Refuses (max needed chunk))
  exhausted : size ≠ 0 → size ≤ Checked.bound - 24 →
    ((∃ requested available, result = .error (.arena (.exhausted requested available))) ↔
      ¬ SomeFits blocks needed ∧ h.arena.Refuses (max needed chunk))

/-- The search finds nothing if and only if there is nothing to be found. -/
lemma Sound.fit_eq_none_iff_not_someFits (hs : h.Sound blocks free) (needed : Nat) :
    fit free needed h.config.fitWindow = none ↔ ¬ SomeFits blocks needed := by
  rw [hs.listed.fit_eq_none_iff needed hs.accepted.fitWindow]
  constructor
  · rintro hnone ⟨b, hb, hfree, hle⟩
    exact Nat.not_lt.2 hle (hnone b hb hfree)
  · intro hnot b hb hfree
    exact Nat.lt_of_not_le fun hle => hnot ⟨b, hb, hfree, hle⟩

private lemma lt_bound_of_le (hle : size ≤ Checked.bound - 24) : size + 23 < Checked.bound := by
  unfold Checked.bound at hle ⊢
  omega

lemma Sound.decided_of_fit (hs : h.Sound blocks free) (hsize : size ≠ 0)
    (hle : size ≤ Checked.bound - 24) (hfits : SomeFits blocks (blockFor size)) :
    ∃ h' result, (h.tryAllocate size).outcome = .ok (h', result) ∧
      Decided h blocks size (blockFor size) h.config.chunk h' result := by
  have hlt : size + 23 < Checked.bound := lt_bound_of_le hle
  have hincrement : 32 ≤ max (blockFor size) h.config.chunk := (hs.increment_spec size).2.1
  obtain ⟨b, hfit⟩ : ∃ b, fit free (blockFor size) h.config.fitWindow = some b := by
    apply Option.ne_none_iff_exists'.1
    intro hnone
    exact (hs.fit_eq_none_iff_not_someFits _).1 hnone hfits
  obtain ⟨pre, post, rfl⟩ := List.append_of_mem (hs.listed.mem_of_fit hfit).1
  obtain ⟨m, lists, halloc, -, hframe⟩ := hs.tryAllocate_of_fit hsize hlt hfit
  have hkept : m.size = h.memory.size := hframe.size
  refine ⟨_, _, halloc, iff_of_false (by simp) hsize, iff_of_false (by simp) (Nat.not_lt.2 hle),
    ?_, ?_, ?_⟩
  · intro _ _
    exact iff_of_true ⟨hkept, _, rfl⟩ hfits
  · intro _ _
    refine iff_of_false ?_ fun hnot => hnot.1 hfits
    rintro ⟨hgrown, -⟩
    rw [memory_put, hkept] at hgrown
    omega
  · intro _ _
    exact iff_of_false (by simp) fun hnot => hnot.1 hfits

lemma Sound.decided_of_growth (hs : h.Sound blocks free) (hsize : size ≠ 0)
    (hle : size ≤ Checked.bound - 24) (hfits : ¬ SomeFits blocks (blockFor size))
    (hgrow : h.arena.CanGrow (h.increment size)) :
    ∃ h' result, (h.tryAllocate size).outcome = .ok (h', result) ∧
      Decided h blocks size (blockFor size) h.config.chunk h' result := by
  have hlt : size + 23 < Checked.bound := lt_bound_of_le hle
  have hincrement := (hs.increment_spec size).2.1
  have hfit := (hs.fit_eq_none_iff_not_someFits _).2 hfits
  have hrefuses : ¬ h.arena.Refuses (h.increment size) := by
    rw [Arena.refuses_iff hs.arena]
    exact not_not_intro hgrow
  obtain ⟨m, lists, halloc, -, hframe⟩ := hs.tryAllocate_of_growth hsize hlt hfit hgrow
  have hgrown : m.size = h.memory.size + h.increment size :=
    hframe.size.trans (Memory.size_extend ..)
  refine ⟨_, _, halloc, iff_of_false (by simp) hsize, iff_of_false (by simp) (Nat.not_lt.2 hle),
    ?_, ?_, ?_⟩
  · intro _ _
    refine iff_of_false ?_ hfits
    rintro ⟨hkept, -⟩
    rw [memory_put, hgrown] at hkept
    omega
  · intro _ _
    exact iff_of_true ⟨hgrown, by rw [h.offset_topBlock blocks size]⟩ ⟨hfits, hrefuses⟩
  · intro _ _
    exact iff_of_false (by simp) fun hin => hrefuses hin.2

lemma Sound.decided_of_refusal (hs : h.Sound blocks free) (hsize : size ≠ 0)
    (hle : size ≤ Checked.bound - 24) (hfits : ¬ SomeFits blocks (blockFor size))
    (hgrow : ¬ h.arena.CanGrow (h.increment size)) :
    ∃ h' result, (h.tryAllocate size).outcome = .ok (h', result) ∧
      Decided h blocks size (blockFor size) h.config.chunk h' result := by
  have hlt : size + 23 < Checked.bound := lt_bound_of_le hle
  have hfit := (hs.fit_eq_none_iff_not_someFits _).2 hfits
  have hrefuses : h.arena.Refuses (h.increment size) := (Arena.refuses_iff hs.arena).2 hgrow
  refine ⟨_, _, hs.tryAllocate_of_refusal hsize hlt hfit hgrow, iff_of_false (by simp) hsize,
    iff_of_false (by simp) (Nat.not_lt.2 hle), ?_, ?_, ?_⟩
  · intro _ _
    exact iff_of_false (by simp) hfits
  · intro _ _
    exact iff_of_false (by simp) fun hin => hin.2 hrefuses
  · intro _ _
    exact iff_of_true ⟨_, _, rfl⟩ ⟨hfits, hrefuses⟩

lemma Sound.decided (hs : h.Sound blocks free) (size : Nat) :
    ∃ h' result, (h.tryAllocate size).outcome = .ok (h', result) ∧
      Decided h blocks size (blockFor size) h.config.chunk h' result := by
  by_cases hsize : size = 0
  · subst hsize
    refine ⟨h, _, h.tryAllocate_zero, iff_of_true rfl rfl, iff_of_false (by simp) (by simp),
      ?_, ?_, ?_⟩ <;>
    exact fun hne => absurd rfl hne
  by_cases hle : size ≤ Checked.bound - 24
  · by_cases hfits : SomeFits blocks (blockFor size)
    · exact hs.decided_of_fit hsize hle hfits
    by_cases hgrow : h.arena.CanGrow (h.increment size)
    · exact hs.decided_of_growth hsize hle hfits hgrow
    · exact hs.decided_of_refusal hsize hle hfits hgrow
  · have hlt : ¬ size + 23 < Checked.bound := by
      unfold Checked.bound at hle ⊢
      omega
    refine ⟨h, _, h.tryAllocate_of_tooLarge hlt, iff_of_false (by simp) hsize,
      iff_of_true ⟨size, rfl⟩ (Nat.lt_of_not_le hle), ?_, ?_, ?_⟩ <;>
    exact fun _ hin => absurd hin hle

end Heap

namespace Session

variable {arena : Arena} {s : Session}

/-- **When requests succeed.**  Whatever a program has done with a heap, a request is decided by the
sizes of the free blocks, and by the arena only if none of them is large enough. -/
theorem Reachable.tryAllocate_iff (hs : Reachable arena s) (size : Nat) :
    ∃ blocks needed chunk h' result, s.heap.blocks = .ok blocks ∧
      LeastMultiple (max 32 (size + 16)) needed ∧ LeastMultiple s.heap.config.chunkSize chunk ∧
      (s.heap.tryAllocate size).outcome = .ok (h', result) ∧
      s.heap.Decided blocks size needed chunk h' result := by
  obtain ⟨blocks, free, hh⟩ := hs.holds
  obtain ⟨h', result, halloc, hdecided⟩ := hh.sound.decided size
  exact ⟨blocks, _, _, h', result, hh.sound.blocks_eq, leastMultiple_blockFor size,
    leastMultiple_chunk _, halloc, hdecided⟩

/-- A free block of 32 bytes serves a request for eight, and the arena does not grow. -/
theorem Reachable.tryAllocate_iff_small :
    ∃ s : Session, s.live = [⟨64⟩, ⟨32⟩] ∧ ∃ h' p,
      (s.heap.tryAllocate 8).outcome = .ok (h', .ok p) ∧
        h'.memory.size = s.heap.memory.size := by
  obtain ⟨s, hs, hlive, hblocks⟩ := exists_small
  obtain ⟨blocks, needed, chunk, h', result, hblocks', hneeded, -, halloc, hdecided⟩ :=
    Reachable.tryAllocate_iff hs 8
  obtain rfl := Except.ok.inj (hblocks.symm.trans hblocks')
  have hle : needed ≤ 32 := hneeded.2.2 32 rfl (by decide)
  obtain ⟨hsize, p, rfl⟩ := (hdecided.reused (by decide) (by decide)).2
    ⟨⟨96, 32, false⟩, by simp, rfl, hle⟩
  exact ⟨s, hlive, h', p, halloc, hsize⟩

end Session

end BlockHeap
