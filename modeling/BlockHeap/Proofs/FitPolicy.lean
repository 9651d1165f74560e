import BlockHeap.Proofs.Checking
import BlockHeap.Proofs.Rehearsals

/-!
# The policy of the search

What the search for a free block is meant to do can be said without a loop.  The least class
with a sufficient block decides (`Picks`); in it the first `window` sufficient blocks are compared,
and the earliest of the smallest of those is taken (`FirstSmallest`).  `picks_fit` says that this is
what `fit` computes.

If no more blocks are free than the window has places, nothing is cut off.  Larger sizes are never
in lower classes, so the block that is taken is then as small as any sufficient one
(`Listed.tightest_of_picks`).
-/

namespace BlockHeap

/-- The earliest of the smallest blocks of a list: those before it are larger, and none after it is
smaller. -/
def FirstSmallest (blocks : List BlockInfo) (b : BlockInfo) : Prop :=
  ∃ before after, blocks = before ++ b :: after ∧ (∀ x ∈ before, b.size < x.size) ∧
    ∀ x ∈ after, b.size ≤ x.size

/-- **The policy.**  Nothing is picked if no class from that of the needed size upwards has a
sufficient block; otherwise the least class that has one decides, and the earliest of the smallest
among its first `window` sufficient blocks is picked. -/
inductive Picks (lists : SizeClass → List BlockInfo) (needed window : Nat) :
    Option BlockInfo → Prop
  | nothing (hsmall : ∀ c, SizeClass.ofSize needed ≤ c → ∀ b ∈ lists c, b.size < needed) :
      Picks lists needed window none
  | block {c : SizeClass} {b : BlockInfo} (hclass : SizeClass.ofSize needed ≤ c)
      (hleast : ∀ d, SizeClass.ofSize needed ≤ d → d < c → ∀ x ∈ lists d, x.size < needed)
      (hfirst : FirstSmallest (((lists c).filter (needed ≤ ·.size)).take window) b) :
      Picks lists needed window (some b)

/-- No free block that would do is smaller. -/
def Tightest (blocks : List BlockInfo) (needed : Nat) (b : BlockInfo) : Prop :=
  b ∈ blocks ∧ b.allocated = false ∧ needed ≤ b.size ∧
    ∀ x ∈ blocks, x.allocated = false → needed ≤ x.size → b.size ≤ x.size

section

variable {blocks xs : List BlockInfo} {b x : BlockInfo}

lemma FirstSmallest.mem (h : FirstSmallest xs b) : b ∈ xs := by
  obtain ⟨before, after, rfl, -, -⟩ := h
  simp

lemma FirstSmallest.le (h : FirstSmallest xs b) (hx : x ∈ xs) : b.size ≤ x.size := by
  obtain ⟨before, after, rfl, hbefore, hafter⟩ := h
  rcases List.mem_append.1 hx with hx | hx
  · exact (hbefore x hx).le
  rcases List.mem_cons.1 hx with rfl | hx
  · exact le_rfl
  · exact hafter x hx

lemma firstSmallest_cons_of_lt {y : BlockInfo} (h : FirstSmallest xs b) (hlt : b.size < y.size) :
    FirstSmallest (y :: xs) b := by
  obtain ⟨before, after, rfl, hbefore, hafter⟩ := h
  exact ⟨y :: before, after, rfl, List.forall_mem_cons.2 ⟨hlt, hbefore⟩, hafter⟩

lemma firstSmallest_of_argmin (h : xs.argmin BlockInfo.size = some b) : FirstSmallest xs b := by
  induction xs generalizing b with
  | nil => cases h
  | cons y xs ih =>
    rw [List.argmin_cons] at h
    cases hm : xs.argmin BlockInfo.size with
    | none =>
      obtain rfl := List.argmin_eq_none.1 hm
      obtain rfl : y = b := by simpa using h
      exact ⟨[], [], rfl, List.forall_mem_nil _, List.forall_mem_nil _⟩
    | some z =>
      simp only [hm] at h
      split at h
      · next hlt =>
        obtain rfl := Option.some.inj h
        exact firstSmallest_cons_of_lt (ih hm) hlt
      · next hge =>
        obtain rfl := Option.some.inj h
        exact ⟨[], xs, rfl, List.forall_mem_nil _,
          fun x hx => (Nat.le_of_not_lt hge).trans ((ih hm).le hx)⟩

end

section

variable {m : Memory} {lists : FreeLists} {blocks : List BlockInfo} {b : BlockInfo}
variable {free : SizeClass → List BlockInfo} {needed window : Nat}

lemma SizeClass.pairwise_upFrom (c : SizeClass) : c.upFrom.Pairwise (· < ·) := by
  revert c
  decide

lemma picks_fit (free : SizeClass → List BlockInfo) (needed : Nat) (hwindow : window ≠ 0) :
    Picks free needed window (fit free needed window) := by
  cases hfit : fit free needed window with
  | none =>
    refine .nothing fun c hc => (bestFit_eq_none_iff hwindow).1 ?_
    exact List.findSome?_eq_none_iff.1 hfit c (SizeClass.mem_upFrom.2 hc)
  | some b =>
    obtain ⟨before, c, after, hsplit, hbest, hbefore⟩ := List.findSome?_eq_some_iff.1 hfit
    have hsorted := hsplit ▸ SizeClass.pairwise_upFrom (SizeClass.ofSize needed)
    have hmem : ∀ d, d ∈ before ++ c :: after ↔ SizeClass.ofSize needed ≤ d := by
      intro d
      rw [← hsplit, SizeClass.mem_upFrom]
    refine .block ((hmem c).1 (by simp)) ?_ (firstSmallest_of_argmin hbest)
    -- the classes below were searched before, to no avail
    intro d hd hlt
    apply (bestFit_eq_none_iff hwindow).1
    apply hbefore d
    rcases List.mem_append.1 ((hmem d).2 hd) with hd | hd
    · exact hd
    rcases List.mem_cons.1 hd with rfl | hd
    · exact absurd hlt (lt_irrefl d)
    · have hcd := (List.pairwise_cons.1 (List.pairwise_append.1 hsorted).2.1).1 d hd
      exact absurd hlt hcd.asymm

lemma Picks.eq_of_offset {prologue : Nat} {pick found : Option BlockInfo}
    (h : Picks free needed window pick) (hlaid : Laid m prologue blocks)
    (hlists : ∀ c, ∀ x ∈ free c, x ∈ blocks) (hfound : ∀ x ∈ found, x ∈ blocks)
    (heq : found.map BlockInfo.offset = pick.map BlockInfo.offset) : pick = found := by
  cases h with
  | nothing => exact (Option.map_eq_none_iff.1 heq).symm
  | @block c b _ _ hfirst =>
    obtain ⟨x, rfl, hoff⟩ := Option.map_eq_some_iff.1 heq
    have hb : b ∈ free c := List.mem_of_mem_filter (List.mem_of_mem_take hfirst.mem)
    rw [hlaid.eq_of_offset (hlists c b hb) (hfound x rfl) hoff.symm]

namespace Listed

lemma length_le_freeCount {prologue : Nat} (hlaid : Laid m prologue blocks)
    (h : Listed m lists blocks [] free) (c : SizeClass) : (free c).length ≤ freeCount blocks := by
  rw [← h.length_flatMap hlaid]
  apply (List.subperm_of_subset (h.nodup c) _).length_le
  exact fun b hb => List.mem_flatMap.2 ⟨c, List.mem_finRange c, hb⟩

/-- **A wide window.**  If all free blocks have a place in the window, no sufficient one is
smaller than the one that is picked. -/
lemma tightest_of_picks {prologue : Nat} (hlaid : Laid m prologue blocks)
    (h : Listed m lists blocks [] free) (hwindow : freeCount blocks ≤ window)
    (hpicks : Picks free needed window (some b)) : Tightest blocks needed b := by
  cases hpicks with
  | @block c _ hclass hleast hfirst =>
    have hlength : ((free c).filter (needed ≤ ·.size)).length ≤ window :=
      (List.length_filter_le _ _).trans ((h.length_le_freeCount hlaid c).trans hwindow)
    rw [List.take_of_length_le hlength] at hfirst
    obtain ⟨hmem, hsize⟩ := List.mem_filter.1 hfirst.mem
    obtain ⟨hb, hfree, hofSize, -⟩ := (h.mem_iff c b).1 hmem
    refine ⟨hb, hfree, of_decide_eq_true hsize, ?_⟩
    intro x hx hxfree hle
    have hlisted : x ∈ free (SizeClass.ofSize x.size) := (h.mem_iff _ x).2 ⟨hx, hxfree, rfl, nofun⟩
    have hxclass := SizeClass.ofSize_mono hle
    rcases lt_trichotomy c (SizeClass.ofSize x.size) with hlt | heq | hgt
    · -- a block of a higher class is larger
      by_contra hsmall
      have := SizeClass.ofSize_mono (Nat.le_of_not_le hsmall)
      rw [hofSize] at this
      exact absurd hlt this.not_gt
    · apply hfirst.le
      exact List.mem_filter.2 ⟨heq ▸ hlisted, decide_eq_true hle⟩
    · exact absurd hle (Nat.not_le.2 (hleast _ hxclass hgt x hlisted))

end Listed

end

namespace Session

variable {arena : Arena} {s : Session}

/-- **The search follows its policy.**  Whatever a program has done with a heap, the search for a
free block of any size comes to an end, picks what the policy says, and finds a block that is as
small as any sufficient one if the window is as wide as there are free blocks. -/
theorem Reachable.findFit_picks (hs : Reachable arena s) :
    ∃ blocks lists, s.heap.Intact blocks (fun c => (lists c).map BlockInfo.offset) ∧
      (∀ c, ∀ b ∈ lists c, b ∈ blocks) ∧
      ∀ needed, ∃ pick, s.heap.findFit needed = .ok (pick.map BlockInfo.offset) ∧
        Picks lists needed s.heap.config.fitWindow pick ∧
        (pick = none ↔ ∀ b ∈ blocks, b.allocated = false → b.size < needed) ∧
        (freeCount blocks ≤ s.heap.config.fitWindow → ∀ b ∈ pick, Tightest blocks needed b) := by
  obtain ⟨blocks, free, hh⟩ := hs.holds
  have hwindow := hh.sound.accepted.fitWindow
  refine ⟨blocks, free, hh.sound.intact, fun c b hb => ((hh.sound.listed.mem_iff c b).1 hb).1, ?_⟩
  intro needed
  refine ⟨fit free needed s.heap.config.fitWindow, hh.sound.findFit_eq needed,
    picks_fit free needed hwindow, hh.sound.listed.fit_eq_none_iff needed hwindow, ?_⟩
  intro hwide b hb
  exact hh.sound.listed.tightest_of_picks hh.sound.laid hwide
    (Option.mem_def.1 hb ▸ picks_fit free needed hwindow)

/-- Three free blocks of the least class, of which a window of two compares the first two, and a
large one.  For 64 bytes the first of these two is picked, as the second is no smaller, and the
third, which would fit tightly, is not looked at.  For 104 bytes the search goes on in the next
class, and 680 bytes are too many. -/
theorem Reachable.findFit_picks_small :
    ∃ (s : Session) (lists : SizeClass → List BlockInfo),
      s.heap.blocks = .ok [⟨32, 64, false⟩, ⟨96, 32, true⟩, ⟨128, 96, false⟩, ⟨224, 32, true⟩,
        ⟨256, 96, false⟩, ⟨352, 32, true⟩, ⟨384, 672, false⟩] ∧
      (lists (.ofSize 64)).map BlockInfo.offset = [256, 128, 32] ∧ s.heap.config.fitWindow = 2 ∧
      (s.heap.findFit 64 = .ok (some 256) ∧ Picks lists 64 2 (some ⟨256, 96, false⟩)) ∧
      (s.heap.findFit 104 = .ok (some 384) ∧ Picks lists 104 2 (some ⟨384, 672, false⟩)) ∧
      s.heap.findFit 680 = .ok none ∧ Picks lists 680 2 none := by
  obtain ⟨s, P, hs, hf, hP⟩ := exists_of_rehearsal ⟨1024, 2, 2048⟩ 2048
    [.allocate 48, .allocate 8, .allocate 80, .allocate 8, .allocate 80, .allocate 8,
      .release (some ⟨32⟩), .release (some ⟨128⟩), .release (some ⟨256⟩)]
    (fun P => (P.blocks, P.free (.ofSize 64), P.config.fitWindow,
      [64, 104, 680].map (fit P.free · 2)))
    (a := ([⟨32, 64, false⟩, ⟨96, 32, true⟩, ⟨128, 96, false⟩, ⟨224, 32, true⟩,
        ⟨256, 96, false⟩, ⟨352, 32, true⟩, ⟨384, 672, false⟩],
      [⟨256, 96, false⟩, ⟨128, 96, false⟩, ⟨32, 64, false⟩], 2,
      [some ⟨256, 96, false⟩, some ⟨384, 672, false⟩, none]))
    (by decide) (by decide) (by decide) (by decide +kernel)
  simp only [Prod.mk.injEq, List.map_cons, List.map_nil, List.cons.injEq, and_true] at hP
  obtain ⟨hblocks, hfree, hwindow, hfit, hfit', hnone⟩ := hP
  obtain ⟨blocks, lists, hintact, hlists, hpicks⟩ := Reachable.findFit_picks hs
  obtain rfl := Except.ok.inj (hf.blocks_eq.symm.trans hintact.walk)
  have hqueues := congrFun (hintact.queues_eq hf.toSound.intact) (.ofSize 64)
  have hconfig : s.heap.config.fitWindow = 2 := by rw [hf.config_eq, hwindow]
  rw [hconfig] at hpicks
  -- a search picks what it comes to on the plan
  have hsearch {needed : Nat} {found : Option BlockInfo} (hfit : fit P.free needed 2 = found)
      (hfound : ∀ x ∈ found, x ∈ P.blocks) :
      s.heap.findFit needed = .ok (found.map BlockInfo.offset) ∧ Picks lists needed 2 found := by
    obtain ⟨pick, hpick, hpicks, -⟩ := hpicks needed
    have heq := hf.toSound.findFit_eq needed
    rw [hconfig, hfit] at heq
    obtain rfl := hpicks.eq_of_offset hf.laid hlists hfound
      (Except.ok.inj (heq.symm.trans hpick))
    exact ⟨heq, hpicks⟩
  refine ⟨s, lists, hblocks ▸ hf.blocks_eq, ?_, hconfig, hsearch hfit ?_, hsearch hfit' ?_,
    hsearch hnone nofun⟩
  · rw [hqueues, hfree]
    rfl
  · rintro _ ⟨⟩
    simp [hblocks]
  · rintro _ ⟨⟩
    simp [hblocks]

end Session

end BlockHeap
