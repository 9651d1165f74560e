import BlockHeap.Proofs.Clearing
import BlockHeap.Proofs.ReleaseOrder

/-!
# A release undoes a request

A request takes a free block, cuts it in two, or grows the arena first; giving the new pointer back
at once joins what there is to join.  That the second undoes the first need not be seen from the way
blocks are cut and joined.  Both leave all other allocated blocks alone
(`Session.Holds.exists_released`), so the allocated blocks are again those of before, and since no
two free blocks are neighbours, there is only one way for the blocks to tile the arena
(`Tiles.eq_of_allocated`): the old one, with what the arena has grown by added at the top
(`raised`).

`Session.Reachable.release_undoes` adds that the same number of bytes can then be had again without
growth.
-/

namespace BlockHeap

/-! ## Free bytes at the top -/

/-- The blocks with `n` free bytes added behind the last one, which ends at `top`: they belong to it
if it is free, and are a block of their own otherwise. -/
def raised (blocks : List BlockInfo) (top n : Nat) : List BlockInfo :=
  if n = 0 then
    blocks
  else
    match blocks.getLast? with
    | some last =>
      if last.allocated then blocks ++ [⟨top, n, false⟩]
      else blocks.dropLast ++ [⟨last.offset, last.size + n, false⟩]
    | none => [⟨top, n, false⟩]

section

variable {blocks : List BlockInfo} {start top n : Nat}

@[simp] lemma raised_zero (blocks : List BlockInfo) (top : Nat) : raised blocks top 0 = blocks :=
  if_pos rfl

/-- Raising is joining a block at the top. -/
lemma raised_eq_joined (hn : n ≠ 0) : raised blocks top n = joined blocks ⟨top, n, false⟩ [] := by
  rw [raised, if_neg hn]
  rcases List.eq_nil_or_concat blocks with rfl | ⟨pre, last, rfl⟩
  · simp [joined, joint, beforeJoint, afterJoint]
  · cases hlast : last.allocated <;> simp [joined, joint, beforeJoint, afterJoint, hlast]

lemma Tiles.raised (h : Tiles start blocks top) (n : Nat) :
    Tiles start (raised blocks top n) (top + n) := by
  by_cases hn : n = 0
  · subst hn
    rw [raised_zero]
    exact h
  · rw [raised_eq_joined hn]
    have hall : Tiles start (blocks ++ [⟨top, n, false⟩]) (top + n) :=
      tiles_append.2 ⟨top, h, rfl, rfl⟩
    rw [append_cons_eq, tiles_append] at hall
    obtain ⟨lo, hbefore, hmid⟩ := hall
    obtain ⟨hi, hjoint, hafter⟩ := tiles_append.1 hmid
    obtain ⟨rfl, rfl⟩ := joint_extent hjoint
    exact tiles_append.2 ⟨_, hbefore, rfl, hafter⟩

lemma Coalesced.raised (h : Coalesced blocks) (top n : Nat) : Coalesced (raised blocks top n) := by
  by_cases hn : n = 0
  · subst hn
    rwa [raised_zero]
  · rw [raised_eq_joined hn]
    exact coalesced_joined h List.isChain_nil

/-- The bytes at the top are free. -/
lemma mem_raised {b : BlockInfo} (hall : b.allocated = true) :
    b ∈ raised blocks top n ↔ b ∈ blocks := by
  by_cases hn : n = 0
  · subst hn
    rw [raised_zero]
  · rw [raised_eq_joined hn, mem_joined hall, List.append_nil]

lemma size_pos_of_mem_raised (hblocks : ∀ b ∈ blocks, 0 < b.size) :
    ∀ b ∈ raised blocks top n, 0 < b.size := by
  intro b hb
  by_cases hn : n = 0
  · subst hn
    exact hblocks b (raised_zero blocks top ▸ hb)
  rw [raised, if_neg hn] at hb
  rcases List.eq_nil_or_concat blocks with rfl | ⟨pre, last, rfl⟩
  · obtain rfl := List.mem_singleton.1 hb
    exact Nat.pos_of_ne_zero hn
  · cases hlast : last.allocated <;> simp [hlast] at hb <;> grind

end

/-! ## Requests -/

/-- The call asks for so many bytes, in one of the four ways to ask. -/
def Call.Asks : Call → Nat → Prop
  | tryAllocate size, n | allocate size, n => size = n
  | tryZeroedAllocate count size, n | zeroedAllocate count size, n => count * size = n
  | release _, _ | resize _ _, _ | write _ _, _ => False

lemma Call.Asks.pointer?_eq {call : Call} {n : Nat} (hasks : call.Asks n) :
    call.pointer? = none := by
  cases call <;> first | rfl | cases hasks

/-- Asking for zeros goes as asking for as many bytes. -/
lemma Heap.Sound.exists_zeroed {h : Heap} {blocks : List BlockInfo}
    {free : SizeClass → List BlockInfo} (hs : h.Sound blocks free) (count size : Nat) :
    ∃ h₁ h₂ result₁ result₂, (h.tryAllocate (count * size)).outcome = .ok (h₁, result₁) ∧
      (h.tryZeroedAllocate count size).outcome = .ok (h₂, result₂) ∧
      result₂.toOption = result₁.toOption ∧ h₂.memory.size = h₁.memory.size := by
  by_cases hlt : count * size < Checked.bound
  · obtain ⟨h₁, h₂, result, halloc, hzeroed, hrefused, hserved⟩ := hs.exists_cleared hlt
    refine ⟨h₁, h₂, result, result, halloc, hzeroed, rfl, ?_⟩
    cases result with
    | error error => rw [hrefused error rfl]
    | ok p =>
      obtain ⟨blocks₁, n, hcleared⟩ := hserved p rfl
      exact hcleared.frame.size
  · -- so many bytes are too many for a block as well
    obtain ⟨h', result, blocks', free', halloc, -, hanswered⟩ := hs.tryAllocate (count * size)
    obtain ⟨h'', result', halloc', hdecided⟩ := hs.decided (count * size)
    obtain ⟨rfl, rfl⟩ := Prod.mk.inj (Except.ok.inj (halloc.symm.trans halloc'))
    obtain ⟨k, rfl⟩ := hdecided.tooLarge.2 (by unfold Checked.bound at *; omega)
    cases hanswered
    exact ⟨h, h, _, .error (.overflow count size), halloc,
      Heap.tryZeroedAllocate_of_overflow (Nat.le_of_not_lt hlt), rfl, rfl⟩

namespace Session

variable {arena : Arena} {s s₁ : Session} {blocks : List BlockInfo}
variable {free : SizeClass → List BlockInfo} {call : Call} {p : Ptr} {n : Nat}

/-- Every way to ask has the answer of the plain request, and the arena grows by as much. -/
lemma Holds.perform_of_asks (hh : Holds arena s blocks free) (hasks : call.Asks n) :
    ∃ h result h' answer, (s.heap.tryAllocate n).outcome = .ok (h, result) ∧
      s.perform call = .ok (⟨h', Session.exchange s.live none result.toOption⟩, answer) ∧
      answer.toOption.join = result.toOption ∧ h'.memory.size = h.memory.size := by
  cases call with
  | tryAllocate size =>
    obtain rfl := hasks
    obtain ⟨h, result, -, -, halloc, -, -⟩ := hh.sound.tryAllocate size
    refine ⟨h, result, h, result.map some, halloc, ?_, toOption_map_some result, rfl⟩
    simp only [Session.perform, halloc, Fault.ok_bind]
    rfl
  | allocate size =>
    obtain rfl := hasks
    obtain ⟨h, result, -, -, halloc, -, -⟩ := hh.sound.tryAllocate size
    refine ⟨h, result, h, .ok result.toOption, halloc, ?_, rfl, rfl⟩
    simp only [Session.perform, Heap.allocate_eq_ok halloc, Fault.ok_bind]
    rfl
  | tryZeroedAllocate count size =>
    obtain rfl := hasks
    obtain ⟨h, h', result, result', halloc, hzero, hresult, hsize⟩ :=
      hh.sound.exists_zeroed count size
    refine ⟨h, result, h', result'.map some, halloc, ?_, (toOption_map_some result').trans hresult,
      hsize⟩
    simp only [Session.perform, hzero, Fault.ok_bind, ← hresult]
    rfl
  | zeroedAllocate count size =>
    obtain rfl := hasks
    obtain ⟨h, h', result, result', halloc, hzero, hresult, hsize⟩ :=
      hh.sound.exists_zeroed count size
    refine ⟨h, result, h', .ok result'.toOption, halloc, ?_, hresult, hsize⟩
    simp only [Session.perform, Heap.zeroedAllocate_eq_ok hzero, Fault.ok_bind, ← hresult]
    rfl
  | release _ | resize _ _ | write _ _ => cases hasks

/-! ## A request and a release -/

/-- A pointer that is given back as soon as it was handed out leaves the allocated blocks and the
live pointers of before, in the arena as it has grown. -/
lemma Holds.exists_released (hh : Holds arena s blocks free) (hasks : call.Asks n)
    (hperform : s.perform call = .ok (s₁, .ok (some p))) :
    ∃ s₂ blocks₂ free₂, s₁.perform (.release (some p)) = .ok (s₂, .ok none) ∧
      Holds arena s₂ blocks₂ free₂ ∧ s.heap.memory.size ≤ s₁.heap.memory.size ∧
      s₂.heap.memory.size = s₁.heap.memory.size ∧ s₂.heap.prologue = s.heap.prologue ∧
      (∀ b, b.allocated = true → (b ∈ blocks₂ ↔ b ∈ blocks)) ∧ s₂.live = s.live ∧
      ∀ q ∈ s.live, Unaffected s s₁ q ∧ Unaffected s s₂ q := by
  have hnone := hasks.pointer?_eq
  have hpermit : s.Permits call := by
    intro q hq
    rw [hnone] at hq
    cases hq
  obtain ⟨s', answer, blocks₁, free₁, gone, new, hcall, hh₁, hturned⟩ := hh.perform hpermit
  obtain ⟨rfl, rfl⟩ := Prod.mk.inj (Except.ok.inj (hperform.symm.trans hcall))
  obtain ⟨b, rfl, hb⟩ := Option.map_eq_some_iff.1 (hturned.answer_eq p rfl)
  -- a request takes no block away, and its block is new
  obtain rfl : gone = none := by
    cases gone with
    | none => rfl
    | some x => exact absurd (hnone.symm.trans (hturned.gone_mem x rfl).2.2) (by simp)
  obtain ⟨hall, hfresh⟩ := hturned.new_mem b rfl
  have hfresh : b ∉ blocks := fun hin => nomatch hfresh hin
  have hmem : ∀ x, x.allocated = true → (x ∈ blocks₁ ↔ x = b ∨ x ∈ blocks) := by
    intro x hx
    simpa using hturned.mem_iff x hx
  have hlive : s₁.live = p :: s.live := by
    obtain ⟨_, result, h', answer, -, hcall, hresult, -⟩ := hh.perform_of_asks hasks
    obtain ⟨rfl, rfl⟩ := Prod.mk.inj (Except.ok.inj (hperform.symm.trans hcall))
    rw [← hresult]
    simp [Session.exchange, Except.toOption]
  have hnew : ∀ q ∈ s.live, q ≠ p := by
    rintro q hq rfl
    have hnodup := hh₁.nodup
    rw [hlive] at hnodup
    exact (List.nodup_cons.1 hnodup).1 hq
  obtain ⟨s₂, blocks₂, free₂, hrelease, hh₂, hreleased⟩ :=
    hh₁.perform_release (p := p) (by rw [hlive]; exact List.mem_cons_self)
  refine ⟨s₂, blocks₂, free₂, hrelease, hh₂, hturned.size_le, hreleased.size,
    hreleased.prologue.trans hturned.prologue, ?_, ?_, ?_⟩
  · intro x hx
    rw [hreleased.mem_iff x hx, hmem x hx]
    constructor
    · rintro ⟨rfl | hin, hne⟩
      · exact absurd (List.mem_singleton.2 hb) hne
      · exact hin
    · intro hin
      refine ⟨.inr hin, fun heq => ?_⟩
      exact hnew x.ptr ((hh.mem_live _).2 ⟨x, hin, hx, rfl⟩) (List.mem_singleton.1 heq)
  · rw [hreleased.live, hlive, List.filter_cons_of_neg (by simp), List.filter_eq_self]
    intro q hq
    simpa using hnew q hq
  · intro q hq
    have hkept := hh.unaffected hh₁ hturned hq (by simp [hnone])
    exact ⟨hkept, hkept.trans (hreleased.kept q hkept.live (by simpa using hnew q hq))⟩

/-- The blocks after a request and a release are those of before, with what the arena has grown by
added at the top. -/
lemma Holds.blocks_eq_raised {s₂ : Session} {blocks₂ : List BlockInfo}
    {free₂ : SizeClass → List BlockInfo} (hh : Holds arena s blocks free)
    (hh₂ : Holds arena s₂ blocks₂ free₂) (hprologue : s₂.heap.prologue = s.heap.prologue)
    (hsize : s.heap.memory.size ≤ s₂.heap.memory.size)
    (hmem : ∀ b, b.allocated = true → (b ∈ blocks₂ ↔ b ∈ blocks)) :
    blocks₂ = raised blocks s.heap.memory.size (s₂.heap.memory.size - s.heap.memory.size) := by
  have htiles₂ := hh₂.sound.laid.tiles
  have htiles := hh.sound.laid.tiles.raised (s₂.heap.memory.size - s.heap.memory.size)
  rw [Nat.add_sub_cancel' hsize, ← hprologue] at htiles
  refine htiles₂.eq_of_allocated htiles ?_ (size_pos_of_mem_raised ?_) hh₂.sound.coalesced
    (hh.sound.coalesced.raised ..) fun b hall => (hmem b hall).trans (mem_raised hall).symm
  · intro b hb
    have := (hh₂.sound.laid.valid b hb).2
    omega
  · intro b hb
    have := (hh.sound.laid.valid b hb).2
    omega

/-- **Enough is free again.**  After the release some free block is large enough for what was asked
for. -/
lemma Holds.someFits_raised (hh : Holds arena s blocks free) (hasks : call.Asks n)
    (hperform : s.perform call = .ok (s₁, .ok (some p))) :
    SomeFits (raised blocks s.heap.memory.size (s₁.heap.memory.size - s.heap.memory.size))
        (blockFor n) ∧ n ≠ 0 ∧ n ≤ Checked.bound - 24 := by
  obtain ⟨h, result, h', answer, halloc, hcall, hresult, hsize⟩ := hh.perform_of_asks hasks
  obtain ⟨rfl, rfl⟩ := Prod.mk.inj (Except.ok.inj (hperform.symm.trans hcall))
  obtain ⟨h₁, result', halloc', hdecided⟩ := hh.sound.decided n
  obtain ⟨rfl, rfl⟩ := Prod.mk.inj (Except.ok.inj (halloc.symm.trans halloc'))
  obtain ⟨q, rfl⟩ : ∃ q, result = .ok q := by
    cases result with
    | ok q => exact ⟨q, rfl⟩
    | error error => cases hresult
  have hne : n ≠ 0 := fun hzero => nomatch hdecided.zeroSize.2 hzero
  have hle : n ≤ Checked.bound - 24 := by
    by_contra hgt
    obtain ⟨_, herror⟩ := hdecided.tooLarge.2 (Nat.lt_of_not_le hgt)
    cases herror
  refine ⟨?_, hne, hle⟩
  show SomeFits (raised blocks _ (h'.memory.size - _)) _
  rw [hsize]
  by_cases hfits : SomeFits blocks (blockFor n)
  · rw [((hdecided.reused hne hle).2 hfits).1, Nat.sub_self, raised_zero]
    exact hfits
  · have hgrown : ¬ s.heap.arena.Refuses (max (blockFor n) s.heap.config.chunk) := by
      intro hrefuses
      obtain ⟨_, _, herror⟩ := (hdecided.exhausted hne hle).2 ⟨hfits, hrefuses⟩
      cases herror
    rw [((hdecided.grown hne hle).2 ⟨hfits, hgrown⟩).1, Nat.add_sub_cancel_left]
    have := (blockFor_spec n).2.1
    rw [raised_eq_joined (by omega)]
    refine ⟨_, List.mem_append_right _ List.mem_cons_self, rfl, ?_⟩
    show blockFor n ≤ _ + max (blockFor n) s.heap.config.chunk + _
    omega

/-- **A release undoes a request.**  Let a program have asked for some bytes, in one of the four
ways to ask, and have been given a pointer.  If it gives the pointer back at once, then the blocks
are those of before, with what the arena has grown by added at the top as free bytes.  All other
pointers are live as before and their payloads have not changed, neither by the request nor by the
release; and however the program asks for as many bytes again, it is given a pointer and the arena
does not grow. -/
theorem Reachable.release_undoes (hs : Reachable arena s) (hasks : call.Asks n)
    (hperform : s.perform call = .ok (s₁, .ok (some p))) :
    ∃ blocks s₂, s.heap.blocks = .ok blocks ∧
      s₁.perform (.release (some p)) = .ok (s₂, .ok none) ∧
      s.heap.memory.size ≤ s₁.heap.memory.size ∧ s₂.heap.memory.size = s₁.heap.memory.size ∧
      s₂.heap.blocks = .ok
        (raised blocks s.heap.memory.size (s₁.heap.memory.size - s.heap.memory.size)) ∧
      s₂.live = s.live ∧ (∀ q ∈ s.live, Unaffected s s₁ q ∧ Unaffected s s₂ q) ∧
      ∀ again : Call, again.Asks n → ∃ s₃ q, s₂.perform again = .ok (s₃, .ok (some q)) ∧
        s₃.heap.memory.size = s₂.heap.memory.size := by
  obtain ⟨blocks, free, hh⟩ := hs.holds
  obtain ⟨s₂, blocks₂, free₂, hrelease, hh₂, hle, hsize, hprologue, hmem, hlive, hkept⟩ :=
    hh.exists_released hasks hperform
  have hblocks := hh.blocks_eq_raised hh₂ hprologue (hsize ▸ hle) hmem
  obtain ⟨hfits, hne, hbound⟩ := hh.someFits_raised hasks hperform
  rw [hsize] at hblocks
  refine ⟨blocks, s₂, hh.sound.blocks_eq, hrelease, hle, hsize, hblocks ▸ hh₂.sound.blocks_eq,
    hlive, hkept, ?_⟩
  intro again hagain
  obtain ⟨h, result, h', answer, halloc, hcall, hanswer, hgrown⟩ := hh₂.perform_of_asks hagain
  obtain ⟨h₁, result', halloc', hdecided⟩ := hh₂.sound.decided n
  obtain ⟨rfl, rfl⟩ := Prod.mk.inj (Except.ok.inj (halloc.symm.trans halloc'))
  obtain ⟨hkeeps, q, rfl⟩ := (hdecided.reused hne hbound).2 (hblocks ▸ hfits)
  refine ⟨⟨h', Session.exchange s₂.live none (some q)⟩, q, ?_, hgrown.trans hkeeps⟩
  rw [hcall]
  cases answer with
  | error error => cases hanswer
  | ok ptr =>
    obtain rfl : ptr = some q := hanswer
    rfl

/-- A request for 100 bytes makes the arena grow by 120.  After the release they belong to the free
block that was the last one before. -/
theorem Reachable.release_undoes_growth : ∃ s s₁ s₂ : Session, s.live = [⟨64⟩, ⟨32⟩] ∧
    s.perform (.tryAllocate 100) = .ok (s₁, .ok (some ⟨96⟩)) ∧
    s₁.perform (.release (some ⟨96⟩)) = .ok (s₂, .ok none) ∧
    s.heap.blocks = .ok [⟨32, 32, true⟩, ⟨64, 32, true⟩, ⟨96, 32, false⟩] ∧
    s₂.heap.blocks = .ok [⟨32, 32, true⟩, ⟨64, 32, true⟩, ⟨96, 152, false⟩] := by
  obtain ⟨-, s, -, -, hs, hview⟩ := exists_of_attempt ⟨96, 1, 1024⟩ 1024
    [.tryAllocate 8, .tryAllocate 8]
    (fun s => s.heap.blocks.toOption.bind fun blocks =>
      (s.perform (.tryAllocate 100)).toOption.bind fun r =>
        r.2.toOption.map fun q =>
          (s.live, blocks, s.heap.memory.size, r.1.heap.memory.size, q))
    (a := ([⟨64⟩, ⟨32⟩], [⟨32, 32, true⟩, ⟨64, 32, true⟩, ⟨96, 32, false⟩], 128, 248, some ⟨96⟩))
    (by decide +kernel)
  obtain ⟨blocks, hblocks, hview⟩ := Option.bind_eq_some_iff.1 hview
  obtain ⟨⟨s₁, answer⟩, hperform, hview⟩ := Option.bind_eq_some_iff.1 hview
  obtain ⟨q, hanswer, hview⟩ := Option.map_eq_some_iff.1 hview
  simp only [Prod.mk.injEq] at hview
  obtain ⟨hlive, rfl, hsize, hsize₁, rfl⟩ := hview
  obtain rfl := eq_ok_of_toOption hanswer
  have hperform := eq_ok_of_toOption hperform
  obtain ⟨blocks', s₂, hblocks', hrelease, -, -, hraised, -⟩ :=
    Reachable.release_undoes hs (show (Call.tryAllocate 100).Asks 100 from rfl) hperform
  obtain rfl := Except.ok.inj ((eq_ok_of_toOption hblocks).symm.trans hblocks')
  rw [hsize, hsize₁] at hraised
  exact ⟨s, s₁, s₂, hlive, hperform, hrelease, hblocks', hraised⟩

end Session

end BlockHeap
