import BlockHeap.Proofs.Sessions

/-!
# Live blocks are isolated

A call may touch the block of the pointer that is handed over, and no other live block: those keep
their place, their size and every byte of their payload (`Session.Holds.unaffected`).  The block of
a pointer that is handed out, tags included, has no byte in common with any other live block, with
the sentinels, or with what the arena held before the heap was made (`Session.Holds.apart`).
`Session.Reachable.isolated` puts the two together for every heap that a program can come to.
-/

namespace BlockHeap

namespace Session

variable {arena : Arena} {s s' : Session} {blocks blocks' : List BlockInfo}
variable {free free' : SizeClass → List BlockInfo} {gone new : Option BlockInfo} {call : Call}
variable {answer : Answer} {p q : Ptr}

/-- A live pointer in another session: it is live there as well, with the same payload. -/
structure Unaffected (s s' : Session) (p : Ptr) : Prop where
  live : p ∈ s'.live
  payload : ∃ n, s.heap.usableSize p = .ok n ∧ s'.heap.usableSize p = .ok n ∧
    ∀ i < n, s'.heap.memory.byte (p.offset + i) = s.heap.memory.byte (p.offset + i)

/-- The block of a live pointer, tags included, has no byte in common with the block of any other
live pointer, with the sentinels, or with the bytes in front of them. -/
structure Apart (arena : Arena) (s : Session) (q : Ptr) : Prop where
  live : q ∈ s.live
  extent : ∃ n, s.heap.usableSize q = .ok n ∧
    (∀ p ∈ s.live, p ≠ q → ∃ k, s.heap.usableSize p = .ok k ∧
      (q.offset + n + 8 ≤ p.offset - 8 ∨ p.offset + k + 8 ≤ q.offset - 8)) ∧
    arena.size ≤ s.heap.prologue - 8 ∧ s.heap.prologue + 8 ≤ q.offset - 8 ∧
    q.offset + n + 8 ≤ s.heap.memory.size - 8

/-- Only the block of the pointer that is handed over is affected by a call. -/
lemma Holds.unaffected (hh : Holds arena s blocks free) (hh' : Holds arena s' blocks' free')
    (hturn : Turned s s' call answer blocks blocks' gone new) (hp : p ∈ s.live)
    (hne : call.pointer? ≠ some p) : Unaffected s s' p := by
  obtain ⟨b, hb, hall, rfl⟩ := hh.exists_block hp
  have hnot : b ∉ gone := fun hin => hne (hturn.gone_mem b hin).2.2
  have hb' : b ∈ blocks' := (hturn.mem_iff b hall).2 (.inr ⟨hb, by simpa using hnot⟩)
  refine ⟨(hh'.mem_live _).2 ⟨b, hb', hall, rfl⟩, b.size - 16, hh.sound.usableSize_eq hb,
    hh'.sound.usableSize_eq hb', ?_⟩
  intro i hi
  apply hturn.kept b hb hall (by simpa using hnot)
  apply BlockInfo.InPayload.covers
  constructor
  · show b.offset ≤ b.offset + i
    omega
  · show b.offset + i < b.offset + b.size - 16
    omega

lemma Holds.apart (hh : Holds arena s blocks free) (hq : q ∈ s.live) : Apart arena s q := by
  obtain ⟨b, hb, hall, rfl⟩ := hh.exists_block hq
  have hbounds := hh.sound.laid.bounds hb
  have hprologue := hh.size_le_prologue
  refine ⟨hq, b.size - 16, hh.sound.usableSize_eq hb, ?_, by omega, ?_, ?_⟩
  · intro p hp hne
    obtain ⟨x, hx, hxall, rfl⟩ := hh.exists_block hp
    have hxbounds := hh.sound.laid.bounds hx
    refine ⟨x.size - 16, hh.sound.usableSize_eq hx, ?_⟩
    rcases hh.sound.laid.eq_or_apart hb hx with rfl | hapart
    · exact absurd rfl hne
    · show b.offset + (b.size - 16) + 8 ≤ x.offset - 8 ∨ x.offset + (x.size - 16) + 8 ≤ b.offset - 8
      omega
  · show s.heap.prologue + 8 ≤ b.offset - 8
    omega
  · show b.offset + (b.size - 16) + 8 ≤ s.heap.memory.size - 8
    omega

/-- The pointer that is handed out belongs to a new block. -/
lemma Holds.handedOut (hh : Holds arena s blocks free) (hh' : Holds arena s' blocks' free')
    (hturn : Turned s s' call answer blocks blocks' gone new) (hanswer : answer = .ok (some q)) :
    q ∈ s'.live ∧ ∀ p ∈ s.live, call.pointer? ≠ some p → p ≠ q := by
  obtain ⟨b, hb, rfl⟩ := Option.map_eq_some_iff.1 (hturn.answer_eq q hanswer)
  obtain ⟨hall, hfresh⟩ := hturn.new_mem b hb
  have hb' : b ∈ blocks' := (hturn.mem_iff b hall).2 (.inl (by simpa using hb))
  refine ⟨(hh'.mem_live _).2 ⟨b, hb', hall, rfl⟩, ?_⟩
  rintro p hp hne rfl
  -- the block of another live pointer is still there, so it would be the new one
  obtain ⟨x, hx, hxall, hptr⟩ := hh.exists_block hp
  have hnot : x ∉ gone := by
    intro hin
    exact hne ((hturn.gone_mem x hin).2.2.trans (congrArg some hptr.symm))
  have hx' : x ∈ blocks' := (hturn.mem_iff x hxall).2 (.inr ⟨hx, by simpa using hnot⟩)
  obtain rfl := hh'.sound.laid.eq_of_offset hb' hx' (congrArg Ptr.offset hptr)
  exact hnot (hfresh hx)

/-- **Live blocks are isolated.**  Whatever a program has done with a heap, a call affects no live
pointer but the one handed over, and a pointer that is handed out is none of the others and stands
apart from all of them. -/
theorem Reachable.isolated (hs : Reachable arena s) (hpermit : s.Permits call) :
    ∃ s' answer, s.perform call = .ok (s', answer) ∧
      (∀ p ∈ s.live, call.pointer? ≠ some p → Unaffected s s' p) ∧
      ∀ q, answer = .ok (some q) → Apart arena s' q ∧
        ∀ p ∈ s.live, call.pointer? ≠ some p → p ≠ q := by
  obtain ⟨blocks, free, hh⟩ := hs.holds
  obtain ⟨s', answer, blocks', free', gone, new, hperform, hh', hturn⟩ := hh.perform hpermit
  refine ⟨s', answer, hperform, ?_, ?_⟩
  · intro p hp hne
    exact hh.unaffected hh' hturn hp hne
  · intro q hanswer
    obtain ⟨hlive, hne⟩ := hh.handedOut hh' hturn hanswer
    exact ⟨hh'.apart hlive, hne⟩

/-- Resizing one of two small blocks leaves the other one alone. -/
theorem Reachable.isolated_small :
    ∃ s s' : Session, ∃ answer, s.live = [⟨64⟩, ⟨32⟩] ∧
      s.perform (.resize (some ⟨64⟩) 100) = .ok (s', answer) ∧ Unaffected s s' ⟨32⟩ := by
  obtain ⟨s, hs, hlive, -⟩ := exists_small
  have hpermit : s.Permits (.resize (some ⟨64⟩) 100) := by
    rintro p ⟨⟩
    simp [hlive]
  obtain ⟨s', answer, hperform, hkept, -⟩ := Reachable.isolated hs hpermit
  refine ⟨s, s', answer, hlive, hperform, hkept ⟨32⟩ (by simp [hlive]) ?_⟩
  rintro ⟨⟩

end Session

end BlockHeap
