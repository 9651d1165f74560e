import BlockHeap.Proofs.Sessions

/-!
# Refused calls

A call is refused for one of five reasons: nothing is asked for, a product or a block size is no
machine number, or the arena cannot grow, be it for a request or for a block that would have to
move.  `Session.Reachable.unchanged_of_refused` says that a refused call has done nothing.  The heap
after it is the heap before it, bytes and heads included, the pointers that were live are live, and
whatever the program does next goes as if the call had not been made.
-/

namespace BlockHeap

/-- The answer says that the call was refused. -/
def Call.Refused : Call → Answer → Prop
  | tryAllocate _, answer | tryZeroedAllocate _ _, answer => ∃ error, answer = .error error
  | allocate _, answer | zeroedAllocate _ _, answer => answer = .ok none
  -- no bytes means to give the block back, and then no pointer is no refusal
  | resize _ size, answer => size ≠ 0 ∧ answer = .ok none
  | release _, _ | write _ _, _ => False

namespace Heap

variable {h h' : Heap} {blocks blocks' : List BlockInfo} {b : BlockInfo} {size : Nat}

lemma Answered.eq_of_refused {result : Except HeapError Ptr}
    (hanswered : Answered h blocks size h' blocks' result) (hnone : result.toOption = none) :
    h' = h := by
  cases hanswered with
  | served => cases hnone
  | refused => rfl

lemma Resized.eq_of_refused (hresized : Resized h blocks b size h' blocks' none) : h' = h := by
  cases hresized
  rfl

end Heap

namespace Session

variable {arena : Arena} {s s' : Session} {h' : Heap} {blocks blocks' : List BlockInfo}
variable {free : SizeClass → List BlockInfo} {call : Call} {answer : Answer}

lemma eq_of_answered {size : Nat} {result : Except HeapError Ptr}
    (hanswered : Heap.Answered s.heap blocks size h' blocks' result)
    (hnone : result.toOption = none) :
    (⟨h', exchange s.live none result.toOption⟩ : Session) = s := by
  rw [hanswered.eq_of_refused hnone, hnone, exchange_none]

/-- A block that cannot be resized stays, and so does its pointer. -/
lemma Holds.eq_of_resize (hh : Holds arena s blocks free) {ptr : Option Ptr} {size : Nat}
    (hpermit : s.Permits (.resize ptr size)) (hsize : size ≠ 0)
    (hperform : s.perform (.resize ptr size) = .ok (s', .ok none)) : s' = s := by
  obtain ⟨⟨h', result⟩, hresize, hs'⟩ := bind_eq_ok_iff.1 hperform
  obtain ⟨rfl, hresult⟩ := Prod.mk.inj (Except.ok.inj hs')
  obtain rfl : result = none := Except.ok.inj hresult
  suffices hheap : h' = s.heap by simp [hheap, hsize]
  cases ptr with
  | none =>
    obtain ⟨h₁, result, _, _, halloc, -, hanswered⟩ := hh.sound.allocate size
    rw [Heap.resize, if_neg hsize, halloc] at hresize
    obtain ⟨rfl, hnone⟩ := Prod.mk.inj (Except.ok.inj hresize)
    exact hanswered.eq_of_refused hnone
  | some p =>
    obtain ⟨b, hb, hall, rfl⟩ := hh.exists_block (hpermit p rfl)
    obtain ⟨h₁, result, _, _, hblock, -, hresized⟩ := hh.sound.resizeBlock hb hall size
    rw [Heap.resize, if_neg hsize, hblock] at hresize
    obtain ⟨rfl, rfl⟩ := Prod.mk.inj (Except.ok.inj hresize)
    exact hresized.eq_of_refused

lemma Holds.eq_of_refused (hh : Holds arena s blocks free) (hpermit : s.Permits call)
    (hperform : s.perform call = .ok (s', answer)) (hrefused : call.Refused answer) : s' = s := by
  cases call with
  | tryAllocate size =>
    obtain ⟨h', result, _, _, halloc, -, hanswered⟩ := hh.sound.tryAllocate size
    simp only [Session.perform, halloc, Fault.ok_bind] at hperform
    obtain ⟨rfl, rfl⟩ := Prod.mk.inj (Except.ok.inj hperform)
    obtain ⟨error, herror⟩ := hrefused
    exact eq_of_answered hanswered (by rw [← toOption_map_some, herror]; rfl)
  | allocate size =>
    obtain ⟨h', result, _, _, halloc, -, hanswered⟩ := hh.sound.allocate size
    simp only [Session.perform, halloc, Fault.ok_bind] at hperform
    obtain ⟨rfl, rfl⟩ := Prod.mk.inj (Except.ok.inj hperform)
    exact eq_of_answered hanswered (Except.ok.inj hrefused)
  | tryZeroedAllocate count size =>
    obtain ⟨h', result, _, _, halloc, -, hanswered⟩ := hh.sound.tryZeroedAllocate count size
    simp only [Session.perform, halloc, Fault.ok_bind] at hperform
    obtain ⟨rfl, rfl⟩ := Prod.mk.inj (Except.ok.inj hperform)
    obtain ⟨error, herror⟩ := hrefused
    exact eq_of_answered hanswered (by rw [← toOption_map_some, herror]; rfl)
  | zeroedAllocate count size =>
    obtain ⟨h', result, _, _, halloc, -, hanswered⟩ := hh.sound.tryZeroedAllocate count size
    simp only [Session.perform, Heap.zeroedAllocate_eq_ok halloc, Fault.ok_bind] at hperform
    obtain ⟨rfl, rfl⟩ := Prod.mk.inj (Except.ok.inj hperform)
    exact eq_of_answered hanswered (Except.ok.inj hrefused)
  | resize ptr size =>
    obtain ⟨hsize, rfl⟩ := hrefused
    exact hh.eq_of_resize hpermit hsize hperform
  | release ptr => exact hrefused.elim
  | write p f => exact hrefused.elim

/-- **Refused calls change nothing.**  Whatever a program has done with a heap, a call has an
answer, and if that says that the call was refused, then the heap is the old one byte by byte and
head by head, the live pointers are the old ones, and every further call comes to the same as
without it. -/
theorem Reachable.unchanged_of_refused (hs : Reachable arena s) (hpermit : s.Permits call) :
    ∃ s' answer, s.perform call = .ok (s', answer) ∧
      (call.Refused answer → s'.heap = s.heap ∧ s'.live = s.live ∧
        ∀ next, s'.perform next = s.perform next) := by
  obtain ⟨blocks, free, hh⟩ := hs.holds
  obtain ⟨s', answer, -, -, -, -, hperform, -, -⟩ := hh.perform hpermit
  refine ⟨s', answer, hperform, ?_⟩
  intro hrefused
  obtain rfl := hh.eq_of_refused hpermit hperform hrefused
  exact ⟨rfl, rfl, fun _ => rfl⟩

/-- In an arena of 1024 bytes no block of 2000 can be had, and the one that was to be resized
stays. -/
theorem Reachable.unchanged_of_refused_small :
    ∃ s s' : Session, s.live = [⟨64⟩, ⟨32⟩] ∧
      s.perform (.resize (some ⟨64⟩) 2000) = .ok (s', .ok none) ∧ s'.heap = s.heap := by
  obtain ⟨-, s, -, -, hs, hview⟩ := exists_of_attempt ⟨96, 1, 1024⟩ 1024
    [.tryAllocate 8, .tryAllocate 8]
    (fun s => (s.perform (.resize (some ⟨64⟩) 2000)).toOption.map
      fun result => (s.live, result.2.toOption))
    (a := ([⟨64⟩, ⟨32⟩], some none)) (by decide +kernel)
  obtain ⟨⟨s₁, answer₁⟩, hperform₁, hview⟩ := Option.map_eq_some_iff.1 hview
  obtain ⟨hlive, hanswer⟩ := Prod.mk.inj hview
  obtain rfl := eq_ok_of_toOption hanswer
  have hpermit : s.Permits (.resize (some ⟨64⟩) 2000) := by
    rintro p ⟨⟩
    simp [hlive]
  obtain ⟨s', answer, hperform, hkept⟩ := Reachable.unchanged_of_refused hs hpermit
  obtain ⟨rfl, rfl⟩ :=
    Prod.mk.inj (Except.ok.inj (hperform.symm.trans (eq_ok_of_toOption hperform₁)))
  exact ⟨s, s', hlive, hperform, (hkept ⟨by decide, rfl⟩).1⟩

end Session

end BlockHeap
