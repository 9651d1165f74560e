import BlockHeap.Proofs.Lockstep
import BlockHeap.Proofs.Noninterference

/-!
# What is left of links

A block that is handed out still holds the links that it had while it was free, and so does space
that was taken in by a larger block.  `Session.staleAfter` follows through a run of calls where
something of a link may stand.  Links are written into the link words of free blocks, also of the
one that growing adds before it is handed out.  They are gone when the tag of a block is written
over them, or the payload that they stand in is cleared or written by the program.  If a block moves
when it is resized, they move along with the bytes that are copied.

`Heap.Follows.alike_staleAfter` is what this is for: of two heaps on which the same calls are made,
the second some bytes further up, all bytes but these are the same.
-/

namespace BlockHeap

namespace Heap

/-- The offset lies in the link words of a free block. -/
def HasLink (h : Heap) (pos : Nat) : Prop := ∃ blocks, h.blocks = .ok blocks ∧ InFreeSlot blocks pos

/-- The offset lies in a tag of a block. -/
def HasTag (h : Heap) (pos : Nat) : Prop :=
  ∃ blocks, h.blocks = .ok blocks ∧ ∃ b ∈ blocks, b.AtTags pos

/-- The offset lies in the payload of a pointer. -/
def InPayload (h : Heap) (p : Ptr) (pos : Nat) : Prop :=
  p.offset ≤ pos ∧ pos < p.offset + h.capacity p

namespace Follows

variable {h : Heap} {P : Plan} {b : BlockInfo} {pos : Nat}

lemma hasLink_iff (hf : h.Follows P) : h.HasLink pos ↔ InFreeSlot P.blocks pos := by
  simp [HasLink, hf.blocks_eq]

lemma hasTag_iff (hf : h.Follows P) : h.HasTag pos ↔ ∃ b ∈ P.blocks, b.AtTags pos := by
  simp [HasTag, hf.blocks_eq]

lemma inPayload_iff (hf : h.Follows P) (hb : b ∈ P.blocks) :
    h.InPayload b.ptr pos ↔ b.offset ≤ pos ∧ pos < b.offset + (b.size - 16) := by
  have hcapacity : h.capacity b.ptr = b.size - 16 := hf.capacity_eq hb
  rw [Heap.InPayload, hcapacity]
  rfl

lemma not_inPayload (hf : h.Follows P) (hb : b ∈ P.blocks) (hall : b.allocated = true)
    (hpos : InFreeSlot P.blocks pos) : ¬ h.InPayload b.ptr pos := by
  rw [hf.inPayload_iff hb]
  intro hin
  have hcovers : b.Covers pos := by
    unfold BlockInfo.Covers
    omega
  exact hf.laid.not_inFreeSlot hb hall hcovers hpos

lemma not_hasTag (hf : h.Follows P) (hpos : InFreeSlot P.blocks pos) : ¬ h.HasTag pos := by
  rw [hf.hasTag_iff]
  rintro ⟨b, hb, htag⟩
  obtain ⟨x, hx, -, hslot⟩ := hpos
  have hsize := (hf.laid.valid x hx).2
  obtain rfl := hf.laid.eq_of_covers hx hb (BlockInfo.covers_of_inSlot hsize hslot)
    (htag.covers (hf.laid.valid b hb))
  unfold Link.InSlot at hslot
  unfold BlockInfo.AtTags at htag
  omega

end Follows

end Heap

namespace Session

/-- Where something of a link may stand after a call, if the call only writes links and tags: where
it stood before, in free blocks, and in a block that was handed out, for it may have been free in
between. -/
def linkedAfter (s t : Session) (stale : Nat → Prop) (pos : Nat) : Prop :=
  stale pos ∨ t.heap.HasLink pos ∨ ∃ p ∈ t.live, p ∉ s.live ∧ Link.InSlot p.offset pos

/-- The same for any call, tags apart. -/
def leftAfter (s t : Session) (stale : Nat → Prop) (call : Call) (answer : Answer) (pos : Nat) :
    Prop :=
  match call with
  | .tryAllocate _ | .allocate _ | .release _ => s.linkedAfter t stale pos
  | .tryZeroedAllocate _ _ | .zeroedAllocate _ _ =>
    s.linkedAfter t stale pos ∧ ¬ ∃ p ∈ t.live, p ∉ s.live ∧ t.heap.InPayload p pos
  | .resize ptr size =>
    s.heap.resizeStale size ptr answer.toOption.join stale (s.linkedAfter t stale) pos
  | .write q _ => stale pos ∧ ¬ s.heap.InPayload q pos

/-- Where something of a link may stand after a call, if it stood at `stale` before. -/
def staleAfter (s t : Session) (stale : Nat → Prop) (call : Call) (answer : Answer) (pos : Nat) :
    Prop :=
  ¬ t.heap.HasTag pos ∧ s.leftAfter t stale call answer pos

/-- The same after the program has written bytes `lo`, `lo + 1`, …, up to `hi`, of a payload. -/
def stalePatched (s : Session) (stale : Nat → Prop) (p : Ptr) (lo hi pos : Nat) : Prop :=
  stale pos ∧ ¬ (s.heap.InPayload p pos ∧ p.offset + lo ≤ pos ∧ pos < p.offset + hi)

variable {s t : Session} {P : Plan} {stale : Nat → Prop} {pos : Nat} {live : List Ptr}
variable {old new : Option Ptr} {p : Ptr}

lemma mem_exchange : p ∈ exchange live old new ↔ new = some p ∨ p ∈ live ∧ some p ≠ old := by
  simp [exchange]

/-- A pointer that is handed out for no pointer or for another one was not live. -/
lemma new_of_exchange (hnodup : (exchange live old new).Nodup) (hp : p ∈ new)
    (hne : old ≠ some p) : p ∈ exchange live old new ∧ p ∉ live := by
  obtain rfl : new = some p := hp
  refine ⟨List.mem_cons_self, fun hmem => ?_⟩
  exact (List.nodup_cons.1 hnodup).1 (List.mem_filter.2 ⟨hmem, decide_eq_true hne.symm⟩)

/-- Links are written where the plan says. -/
lemma linkedAfter_of_linkStale (hf : t.heap.Follows P)
    (hnew : ∀ p ∈ new, p ∈ t.live ∧ p ∉ s.live) (h : linkStale stale P.blocks new pos) :
    s.linkedAfter t stale pos := by
  rcases h with hold | hlink | ⟨p, hp, hslot⟩
  · exact .inl hold
  · exact .inr (.inl (hf.hasLink_iff.2 hlink))
  · exact .inr (.inr ⟨p, (hnew p hp).1, (hnew p hp).2, hslot⟩)

end Session

namespace Heap.Follows

variable {s s' t t' : Session} {P : Plan} {backing : Backing} {k pos size count : Nat}
variable {stale : Nat → Prop} {call : Call} {answer answer' : Answer} {b : BlockInfo}

lemma tryAllocate_of_perform (hf : s.heap.Follows P)
    (hcall : call = .tryAllocate size ∨ call = .allocate size)
    (hperform : s.perform call = .ok (t, answer)) :
    (s.heap.tryAllocate size).outcome = .ok (t.heap, (P.tryAllocate size).2) ∧
      t.live = Session.exchange s.live none (P.tryAllocate size).2.toOption := by
  obtain ⟨h', halloc, -⟩ := hf.tryAllocate size
  rcases hcall with rfl | rfl
  · simp only [Session.perform, halloc, Fault.ok_bind] at hperform
    obtain ⟨rfl, -⟩ := Prod.mk.inj (Except.ok.inj hperform)
    exact ⟨halloc, rfl⟩
  · simp only [Session.perform, allocate_eq_ok halloc, Fault.ok_bind] at hperform
    obtain ⟨rfl, -⟩ := Prod.mk.inj (Except.ok.inj hperform)
    exact ⟨halloc, rfl⟩

lemma tryZeroedAllocate_of_perform (hf : s.heap.Follows P)
    (hcall : call = .tryZeroedAllocate count size ∨ call = .zeroedAllocate count size)
    (hperform : s.perform call = .ok (t, answer)) :
    (s.heap.tryZeroedAllocate count size).outcome =
        .ok (t.heap, (P.tryZeroedAllocate count size).2) ∧
      t.live = Session.exchange s.live none (P.tryZeroedAllocate count size).2.toOption := by
  obtain ⟨h', halloc, -⟩ := hf.tryZeroedAllocate count size
  rcases hcall with rfl | rfl
  · simp only [Session.perform, halloc, Fault.ok_bind] at hperform
    obtain ⟨rfl, -⟩ := Prod.mk.inj (Except.ok.inj hperform)
    exact ⟨halloc, rfl⟩
  · simp only [Session.perform, zeroedAllocate_eq_ok halloc, Fault.ok_bind] at hperform
    obtain ⟨rfl, -⟩ := Prod.mk.inj (Except.ok.inj hperform)
    exact ⟨halloc, rfl⟩

section

variable (hf : s.heap.Follows P) (hf' : s'.heap.Follows (P.shift k backing))
variable (ha : Memory.AlikeBut k stale s.heap.memory s'.heap.memory)
variable (hgrow : ∀ n, (P.shift k backing).canGrow n = P.canGrow n)
variable (hlinks : ∀ pos, InFreeSlot P.blocks pos → stale pos) (hnodup : t.live.Nodup)

include hf hf' ha hgrow hlinks hnodup

lemma alike_request (hcall : call = .tryAllocate size ∨ call = .allocate size)
    (hperform : s.perform call = .ok (t, answer))
    (hperform' : s'.perform (call.shift k) = .ok (t', answer'))
    (hft : t.heap.Follows (P.tryAllocate size).1) :
    Memory.AlikeBut k (s.linkedAfter t stale) t.heap.memory t'.heap.memory := by
  have hcall' : call.shift k = .tryAllocate size ∨ call.shift k = .allocate size :=
    hcall.imp (fun h => by rw [h]; rfl) fun h => by rw [h]; rfl
  obtain ⟨halloc, hlive⟩ := hf.tryAllocate_of_perform hcall hperform
  obtain ⟨halloc', -⟩ := hf'.tryAllocate_of_perform hcall' hperform'
  refine (hf.alike_tryAllocate hf' ha hgrow hlinks halloc halloc').mono fun pos hpos => ?_
  refine Session.linkedAfter_of_linkStale hft (fun p hp => ?_) hpos
  rw [hlive] at hnodup ⊢
  exact Session.new_of_exchange hnodup hp nofun

lemma alike_request_zeroed
    (hcall : call = .tryZeroedAllocate count size ∨ call = .zeroedAllocate count size)
    (hperform : s.perform call = .ok (t, answer))
    (hperform' : s'.perform (call.shift k) = .ok (t', answer'))
    (hft : t.heap.Follows (P.tryZeroedAllocate count size).1) :
    Memory.AlikeBut k (fun pos => s.linkedAfter t stale pos ∧
      ¬ ∃ p ∈ t.live, p ∉ s.live ∧ t.heap.InPayload p pos) t.heap.memory t'.heap.memory := by
  have hcall' : call.shift k = .tryZeroedAllocate count size ∨
      call.shift k = .zeroedAllocate count size :=
    hcall.imp (fun h => by rw [h]; rfl) fun h => by rw [h]; rfl
  obtain ⟨halloc, hlive⟩ := hf.tryZeroedAllocate_of_perform hcall hperform
  obtain ⟨halloc', -⟩ := hf'.tryZeroedAllocate_of_perform hcall' hperform'
  refine (hf.alike_tryZeroedAllocate hf' ha hgrow hlinks halloc halloc').mono ?_
  rintro pos ⟨hpos, hout⟩
  constructor
  · refine Session.linkedAfter_of_linkStale hft (fun p hp => ?_) hpos
    rw [hlive] at hnodup ⊢
    exact Session.new_of_exchange hnodup hp nofun
  · rintro ⟨p, hp, hfresh, hin⟩
    rw [hlive] at hp
    exact hout ⟨p, (Session.mem_exchange.1 hp).resolve_right fun hold => hfresh hold.1, hin⟩

lemma alike_perform (hptr : ∀ p ∈ call.pointer?, ∃ b ∈ P.blocks, b.allocated = true ∧ p = b.ptr)
    (hperform : s.perform call = .ok (t, answer))
    (hperform' : s'.perform (call.shift k) = .ok (t', answer')) :
    Memory.AlikeBut k (s.leftAfter t stale call answer) t.heap.memory t'.heap.memory := by
  obtain ⟨t₁, hperform₁, hft⟩ := hf.perform hptr
  obtain ⟨rfl, rfl⟩ := Prod.mk.inj (Except.ok.inj (hperform₁.symm.trans hperform))
  cases call with
  | tryAllocate size | allocate size =>
    exact hf.alike_request hf' ha hgrow hlinks hnodup (by simp) hperform hperform' hft
  | tryZeroedAllocate count size | zeroedAllocate count size =>
    exact hf.alike_request_zeroed hf' ha hgrow hlinks hnodup (by simp) hperform hperform' hft
  | release ptr =>
    obtain ⟨h₁, hrelease, ht⟩ := bind_eq_ok_iff.1 hperform
    obtain ⟨h₁', hrelease', ht'⟩ := bind_eq_ok_iff.1 hperform'
    obtain ⟨rfl, -⟩ := Prod.mk.inj (Except.ok.inj ht)
    obtain ⟨rfl, -⟩ := Prod.mk.inj (Except.ok.inj ht')
    refine (hf.alike_release hf' ha hlinks hptr hrelease hrelease').mono fun pos hpos => ?_
    exact Session.linkedAfter_of_linkStale hft (fun _ hp => absurd hp (Option.not_mem_none _)) hpos
  | resize ptr size =>
    obtain ⟨⟨h₁, moved⟩, hresize, ht⟩ := bind_eq_ok_iff.1 hperform
    obtain ⟨⟨h₁', moved'⟩, hresize', ht'⟩ := bind_eq_ok_iff.1 hperform'
    obtain ⟨rfl, hanswer⟩ := Prod.mk.inj (Except.ok.inj ht)
    obtain ⟨rfl, -⟩ := Prod.mk.inj (Except.ok.inj ht')
    obtain rfl := Except.ok.inj hanswer
    refine (hf.alike_resize hf' ha hgrow hlinks hptr hresize hresize').mono fun pos hpos => ?_
    refine Heap.resizeStale.mono hpos fun pos hpos => ?_
    refine Session.linkedAfter_of_linkStale hft (fun p hp => ?_) hpos
    obtain ⟨hmoved, hne⟩ := Option.mem_filter_iff.1 hp
    have hsome : (P.resize ptr size).2.isSome ∨ size = 0 := .inl (Option.isSome_of_mem hmoved)
    simp only [if_pos hsome] at hnodup ⊢
    exact Session.new_of_exchange hnodup hmoved (of_decide_eq_true hne).symm
  | write p f =>
    obtain ⟨b, hb, hall, rfl⟩ := hptr p rfl
    have hb' : b.shift k ∈ (P.shift k backing).blocks := List.mem_map_of_mem hb
    have hpayload : s.heap.payload b.ptr = .ok ⟨b.offset, b.size - 16⟩ := hf.payload_eq hb
    have hpayload' : s'.heap.payload (b.ptr.shift k) = .ok ⟨b.offset + k, b.size - 16⟩ :=
      hf'.payload_eq hb'
    simp only [Session.perform, Call.shift, hpayload, hpayload',
      Fault.ok_bind] at hperform hperform'
    obtain ⟨rfl, -⟩ := Prod.mk.inj (Except.ok.inj hperform)
    obtain ⟨rfl, -⟩ := Prod.mk.inj (Except.ok.inj hperform')
    refine hf.alike_write ha hb (fun _ _ _ => rfl) fun pos hout hstale => ⟨hstale, ?_⟩
    rwa [hf.inPayload_iff hb]

end

lemma exists_of_resize {p : Ptr} (hf : s.heap.Follows P) (hb : b ∈ P.blocks)
    (hall : b.allocated = true) (hmoved : (P.resize (some b.ptr) size).2 = some p) :
    ∃ b' ∈ (P.resize (some b.ptr) size).1.blocks,
      p = b'.ptr ∧ b'.allocated = true ∧ size + 16 ≤ b'.size := by
  by_cases hsize : size = 0
  · rw [Plan.resize, if_pos hsize] at hmoved
    cases hmoved
  · have hresize : P.resize (some b.ptr) size = P.resizeBlock b size := by
      rw [Plan.resize, if_neg hsize]
      simp only [hf.at?_eq hb, Option.elim]
    rw [hresize] at hmoved ⊢
    obtain ⟨_, -, -, hresized⟩ := hf.resized hb hall size
    rw [hmoved] at hresized
    exact hresized.exists_of_some

/-- **Links are stale.**  Where a free block has its links after a call, something of a link may
stand. -/
lemma leftAfter_of_inFreeSlot (hf : s.heap.Follows P)
    (hptr : ∀ p ∈ call.pointer?, ∃ b ∈ P.blocks, b.allocated = true ∧ p = b.ptr)
    (hlinks : ∀ pos, InFreeSlot P.blocks pos → stale pos)
    (hperform : s.perform call = .ok (t, answer)) (hft : t.heap.Follows (P.perform call).1)
    (hlive : ∀ p ∈ t.live, ∃ b ∈ (P.perform call).1.blocks, b.allocated = true ∧ p = b.ptr)
    (hpos : InFreeSlot (P.perform call).1.blocks pos) : s.leftAfter t stale call answer pos := by
  have hlinked : s.linkedAfter t stale pos := .inr (.inl (hft.hasLink_iff.2 hpos))
  cases call with
  | tryAllocate size | allocate size | release ptr => exact hlinked
  | tryZeroedAllocate count size | zeroedAllocate count size =>
    refine ⟨hlinked, ?_⟩
    rintro ⟨p, hp, -, hin⟩
    obtain ⟨b, hb, hall, rfl⟩ := hlive p hp
    exact hft.not_inPayload hb hall hpos hin
  | resize ptr size =>
    obtain ⟨h₁, hresize, -⟩ := hf.resize size (show ∀ p ∈ ptr, _ from hptr)
    simp only [Session.perform, hresize, Fault.ok_bind] at hperform
    obtain ⟨-, rfl⟩ := Prod.mk.inj (Except.ok.inj hperform)
    show s.heap.resizeStale size ptr (P.resize ptr size).2 stale _ pos
    cases hmoved : (P.resize ptr size).2 with
    | none =>
      rw [Heap.resizeStale_none]
      exact hlinked
    | some p =>
      cases ptr with
      | none => exact hlinked
      | some q =>
        -- what is copied lies in the payload of the new block
        obtain ⟨b, hb, hall, rfl⟩ := hptr q rfl
        obtain ⟨b', hb', rfl, hall', hroom⟩ := hf.exists_of_resize hb hall hmoved
        have hout := hft.not_inPayload hb' hall' hpos
        rw [hft.inPayload_iff hb'] at hout
        have hcopied : ¬ (b'.offset ≤ pos ∧
            pos < b'.offset + min (s.heap.capacity b.ptr) size) := by omega
        show copyStale b.offset b'.offset (min (s.heap.capacity b.ptr) size) stale _ pos
        rw [copyStale, if_neg hcopied]
        exact hlinked
  | write p f =>
    obtain ⟨b, hb, hall, rfl⟩ := hptr p rfl
    exact ⟨hlinks pos hpos, hf.not_inPayload hb hall hpos⟩

/-- **One call.**  Of two heaps that follow one plan, the second of them further up, all bytes but
stale ones are the same after the same call.  Links are stale. -/
lemma alike_staleAfter (hf : s.heap.Follows P) (hf' : s'.heap.Follows (P.shift k backing))
    (ha : Memory.AlikeBut k stale s.heap.memory s'.heap.memory)
    (hgrow : ∀ n, (P.shift k backing).canGrow n = P.canGrow n)
    (hlinks : ∀ pos, InFreeSlot P.blocks pos → stale pos)
    (hptr : ∀ p ∈ call.pointer?, ∃ b ∈ P.blocks, b.allocated = true ∧ p = b.ptr)
    (hperform : s.perform call = .ok (t, answer))
    (hperform' : s'.perform (call.shift k) = .ok (t', answer'))
    (hft : t.heap.Follows (P.perform call).1)
    (hft' : t'.heap.Follows ((P.perform call).1.shift k backing)) (hnodup : t.live.Nodup)
    (hlive : ∀ p ∈ t.live, ∃ b ∈ (P.perform call).1.blocks, b.allocated = true ∧ p = b.ptr) :
    Memory.AlikeBut k (s.staleAfter t stale call answer) t.heap.memory t'.heap.memory ∧
      ∀ pos, InFreeSlot (P.perform call).1.blocks pos → s.staleAfter t stale call answer pos := by
  have hleft := hf.alike_perform hf' ha hgrow hlinks hnodup hptr hperform hperform'
  refine ⟨(hleft.of_laid hft.laid hft'.laid).mono fun pos hpos => ?_, fun pos hpos => ?_⟩
  · exact ⟨mt hft.hasTag_iff.1 hpos.1, hpos.2⟩
  · exact ⟨hft.not_hasTag hpos,
      hf.leftAfter_of_inFreeSlot hptr hlinks hperform hft hlive hpos⟩

end Heap.Follows

end BlockHeap
