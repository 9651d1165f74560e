import BlockHeap.Heap.Resize
import BlockHeap.Proofs.Construction
import BlockHeap.Proofs.Resizing
import BlockHeap.Proofs.Walking

/-!
# Sessions

A session is a heap in the hands of a program, together with the pointers that the program has been
given and not given back.  The program makes calls, each with live pointers only, and writes what it
likes into the payloads of live blocks in between.  `Session.Reachable` collects what can come of
that, over any arena and for any configuration.

`Session.Holds` is the invariant: the heap is sound, and the live pointers are the allocated blocks.
It holds of a new heap (`Session.holds_made`), every permitted call has an answer and keeps it
(`Session.Holds.perform`), and so it holds of all reachable sessions (`Session.Reachable.holds`) and
at every point of a run of calls (`Session.Reachable.run`).
-/

namespace BlockHeap

/-! ## Calls -/

/-- A call that a program makes.  To write a part of a payload is to write all of it, with the other
bytes repeated. -/
inductive Call where
  | tryAllocate (size : Nat)
  | allocate (size : Nat)
  | tryZeroedAllocate (count size : Nat)
  | zeroedAllocate (count size : Nat)
  | release (ptr : Option Ptr)
  | resize (ptr : Option Ptr) (size : Nat)
  | write (ptr : Ptr) (f : Nat → UInt8)

/-- The pointer that is handed to a call. -/
def Call.pointer? : Call → Option Ptr
  | release ptr | resize ptr _ => ptr
  | write ptr _ => some ptr
  | tryAllocate _ | allocate _ | tryZeroedAllocate _ _ | zeroedAllocate _ _ => none

/-- What a call comes to: an error, or a pointer, or neither. -/
abbrev Answer := Except HeapError (Option Ptr)

/-- A heap and the live pointers into it. -/
structure Session where
  heap : Heap
  live : List Ptr

namespace Session

/-- The live pointers after one was given back and one was handed out. -/
def exchange (live : List Ptr) (old new : Option Ptr) : List Ptr :=
  new.toList ++ live.filter (some · ≠ old)

/-- Makes a call. -/
def perform (s : Session) : Call → Except Fault (Session × Answer)
  | .tryAllocate size => do
    let (h, result) ← (s.heap.tryAllocate size).outcome
    return (⟨h, exchange s.live none result.toOption⟩, result.map some)
  | .allocate size => do
    let (h, result) ← (s.heap.allocate size).outcome
    return (⟨h, exchange s.live none result⟩, .ok result)
  | .tryZeroedAllocate count size => do
    let (h, result) ← (s.heap.tryZeroedAllocate count size).outcome
    return (⟨h, exchange s.live none result.toOption⟩, result.map some)
  | .zeroedAllocate count size => do
    let (h, result) ← (s.heap.zeroedAllocate count size).outcome
    return (⟨h, exchange s.live none result⟩, .ok result)
  | .release ptr => do
    let h ← (s.heap.release ptr).outcome
    return (⟨h, exchange s.live ptr none⟩, .ok none)
  | .resize ptr size => do
    let (h, result) ← (s.heap.resize ptr size).outcome
    -- a pointer that could not be resized stays live
    return (⟨h, if result.isSome ∨ size = 0 then exchange s.live ptr result else s.live⟩,
      .ok result)
  | .write ptr f => do
    let span ← s.heap.payload ptr
    return ({ s with heap := s.heap.overwrite span f }, .ok none)

/-- A program may hand over live pointers only. -/
def Permits (s : Session) (call : Call) : Prop := ∀ p ∈ call.pointer?, p ∈ s.live

/-- Makes calls in order. -/
def run (s : Session) : List Call → Except Fault Session
  | [] => return s
  | call :: calls => do
    let (s, _) ← s.perform call
    s.run calls

/-- Every call of a run hands over live pointers only. -/
def PermitsAll : Session → List Call → Prop
  | _, [] => True
  | s, call :: calls => s.Permits call ∧ ∀ s' answer, s.perform call = .ok (s', answer) →
    s'.PermitsAll calls

end Session

/-- A heap that was just made on an arena, in one of the four ways to make one. -/
inductive Heap.Made : Arena → Heap → Prop where
  | new {h : Heap} (room : Nat) (hmake : (Heap.new room).outcome = .ok (.ok h)) :
      Made (.owned ({} : Config).maxHeap room) h
  | withConfig {h : Heap} (config : Config) (room : Nat)
      (hmake : (Heap.withConfig config room).outcome = .ok (.ok h)) :
      Made (.owned config.maxHeap room) h
  | withMapping {h : Heap} {arena : Arena} (config : Config) (space : AddressSpace)
      (hmap : Arena.mapped config.maxHeap space = .ok arena)
      (hmake : (Heap.withMapping config space).outcome = .ok (.ok h)) : Made arena h
  | withArena {h : Heap} {arena : Arena} (config : Config) (hsupplied : arena.Supplied)
      (hmake : (Heap.withArena arena config).outcome = .ok (.ok h)) : Made arena h

/-- What a program can come to with a heap on the arena, by calls that it may make. -/
inductive Session.Reachable (arena : Arena) : Session → Prop where
  | made {h : Heap} (hmade : Heap.Made arena h) : Reachable arena ⟨h, []⟩
  | step {s s' : Session} {call : Call} {answer : Answer} (hs : Reachable arena s)
      (hpermit : s.Permits call) (hperform : s.perform call = .ok (s', answer)) : Reachable arena s'

/-! ## The invariant -/

/-- Pointers as offsets of blocks. -/
def BlockInfo.ptr (b : BlockInfo) : Ptr := ⟨b.offset⟩

namespace Session

variable {arena : Arena} {s s' : Session} {h' : Heap} {blocks blocks' : List BlockInfo}
variable {free free' : SizeClass → List BlockInfo} {gone new : Option BlockInfo} {call : Call}
variable {answer : Answer} {p : Ptr}

/-- **The invariant of a session.**  The heap is sound, its allocated blocks are those of the live
pointers, and what the arena held before the heap was made is still there. -/
structure Holds (arena : Arena) (s : Session) (blocks : List BlockInfo)
    (free : SizeClass → List BlockInfo) : Prop where
  sound : s.heap.Sound blocks free
  nodup : s.live.Nodup
  mem_live : ∀ p, p ∈ s.live ↔ ∃ b ∈ blocks, b.allocated = true ∧ b.ptr = p
  prologue : s.heap.prologue = alignDown (arena.size + 7) + 16
  foreign : ∀ pos < arena.size, s.heap.memory.byte pos = arena.memory.byte pos

lemma Holds.exists_block (hh : Holds arena s blocks free) (hp : p ∈ s.live) :
    ∃ b ∈ blocks, b.allocated = true ∧ p = ⟨b.offset⟩ := by
  obtain ⟨b, hb, hall, hptr⟩ := (hh.mem_live p).1 hp
  exact ⟨b, hb, hall, hptr.symm⟩

/-- What the arena held before stands in front of the prologue. -/
lemma Holds.size_le_prologue (hh : Holds arena s blocks free) :
    arena.size + 16 ≤ s.heap.prologue := by
  rw [hh.prologue]
  exact Nat.add_le_add_right (le_alignDown_add _) 16

lemma Holds.foreign_of_front (hh : Holds arena s blocks free)
    (hfront : ∀ pos < s.heap.prologue + 8, h'.memory.byte pos = s.heap.memory.byte pos) :
    ∀ pos < arena.size, h'.memory.byte pos = arena.memory.byte pos := fun pos hpos =>
  (hfront pos (by have := hh.size_le_prologue; omega)).trans (hh.foreign pos hpos)

/-- The effect of a call on allocated blocks: at most the block of the pointer that was handed over
is gone, and at most one block, that of the pointer handed out, is new. -/
structure Turned (s s' : Session) (call : Call) (answer : Answer) (blocks blocks' : List BlockInfo)
    (gone new : Option BlockInfo) : Prop extends
    Heap.Turnover s.heap s'.heap blocks blocks' gone.toList new.toList where
  gone_mem : ∀ b ∈ gone, b ∈ blocks ∧ b.allocated = true ∧ call.pointer? = some b.ptr
  new_mem : ∀ b ∈ new, b.allocated = true ∧ (b ∈ blocks → b ∈ gone)
  answer_eq : ∀ p, answer = .ok (some p) → new.map BlockInfo.ptr = some p

/-- The invariant carries over if the live pointers change as the allocated blocks do. -/
lemma Holds.exchange (hh : Holds arena s blocks free) (gone new : Option BlockInfo)
    (hsound : h'.Sound blocks' free')
    (hturn : Turned s ⟨h', Session.exchange s.live (gone.map BlockInfo.ptr)
      (new.map BlockInfo.ptr)⟩ call answer blocks blocks' gone new) :
    Holds arena ⟨h', Session.exchange s.live (gone.map BlockInfo.ptr) (new.map BlockInfo.ptr)⟩
      blocks' free' := by
  have hnew : ∀ b ∈ new, b ∈ blocks' := fun b hb =>
    (hturn.mem_iff b (hturn.new_mem b hb).1).2 (.inl (by simpa using hb))
  -- a pointer stays live if its block is not gone
  have hold : ∀ p, p ∈ s.live.filter (some · ≠ gone.map BlockInfo.ptr) ↔
      ∃ b ∈ blocks, b.allocated = true ∧ b.ptr = p ∧ b ∉ gone := by
    intro p
    simp only [List.mem_filter, hh.mem_live p, decide_eq_true_eq]
    constructor
    · rintro ⟨⟨b, hb, hall, rfl⟩, hne⟩
      exact ⟨b, hb, hall, rfl, fun hin => hne (by rw [hin]; rfl)⟩
    · rintro ⟨b, hb, hall, rfl, hnot⟩
      refine ⟨⟨b, hb, hall, rfl⟩, ?_⟩
      intro he
      obtain ⟨g, hg, hptr⟩ := Option.map_eq_some_iff.1 he.symm
      have := hh.sound.laid.eq_of_offset (hturn.gone_mem g hg).1 hb (congrArg Ptr.offset hptr)
      exact hnot (this ▸ hg)
  refine ⟨hsound, ?_, ?_, hturn.prologue.trans hh.prologue, hh.foreign_of_front hturn.front⟩
  · refine List.nodup_append.2 ⟨by cases new <;> simp, hh.nodup.filter _, ?_⟩
    rintro p hp q hq rfl
    obtain ⟨b, hb, hptr⟩ := Option.map_eq_some_iff.1 (Option.mem_toList.1 hp)
    obtain ⟨x, hx, hxall, hxptr, hxgone⟩ := (hold p).1 hq
    have hx' : x ∈ blocks' := (hturn.mem_iff x hxall).2 (.inr ⟨hx, by simpa using hxgone⟩)
    have hxb := hsound.laid.eq_of_offset hx' (hnew b hb)
      (congrArg Ptr.offset (hxptr.trans hptr.symm))
    exact hxgone (hxb ▸ (hturn.new_mem b hb).2 (hxb ▸ hx))
  · intro p
    rw [Session.exchange, List.mem_append, hold p, Option.mem_toList]
    constructor
    · rintro (hp | ⟨b, hb, hall, hptr, hnot⟩)
      · obtain ⟨b, hb, hptr⟩ := Option.map_eq_some_iff.1 hp
        exact ⟨b, hnew b hb, (hturn.new_mem b hb).1, hptr⟩
      · exact ⟨b, (hturn.mem_iff b hall).2 (.inr ⟨hb, by simpa using hnot⟩), hall, hptr⟩
    · rintro ⟨b, hb, hall, hptr⟩
      rcases (hturn.mem_iff b hall).1 hb with hin | ⟨hin, hnot⟩
      · exact .inl (Option.map_eq_some_iff.2 ⟨b, by simpa using hin, hptr⟩)
      · exact .inr ⟨b, hin, hall, hptr, by simpa using hnot⟩

@[simp] lemma exchange_none (live : List Ptr) : Session.exchange live none none = live := by
  simp [Session.exchange]

/-! ## One call -/

/-- What a call does to a session that holds. -/
def Kept (arena : Arena) (s : Session) (blocks : List BlockInfo) (call : Call) : Prop :=
  ∃ s' answer blocks' free' gone new, s.perform call = .ok (s', answer) ∧
    Holds arena s' blocks' free' ∧ Turned s s' call answer blocks blocks' gone new

lemma Holds.kept_of_answered {size : Nat} {result : Except HeapError Ptr}
    (hh : Holds arena s blocks free) (answer : Answer) (hsound : h'.Sound blocks' free')
    (hanswered : Heap.Answered s.heap blocks size h' blocks' result)
    (hperform : s.perform call =
      .ok (⟨h', Session.exchange s.live none result.toOption⟩, answer))
    (hanswer : ∀ p, answer = .ok (some p) → result.toOption = some p) :
    Kept arena s blocks call := by
  cases hanswered with
  | served b hall hfresh hroom hturn =>
    have hturned : Turned s ⟨h', Session.exchange s.live none (some b.ptr)⟩ call answer blocks
        blocks' none (some b) :=
      { hturn with
        gone_mem := nofun
        new_mem := fun x hx => by cases hx; exact ⟨hall, fun hin => absurd hin hfresh⟩
        answer_eq := hanswer }
    exact ⟨_, _, _, _, none, some b, hperform,
      hh.exchange none (some b) hsound hturned, hturned⟩
  | refused error =>
    have hturned : Turned s ⟨s.heap, Session.exchange s.live none none⟩ call answer blocks
        blocks none none :=
      { Heap.Turnover.refl s.heap blocks with
        gone_mem := nofun
        new_mem := nofun
        answer_eq := hanswer }
    exact ⟨_, _, _, _, none, none, hperform,
      hh.exchange none none hsound hturned, hturned⟩

lemma Holds.kept_of_resized {b : BlockInfo} {size : Nat} {result : Option Ptr}
    (hh : Holds arena s blocks free) (hb : b ∈ blocks) (hall : b.allocated = true)
    (hcall : call.pointer? = some b.ptr) (hsound : h'.Sound blocks' free')
    (hresized : Heap.Resized s.heap blocks b size h' blocks' result)
    (hperform : s.perform call = .ok (⟨h', if result.isSome then
      Session.exchange s.live (some b.ptr) result else s.live⟩, .ok result)) :
    Kept arena s blocks call := by
  cases hresized with
  | served b' hall' hfresh hroom hturn =>
    have hturned : Turned s ⟨h', Session.exchange s.live (some b.ptr) (some b'.ptr)⟩ call
        (.ok (some b'.ptr)) blocks blocks' (some b) (some b') :=
      { hturn with
        gone_mem := fun x hx => by cases hx; exact ⟨hb, hall, hcall⟩
        new_mem := fun x hx => by cases hx; exact ⟨hall', fun hin => (hfresh hin).symm ▸ rfl⟩
        answer_eq := fun p hp => by cases hp; rfl }
    exact ⟨_, _, _, _, some b, some b', hperform,
      hh.exchange (some b) (some b') hsound hturned, hturned⟩
  | refused =>
    exact ⟨_, _, _, _, none, none, hperform,
      ⟨hsound, hh.nodup, hh.mem_live, hh.prologue, hh.foreign⟩,
      { Heap.Turnover.refl s.heap blocks with
        gone_mem := nofun
        new_mem := nofun
        answer_eq := nofun }⟩

/-- **Giving back a block.**  The block is gone, and the arena keeps its size. -/
lemma Holds.turned_release {b : BlockInfo} (hh : Holds arena s blocks free) (hb : b ∈ blocks)
    (hall : b.allocated = true) (hcall : call.pointer? = some b.ptr) :
    ∃ h' blocks' free', (s.heap.release (some b.ptr)).outcome = .ok h' ∧
      h'.memory.size = s.heap.memory.size ∧
      Holds arena ⟨h', Session.exchange s.live (some b.ptr) none⟩ blocks' free' ∧
      Turned s ⟨h', Session.exchange s.live (some b.ptr) none⟩ call (.ok none) blocks blocks'
        (some b) none := by
  obtain ⟨pre, post, rfl⟩ := List.append_of_mem hb
  obtain ⟨m, lists, hrelease, hsound, hframe⟩ := hh.sound.releaseBlock hall
  have hturned : Turned s ⟨s.heap.put m lists, Session.exchange s.live (some b.ptr) none⟩ call
      (.ok none) (pre ++ b :: post) (joined pre b.freed post) (some b) none :=
    { hh.sound.turnover_release lists hframe with
      gone_mem := fun x hx => by cases hx; exact ⟨hb, hall, hcall⟩
      new_mem := nofun
      answer_eq := nofun }
  exact ⟨_, _, _, hrelease, hframe.size, hh.exchange (some b) none hsound hturned, hturned⟩

lemma Holds.kept_of_release (hh : Holds arena s blocks free) (ptr : Option Ptr)
    (hcall : call.pointer? = ptr) (hpermit : s.Permits call)
    (hperform : ∀ h', (s.heap.release ptr).outcome = .ok h' →
      s.perform call = .ok (⟨h', Session.exchange s.live ptr none⟩, .ok none)) :
    Kept arena s blocks call := by
  cases ptr with
  | none =>
    have hturned : Turned s ⟨s.heap, Session.exchange s.live none none⟩ call (.ok none) blocks
        blocks none none :=
      { Heap.Turnover.refl s.heap blocks with
        gone_mem := nofun
        new_mem := nofun
        answer_eq := nofun }
    exact ⟨_, _, _, _, none, none, hperform _ rfl,
      hh.exchange none none hh.sound hturned, hturned⟩
  | some p =>
    obtain ⟨b, hb, hall, rfl⟩ := hh.exists_block (hpermit p hcall)
    obtain ⟨h', blocks', free', hrelease, -, hh', hturned⟩ := hh.turned_release hb hall hcall
    exact ⟨_, _, _, _, some b, none, hperform _ hrelease, hh', hturned⟩

lemma Holds.kept_of_write (hh : Holds arena s blocks free) (f : Nat → UInt8)
    (hpermit : s.Permits (.write p f)) : Kept arena s blocks (.write p f) := by
  obtain ⟨b, hb, hall, rfl⟩ := hh.exists_block (hpermit p rfl)
  obtain ⟨hsound, hturn⟩ := hh.sound.overwrite_payload hb hall f
  exact ⟨⟨s.heap.overwrite ⟨b.offset, b.size - 16⟩ f, s.live⟩, .ok none, _, _, some b, some b,
    by simp only [Session.perform, hh.sound.payload_eq hb, Fault.ok_bind]; rfl,
    ⟨hsound, hh.nodup, hh.mem_live, hh.prologue, hh.foreign_of_front hturn.front⟩,
    { hturn with
      gone_mem := fun x hx => by cases hx; exact ⟨hb, hall, rfl⟩
      new_mem := fun x hx => by cases hx; exact ⟨hall, fun _ => rfl⟩
      answer_eq := nofun }⟩

lemma Holds.kept_of_resize (hh : Holds arena s blocks free) (ptr : Option Ptr) (size : Nat)
    (hpermit : s.Permits (.resize ptr size)) : Kept arena s blocks (.resize ptr size) := by
  rcases Nat.eq_zero_or_pos size with rfl | hpos
  · apply hh.kept_of_release ptr rfl hpermit
    intro h' hrelease
    have hresize : (s.heap.resize ptr 0).outcome = .ok (h', none) := by
      unfold Heap.resize
      rw [if_pos rfl, Traced.outcome_bind, hrelease]
      rfl
    simp only [Session.perform, hresize, Fault.ok_bind, or_true, if_true]
    rfl
  · have hsize : size ≠ 0 := Nat.ne_of_gt hpos
    cases ptr with
    | none =>
      obtain ⟨h', result, blocks', free', halloc, hsound, hanswered⟩ := hh.sound.allocate size
      have hresize : (s.heap.resize none size).outcome = .ok (h', result.toOption) := by
        rw [Heap.resize, if_neg hsize]
        exact halloc
      apply hh.kept_of_answered (.ok result.toOption) hsound hanswered
      · simp only [Session.perform, hresize, Fault.ok_bind, hsize, or_false]
        cases result.toOption <;> simp
      · intro p hp
        exact Except.ok.inj hp
    | some p =>
      obtain ⟨b, hb, hall, rfl⟩ := hh.exists_block (hpermit p rfl)
      obtain ⟨h', result, blocks', free', hblock, hsound, hresized⟩ :=
        hh.sound.resizeBlock hb hall size
      have hresize : (s.heap.resize (some ⟨b.offset⟩) size).outcome = .ok (h', result) := by
        rw [Heap.resize, if_neg hsize]
        exact hblock
      apply hh.kept_of_resized hb hall rfl hsound hresized
      simp only [Session.perform, hresize, Fault.ok_bind, hsize, or_false]
      rfl

/-- An answer tells the pointer that was handed out. -/
lemma toOption_map_some (result : Except HeapError Ptr) :
    (result.map some).toOption.join = result.toOption := by
  cases result <;> rfl

/-- **One call.**  A permitted call has an answer and keeps the invariant. -/
lemma Holds.perform (hh : Holds arena s blocks free) (hpermit : s.Permits call) :
    Kept arena s blocks call := by
  cases call with
  | tryAllocate size =>
    obtain ⟨h', result, blocks', free', halloc, hsound, hanswered⟩ := hh.sound.tryAllocate size
    apply hh.kept_of_answered (result.map some) hsound hanswered
    · simp only [Session.perform, halloc, Fault.ok_bind]
      rfl
    · intro p hp
      rw [← toOption_map_some, hp]
      rfl
  | allocate size =>
    obtain ⟨h', result, blocks', free', halloc, hsound, hanswered⟩ := hh.sound.allocate size
    apply hh.kept_of_answered (.ok result.toOption) hsound hanswered
    · simp only [Session.perform, halloc, Fault.ok_bind]
      rfl
    · intro p hp
      exact Except.ok.inj hp
  | tryZeroedAllocate count size =>
    obtain ⟨h', result, blocks', free', halloc, hsound, hanswered⟩ :=
      hh.sound.tryZeroedAllocate count size
    apply hh.kept_of_answered (result.map some) hsound hanswered
    · simp only [Session.perform, halloc, Fault.ok_bind]
      rfl
    · intro p hp
      rw [← toOption_map_some, hp]
      rfl
  | zeroedAllocate count size =>
    obtain ⟨h', result, blocks', free', halloc, hsound, hanswered⟩ :=
      hh.sound.tryZeroedAllocate count size
    apply hh.kept_of_answered (.ok result.toOption) hsound hanswered
    · simp only [Session.perform, Heap.zeroedAllocate_eq_ok halloc, Fault.ok_bind]
      rfl
    · intro p hp
      exact Except.ok.inj hp
  | release ptr =>
    apply hh.kept_of_release ptr rfl hpermit
    intro h' hrelease
    simp only [Session.perform, hrelease, Fault.ok_bind]
    rfl
  | resize ptr size => exact hh.kept_of_resize ptr size hpermit
  | write p f => exact hh.kept_of_write f hpermit

/-! ## Runs -/

/-- **A new heap.**  The invariant holds, with one free block and no live pointer. -/
lemma holds_made {h : Heap} (hmade : Heap.Made arena h) :
    ∃ b free, Holds arena ⟨h, []⟩ [b] free := by
  have hfresh : ∀ {arena : Arena} {config : Config}, arena.Sound →
      (Heap.withArena arena config).outcome = .ok (.ok h) →
        ∃ b free, Holds arena ⟨h, []⟩ [b] free := by
    intro arena config harena hmake
    obtain ⟨result, hresult, hfresh⟩ := Heap.withArena_total harena config
    rw [hmake] at hresult
    cases hresult
    have hnew := hfresh h rfl
    obtain ⟨free, hsound⟩ := hnew.sound
    exact ⟨_, free, hsound, List.nodup_nil, by simp, hnew.prologue_eq, hnew.front⟩
  cases hmade with
  | new room hmake =>
    rw [Heap.new, Heap.withConfig_eq] at hmake
    exact hfresh (Arena.Supplied.owned _ room).sound hmake
  | withConfig config room hmake =>
    exact hfresh (Arena.Supplied.owned _ room).sound (Heap.withConfig_eq config room ▸ hmake)
  | withMapping config space hmap hmake =>
    exact hfresh (Arena.Supplied.mapped hmap).sound (Heap.withMapping_eq hmap ▸ hmake)
  | withArena config hsupplied hmake => exact hfresh hsupplied.sound hmake

/-- The invariant holds of everything that a program can come to. -/
lemma Reachable.holds (hs : Reachable arena s) : ∃ blocks free, Holds arena s blocks free := by
  induction hs with
  | made hmade =>
    obtain ⟨b, free, hh⟩ := holds_made hmade
    exact ⟨[b], free, hh⟩
  | step hs hpermit hperform ih =>
    obtain ⟨blocks, free, hh⟩ := ih
    obtain ⟨s', answer, blocks', free', gone, new, hcall, hh', -⟩ := hh.perform hpermit
    rw [hperform] at hcall
    cases hcall
    exact ⟨blocks', free', hh'⟩

/-- A permitted run of calls comes to its end, in a session that a program can come to. -/
lemma Reachable.run (hs : Reachable arena s) (calls : List Call) (hpermit : s.PermitsAll calls) :
    ∃ s', s.run calls = .ok s' ∧ Reachable arena s' := by
  induction calls generalizing s with
  | nil => exact ⟨s, rfl, hs⟩
  | cons call calls ih =>
    obtain ⟨hcall, hrest⟩ := hpermit
    obtain ⟨blocks, free, hh⟩ := hs.holds
    obtain ⟨s₁, answer, -, -, -, -, hperform, -, -⟩ := hh.perform hcall
    obtain ⟨s', hrun, hs'⟩ := ih (hs.step hcall hperform) (hrest s₁ answer hperform)
    exact ⟨s', by rw [Session.run, hperform]; exact hrun, hs'⟩

/-! ## Sessions that are computed -/

instance (s : Session) (call : Call) : Decidable (s.Permits call) :=
  inferInstanceAs (Decidable (∀ p ∈ call.pointer?, p ∈ s.live))

/-- Makes calls in order on a new heap, as long as they are permitted. -/
def attempt (s : Session) : List Call → Option Session
  | [] => some s
  | call :: calls =>
    if s.Permits call then (s.perform call).toOption.bind fun (s, _) => s.attempt calls else none

lemma eq_ok_of_toOption {ε α : Type} {x : Except ε α} {a : α} (h : x.toOption = some a) :
    x = .ok a := by
  cases x with
  | error e => cases h
  | ok b => cases h; rfl

lemma Reachable.attempt (hs : Reachable arena s) {calls : List Call}
    (hattempt : s.attempt calls = some s') : Reachable arena s' := by
  induction calls generalizing s with
  | nil => exact Option.some.inj hattempt ▸ hs
  | cons call calls ih =>
    rw [Session.attempt] at hattempt
    split at hattempt
    · next hpermit =>
      obtain ⟨⟨s₁, answer⟩, hperform, hrest⟩ := Option.bind_eq_some_iff.1 hattempt
      exact ih (hs.step hpermit (eq_ok_of_toOption hperform)) hrest
    · cases hattempt

/-- What a computation shows of a session holds of one that a program can come to. -/
lemma exists_of_attempt {α : Type} {a : α} (config : Config) (room : Nat) (calls : List Call)
    (view : Session → Option α)
    (hview : ((Heap.withConfig config room).outcome.toOption.bind Except.toOption).bind
      (fun h => (attempt ⟨h, []⟩ calls).bind view) = some a) :
    ∃ h s, (Heap.withConfig config room).outcome = .ok (.ok h) ∧ attempt ⟨h, []⟩ calls = some s ∧
      Reachable (.owned config.maxHeap room) s ∧ view s = some a := by
  obtain ⟨h, hheap, hsession⟩ := Option.bind_eq_some_iff.1 hview
  obtain ⟨result, hresult, hheap⟩ := Option.bind_eq_some_iff.1 hheap
  obtain ⟨s, hattempt, hs⟩ := Option.bind_eq_some_iff.1 hsession
  have hmake : (Heap.withConfig config room).outcome = .ok (.ok h) := by
    rw [eq_ok_of_toOption hresult, eq_ok_of_toOption hheap]
  exact ⟨h, s, hmake, hattempt, (Reachable.made (.withConfig config room hmake)).attempt hattempt,
    hs⟩

/-- A session with two small live blocks and a free one in a chunk of 96 bytes. -/
lemma exists_small : ∃ s, Reachable (.owned 1024 1024) s ∧ s.live = [⟨64⟩, ⟨32⟩] ∧
    s.heap.blocks = .ok [⟨32, 32, true⟩, ⟨64, 32, true⟩, ⟨96, 32, false⟩] := by
  obtain ⟨-, s, -, -, hs, hview⟩ := exists_of_attempt ⟨96, 1, 1024⟩ 1024
    [.tryAllocate 8, .tryAllocate 8]
    (fun s => s.heap.blocks.toOption.map fun blocks => (s.live, blocks))
    (a := ([⟨64⟩, ⟨32⟩], [⟨32, 32, true⟩, ⟨64, 32, true⟩, ⟨96, 32, false⟩])) (by decide +kernel)
  obtain ⟨blocks, hblocks, hview⟩ := Option.map_eq_some_iff.1 hview
  obtain ⟨hlive, rfl⟩ := Prod.mk.inj hview
  exact ⟨s, hs, hlive, eq_ok_of_toOption hblocks⟩

end Session

end BlockHeap
