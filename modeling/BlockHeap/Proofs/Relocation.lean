import BlockHeap.Proofs.Leftovers
import BlockHeap.Proofs.Rehearsals

/-!
# Heaps behind foreign bytes

A heap can be made on an arena that already holds bytes of somebody else.  Its frame then starts at
the next multiple of the quantum, `k` say, and all there is to know of it is that it is the heap on
an empty arena, `k` bytes further up.  `Session.Abreast` runs the two side by side, with the same
calls and the same payload writes, and `Session.Displaced` is what they have in common at every
point of such a run.

One thing does not move with the heap.  Links are absolute offsets, so what a block holds when it is
handed out, where a free one has been, may differ by `k` (`Session.stale_links_differ`).  This is
all there is: every byte of the arena in which nothing of a link may be left over, as
`Session.staleAfter` tells, is the same `k` bytes further up, in payloads and elsewhere.  But for
such leftovers the heap does not depend on where it stands (`Session.position_independent`).
-/

namespace BlockHeap

/-! ## Arenas -/

namespace Arena

/-- The second arena may hold `k` bytes more than the first, and there is as much more room for
it. -/
structure RoomAlike (k : Nat) (arena arena' : Arena) : Prop where
  limit_eq : arena'.limit = arena.limit + k
  limit_lt : arena.limit + k < reservable
  rooms : ∃ room room', arena.backing = .owned room ∧ arena'.backing = .owned room' ∧
    ∀ n ≤ arena.limit, n ≤ room ↔ n + k ≤ room'

/-- With `k` bytes more in the second one, such arenas can grow alike. -/
lemma RoomAlike.canGrow_iff {k : Nat} {arena arena' : Arena} (h : RoomAlike k arena arena')
    (hsize : arena'.size = arena.size + k) (hle : arena.size ≤ arena.limit) (n : Nat) :
    arena'.CanGrow n ↔ arena.CanGrow n := by
  obtain ⟨room, room', hbacking, hbacking', hrooms⟩ := h.rooms
  have hlt := h.limit_lt
  have hroom := hrooms (arena.size + n)
  rw [canGrow_owned hbacking, canGrow_owned hbacking', hsize, h.limit_eq]
  omega

lemma RoomAlike.congr {k : Nat} {arena arena' other other' : Arena} (h : RoomAlike k arena arena')
    (hlimit : other.limit = arena.limit) (hbacking : other.backing = arena.backing)
    (hlimit' : other'.limit = arena'.limit) (hbacking' : other'.backing = arena'.backing) :
    RoomAlike k other other' := by
  obtain ⟨heq, hlt, hrooms⟩ := h
  rw [← hlimit, ← hbacking, ← hbacking'] at hrooms
  exact ⟨by rw [hlimit', hlimit, heq], by rwa [hlimit], hrooms⟩

lemma supplied_of_memory (m : Memory) {limit room : Nat} (hlimit : m.size ≤ limit)
    (hlt : m.size < reservable) (hroom : m.size ≤ room) : Supplied ⟨m, limit, .owned room⟩ := by
  have hsize : (owned limit room).size = 0 := rfl
  have hgrow : (owned limit room).CanGrow m.size := by
    rw [canGrow_owned rfl, hsize, show (owned limit room).limit = limit from rfl]
    omega
  have hwritten := ((Supplied.owned limit room).grown
    (grow_of_canGrow (Nat.zero_le _) hgrow)).written 0 m.size m.byte
  have hm : ((owned limit room).extended m.size).memory.overwrite 0 m.size m.byte = m := by
    have hextended : ((owned limit room).extended m.size).memory.size = m.size :=
      (size_extended ..).trans (by rw [hsize, Nat.zero_add])
    refine Memory.eq_of_byte (by simpa using hextended) ?_
    intro pos hpos
    rw [Memory.size_overwrite, hextended] at hpos
    rw [Memory.byte_overwrite, if_pos (by omega), Nat.sub_zero]
  rwa [hm] at hwritten

end Arena

lemma Plan.fresh_shift (k base chunk limit : Nat) (backing backing' : Backing) (config : Config) :
    (fresh base chunk limit backing config).shift k backing' =
      fresh (base + k) chunk (limit + k) backing' config := by
  have hoffset : base + 32 + k = base + k + 32 := by omega
  have hsize : base + 32 + chunk + k = base + k + 32 + chunk := by omega
  have hblock : BlockInfo.shift k ⟨base + 32, chunk, false⟩ = ⟨base + k + 32, chunk, false⟩ := by
    rw [BlockInfo.shift, hoffset]
  have hfree : shiftLists k (fresh base chunk limit backing config).free =
      (fresh (base + k) chunk (limit + k) backing' config).free := by
    funext c
    simp only [fresh, shiftLists]
    split <;> simp [hblock]
  rw [shift, hfree]
  simp only [fresh, shiftAll_cons, shiftAll_nil, hblock, hsize]

lemma Memory.alikeBut_extend {m m' : Memory} {k n n' : Nat} {stale : Nat → Prop}
    (hempty : m.size = 0) (hle : m'.size ≤ k) (hn : m'.size + n' = n + k) :
    AlikeBut k stale (m.extend n) (m'.extend n') := by
  refine ⟨by rw [size_extend, size_extend, hempty, hn, Nat.zero_add], fun pos _ => ?_⟩
  rw [byte_extend, byte_extend, byte_of_size_le (by omega), byte_of_size_le (by omega)]

namespace Heap

lemma alike_framed {m m' : Memory} {k : Nat} (base : Nat) {stale : Nat → Prop}
    (ha : Memory.AlikeBut k stale m m') (hsize : base + 32 ≤ m.size) :
    Memory.AlikeBut k stale (framed m base) (framed m' (base + k)) := by
  have hpadded := ha.setWord 0 (show base + 8 ≤ m.size by omega)
  have hheader := hpadded.setWord (Tag.of 16 true).raw
    (show base + 16 - 8 + 8 ≤ _ by rw [Memory.size_setWord]; omega)
  have hfooter := hheader.setWord (Tag.of 16 true).raw
    (show base + 16 + 16 - 16 + 8 ≤ _ by rw [Memory.size_setWord, Memory.size_setWord]; omega)
  have hepilogue := hfooter.setWord (Tag.of 0 true).raw
    (show base + 32 - 8 + 8 ≤ _ by simp only [Memory.size_setWord]; omega)
  unfold framed Block.setTags
  have hend : base + k + 32 - 8 = base + 32 - 8 + k := by omega
  have hfront : base + k + 16 - 8 = base + 16 - 8 + k := by omega
  have hback : base + k + 16 + 16 - 16 = base + 16 + 16 - 16 + k := by omega
  rwa [hend, hfront, hback]

/-- The bytes of two new heaps are the same, except for links. -/
lemma Fresh.alikeBut {arena arena' : Arena} {config : Config} {h h' : Heap} {k : Nat}
    (hfresh : Fresh arena config h) (hfresh' : Fresh arena' config h') (hempty : arena.size = 0)
    (hk : LeastMultiple arena'.size k) : Memory.AlikeBut k h.HasLink h.memory h'.memory := by
  obtain ⟨h₀, hm₀, hst⟩ := hfresh.stamped
  obtain ⟨h₀', hm₀', hst'⟩ := hfresh'.stamped
  obtain ⟨free, hs⟩ := hfresh.sound
  have hle := hk.2.1
  have hbase : alignDown (arena.size + 7) = 0 := by
    rw [hempty]
    decide
  have hmin : 32 ≤ config.chunk := (hs.laid.valid _ List.mem_cons_self).2
  have hblock : (⟨h'.prologue + 16, config.chunk, false⟩ : BlockInfo) =
      BlockInfo.shift k ⟨h.prologue + 16, config.chunk, false⟩ := by
    rw [BlockInfo.shift, hfresh.prologue_eq, hfresh'.prologue_eq, hbase, ← hk.eq_alignDown]
    simp only [BlockInfo.mk.injEq, and_true]
    omega
  -- the frame is written into new space
  have hnew : Memory.AlikeBut k h.HasLink (arena.memory.extend arena.frameBytes)
      (arena'.memory.extend arena'.frameBytes) := by
    apply Memory.alikeBut_extend hempty hle
    rw [Arena.frameBytes, Arena.frameBytes, hbase, ← hk.eq_alignDown]
    unfold Arena.size at hempty hle ⊢
    omega
  have hroom : 0 + 32 ≤ (arena.memory.extend arena.frameBytes).size := by
    rw [Memory.size_extend, Arena.frameBytes]
    omega
  have hframed : Memory.AlikeBut k h.HasLink h₀.memory h₀'.memory := by
    have hframes := alike_framed 0 hnew hroom
    rw [Nat.zero_add] at hframes
    rwa [hm₀, hm₀', hbase, ← hk.eq_alignDown]
  rw [hblock] at hst'
  exact (hframed.stretched hmin).stamped (fun pos hpos => ⟨_, hs.blocks_eq, hpos⟩)
    (fun pos hpos => ⟨_, hs.blocks_eq, inFreeSlot_shift.1 hpos⟩) hst hst'

section

variable {m : Memory} {k limit room room' : Nat} {config : Config} (hk : LeastMultiple m.size k)
variable (hlimit : limit + k < Arena.reservable) (hroom : ∀ n ≤ limit, n ≤ room ↔ n + k ≤ room')

include hk

lemma frameBytes_behind :
    (Arena.mk m (limit + k) (.owned room')).frameBytes = k - m.size + 32 := by
  rw [Arena.frameBytes, show (Arena.mk m (limit + k) (.owned room')).size = m.size from rfl,
    ← hk.eq_alignDown]

include hlimit hroom

/-- A heap fits behind the foreign bytes exactly if it fits into the empty arena. -/
lemma fits_behind :
    Fits ⟨m, limit + k, .owned room'⟩ config ↔ Fits (.owned limit room) config := by
  have hframe := Arena.frameBytes_owned limit room
  have hle := hk.2.1
  have hframed := hroom 32
  have hchunked := hroom (32 + config.chunk)
  unfold Fits
  rw [frameBytes_behind hk, hframe, Arena.canGrow_owned rfl, Arena.canGrow_owned rfl,
    Arena.canGrow_owned rfl, Arena.canGrow_owned rfl, Arena.size_extended, Arena.size_extended]
  change (k - m.size + 32 ≤ limit + k - m.size ∧ m.size + (k - m.size + 32) < Arena.reservable ∧
      m.size + (k - m.size + 32) ≤ room') ∧
    config.chunk ≤ limit + k - (m.size + (k - m.size + 32)) ∧
      m.size + (k - m.size + 32) + config.chunk < Arena.reservable ∧
      m.size + (k - m.size + 32) + config.chunk ≤ room' ↔
    (32 ≤ limit - 0 ∧ 0 + 32 < Arena.reservable ∧ 0 + 32 ≤ room) ∧
      config.chunk ≤ limit - (0 + 32) ∧ 0 + 32 + config.chunk < Arena.reservable ∧
      0 + 32 + config.chunk ≤ room
  omega

end

/-- Writing `f lo`, `f (lo + 1)`, …, up to `hi`, into a payload, and the other bytes as they are. -/
def patch (h : Heap) (p : Ptr) (lo hi : Nat) (f : Nat → UInt8) : Call :=
  .write p fun i => if lo ≤ i ∧ i < hi then f i else h.memory.byte (p.offset + i)

end Heap

namespace Session

/-! ## Two heaps side by side -/

/-- The same calls and payload writes were made on two new heaps, with pointers that are `k` bytes
larger on the second one, and `stale` tells where something of a link may stand. -/
inductive Abreast (k : Nat) (h h' : Heap) : (stale : Nat → Prop) → Session → Session → Prop where
  | start : Abreast k h h' h.HasLink ⟨h, []⟩ ⟨h', []⟩
  | call {stale : Nat → Prop} {s s' t t' : Session} {call : Call} {answer answer' : Answer}
      (habreast : Abreast k h h' stale s s') (hpermit : s.Permits call)
      (hperform : s.perform call = .ok (t, answer))
      (hperform' : s'.perform (call.shift k) = .ok (t', answer')) :
      Abreast k h h' (s.staleAfter t stale call answer) t t'
  | patch {stale : Nat → Prop} {s s' t t' : Session} {p : Ptr} {lo hi : Nat}
      {f : Nat → UInt8} {answer answer' : Answer} (habreast : Abreast k h h' stale s s')
      (hp : p ∈ s.live) (hperform : s.perform (s.heap.patch p lo hi f) = .ok (t, answer))
      (hperform' : s'.perform (s'.heap.patch (p.shift k) lo hi f) = .ok (t', answer')) :
      Abreast k h h' (s.stalePatched stale p lo hi) t t'

/-- What a heap behind the bytes of `m`, in the session `s'`, has in common with the heap on an
empty arena, in the session `s`.  Pointers, blocks, free lists and bytes are the same, `k` bytes
further up, but for bytes that are stale; the bytes in front are those that the arena held; and
every call that may be made on one heap may be made on the other, and comes to the same. -/
structure Displaced (k : Nat) (m : Memory) (stale : Nat → Prop) (s s' : Session) : Prop where
  live : s'.live = s.live.map (·.shift k)
  intact : ∃ blocks queues, s.heap.Intact blocks queues ∧
    s'.heap.Intact (shiftAll k blocks) fun c => (queues c).map (· + k)
  size : s'.heap.memory.size = s.heap.memory.size + k
  bytes : ∀ pos, ¬ stale pos → s'.heap.memory.byte (pos + k) = s.heap.memory.byte pos
  front : ∀ pos < m.size, s'.heap.memory.byte pos = m.byte pos
  perform : ∀ call, s.Permits call → s'.Permits (call.shift k) ∧
    ∃ t t' answer, s.perform call = .ok (t, answer) ∧
      s'.perform (call.shift k) = .ok (t', Answer.shift k answer)
  patch : ∀ p ∈ s.live, ∀ lo hi f, p.shift k ∈ s'.live ∧
    ∃ t t', s.perform (s.heap.patch p lo hi f) = .ok (t, .ok none) ∧
      s'.perform (s'.heap.patch (p.shift k) lo hi f) = .ok (t', .ok none)

/-- The heap of the second session follows the plan of the first, `k` bytes further up, and they can
grow alike. -/
structure InStep (arena arena' : Arena) (k : Nat) (P : Plan) (s s' : Session) : Prop where
  reachable : Reachable arena s
  reachable' : Reachable arena' s'
  live : s'.live = s.live.map (·.shift k)
  follows : s.heap.Follows P
  follows' : s'.heap.Follows (P.shift k s'.heap.arena.backing)
  rooms : Arena.RoomAlike k s.heap.arena s'.heap.arena

end Session

/-- A call and the same call further up.  What is written may be anything. -/
inductive Call.Matches (k : Nat) : Call → Call → Prop where
  | shifted (call : Call) : Matches k call (call.shift k)
  | written (p : Ptr) (f f' : Nat → UInt8) : Matches k (.write p f) (.write (p.shift k) f')

namespace Session

lemma exchange_shift (k : Nat) (live : List Ptr) (old new : Option Ptr) :
    exchange (live.map (·.shift k)) (old.map (·.shift k)) (new.map (·.shift k)) =
      (exchange live old new).map (·.shift k) := by
  have hne (p : Ptr) : some (p.shift k) = old.map (·.shift k) ↔ some p = old := by
    cases old with
    | none => simp
    | some q => simp [(Ptr.shift_injective k).eq_iff]
  have hfilter : (live.map (·.shift k)).filter (some · ≠ old.map (·.shift k)) =
      (live.filter (some · ≠ old)).map (·.shift k) := by
    rw [List.filter_map]
    simp only [Function.comp_def, ne_eq, hne]
  unfold exchange
  rw [hfilter, List.map_append]
  cases new <;> rfl

lemma toOption_shift (k : Nat) (answer : Answer) :
    (answer.shift k).toOption.join = answer.toOption.join.map (·.shift k) := by
  cases answer <;> rfl

end Session

namespace Call.Matches

variable {k : Nat} {call call' : Call}

lemma pointer?_eq (h : Matches k call call') : call'.pointer? = call.pointer?.map (·.shift k) := by
  cases h with
  | shifted call => cases call <;> rfl
  | written p f f' => rfl

lemma liveAfter_eq (h : Matches k call call') (live : List Ptr) (answer : Answer) :
    Session.liveAfter (live.map (·.shift k)) call' (answer.shift k) =
      (Session.liveAfter live call answer).map (·.shift k) := by
  cases h with
  | written p f f' => rfl
  | shifted call =>
    cases call with
    | tryAllocate size | allocate size =>
      simp only [Call.shift, Session.liveAfter, Session.toOption_shift]
      exact Session.exchange_shift k live none _
    | tryZeroedAllocate count size | zeroedAllocate count size =>
      simp only [Call.shift, Session.liveAfter, Session.toOption_shift]
      exact Session.exchange_shift k live none _
    | release ptr => exact Session.exchange_shift k live ptr none
    | resize ptr size =>
      simp only [Call.shift, Session.liveAfter, Session.toOption_shift, Option.isSome_map]
      split
      · exact Session.exchange_shift k live ptr _
      · rfl
    | write p f => rfl

/-- On plans they come to the same, further up. -/
lemma perform_eq {P : Plan} {backing : Backing} (h : Matches k call call')
    (hgrow : ∀ n, (P.shift k backing).canGrow n = P.canGrow n) :
    (P.shift k backing).perform call' =
      ((P.perform call).1.shift k backing, (P.perform call).2.shift k) := by
  cases h with
  | shifted call => exact Plan.perform_shift hgrow call
  | written p f f' => rfl

end Call.Matches

namespace Session

variable {arena arena' : Arena} {k : Nat} {P : Plan} {s s' t t' : Session} {call call' : Call}
variable {stale : Nat → Prop} {answer answer' : Answer} {p : Ptr}

lemma permits_of_mem (hcall : call.pointer? = some p) (hp : p ∈ s.live) : s.Permits call := by
  intro q hq
  rw [hcall] at hq
  exact Option.some.inj hq ▸ hp

lemma Holds.block_of_follows {blocks : List BlockInfo} {free : SizeClass → List BlockInfo}
    (hh : Holds arena s blocks free) (hf : s.heap.Follows P) (hp : p ∈ s.live) :
    ∃ b ∈ P.blocks, b.allocated = true ∧ p = b.ptr := by
  have hpermit : s.Permits (.release (some p)) := permits_of_mem rfl hp
  exact hh.pointer_of_follows hf hpermit p rfl

/-- No call changes how far the arena may grow, or where its bytes come from. -/
lemma Holds.terms_of_perform {blocks : List BlockInfo} {free : SizeClass → List BlockInfo}
    (hh : Holds arena s blocks free) (hpermit : s.Permits call)
    (hperform : s.perform call = .ok (t, answer)) :
    t.heap.arena.limit = s.heap.arena.limit ∧ t.heap.arena.backing = s.heap.arena.backing := by
  obtain ⟨_, _, _, _, _, _, hperform', -, hturn⟩ := hh.perform hpermit
  obtain ⟨rfl, rfl⟩ := Prod.mk.inj (Except.ok.inj (hperform'.symm.trans hperform))
  exact ⟨hturn.limit, hturn.backing⟩

namespace InStep

lemma canGrow_eq (h : InStep arena arena' k P s s') (n : Nat) :
    (P.shift k s'.heap.arena.backing).canGrow n = P.canGrow n := by
  rw [Bool.eq_iff_iff, h.follows.canGrow_iff, h.follows'.canGrow_iff]
  refine h.rooms.canGrow_iff ?_ h.follows.arena.size_le n
  exact h.follows'.size_eq.trans (congrArg (· + k) h.follows.size_eq.symm)

/-- **One call.**  It may be made on both heaps, comes to the same, and keeps them in step. -/
lemma perform (h : InStep arena arena' k P s s') (hmatch : call.Matches k call')
    (hpermit : s.Permits call) :
    s'.Permits call' ∧ ∃ t t', s.perform call = .ok (t, (P.perform call).2) ∧
      s'.perform call' = .ok (t', (P.perform call).2.shift k) ∧
      InStep arena arena' k (P.perform call).1 t t' := by
  have hpermit' : s'.Permits call' := by
    intro p hp
    rw [hmatch.pointer?_eq] at hp
    obtain ⟨q, hq, rfl⟩ := Option.map_eq_some_iff.1 hp
    rw [h.live]
    exact List.mem_map_of_mem (hpermit q hq)
  obtain ⟨_, _, hh⟩ := h.reachable.holds
  obtain ⟨_, _, hh'⟩ := h.reachable'.holds
  obtain ⟨t, hperform, hfollows⟩ := h.follows.perform (hh.pointer_of_follows h.follows hpermit)
  obtain ⟨t', hperform', hfollows'⟩ :=
    h.follows'.perform (hh'.pointer_of_follows h.follows' hpermit')
  rw [hmatch.perform_eq h.canGrow_eq] at hperform' hfollows'
  obtain ⟨hlimit, hbacking⟩ := hh.terms_of_perform hpermit hperform
  obtain ⟨hlimit', hbacking'⟩ := hh'.terms_of_perform hpermit' hperform'
  refine ⟨hpermit', t, t', hperform, hperform', ?_⟩
  exact {
    reachable := h.reachable.step hpermit hperform
    reachable' := h.reachable'.step hpermit' hperform'
    live := by
      rw [live_of_perform hperform, live_of_perform hperform', h.live, hmatch.liveAfter_eq]
    follows := hfollows
    follows' := hbacking' ▸ hfollows'
    rooms := h.rooms.congr hlimit hbacking hlimit' hbacking' }

lemma displaced (h : InStep arena arena' k P s s')
    (ha : Memory.AlikeBut k stale s.heap.memory s'.heap.memory) :
    Displaced k arena'.memory stale s s' where
  live := h.live
  intact := by
    refine ⟨P.blocks, _, h.follows.toSound.intact, ?_⟩
    have hqueues : (fun c => ((P.free c).map BlockInfo.offset).map (· + k)) =
        fun c => (shiftLists k P.free c).map BlockInfo.offset := by
      funext c
      simp only [shiftLists, shiftAll, List.map_map]
      rfl
    rw [hqueues]
    exact h.follows'.toSound.intact
  size := ha.size
  bytes := ha.byte
  front := by
    obtain ⟨_, _, hh'⟩ := h.reachable'.holds
    exact hh'.foreign
  perform call hpermit := by
    obtain ⟨hpermit', t, t', hperform, hperform', -⟩ := h.perform (.shifted call) hpermit
    exact ⟨hpermit', t, t', _, hperform, hperform'⟩
  patch p hp lo hi f := by
    obtain ⟨hpermit', t, t', hperform, hperform', -⟩ :=
      h.perform (.written p _ _) (permits_of_mem rfl hp)
    exact ⟨hpermit' _ rfl, t, t', hperform, hperform'⟩

/-! ### Bytes -/

/-- After the same call all bytes but stale ones are the same, and links are stale. -/
lemma alike_call (h : InStep arena arena' k P s s')
    (ha : Memory.AlikeBut k stale s.heap.memory s'.heap.memory)
    (hlinks : ∀ pos, InFreeSlot P.blocks pos → stale pos) (hpermit : s.Permits call)
    (h' : InStep arena arena' k (P.perform call).1 t t')
    (hperform : s.perform call = .ok (t, answer))
    (hperform' : s'.perform (call.shift k) = .ok (t', answer')) :
    Memory.AlikeBut k (s.staleAfter t stale call answer) t.heap.memory t'.heap.memory ∧
      ∀ pos, InFreeSlot (P.perform call).1.blocks pos →
        s.staleAfter t stale call answer pos := by
  obtain ⟨_, _, hh⟩ := h.reachable.holds
  obtain ⟨_, _, hh'⟩ := h.reachable'.holds
  obtain ⟨_, _, ht⟩ := h'.reachable.holds
  obtain ⟨hpermit', -⟩ := h.perform (.shifted call) hpermit
  have hbacking := (hh'.terms_of_perform hpermit' hperform').2
  exact h.follows.alike_staleAfter h.follows' ha h.canGrow_eq hlinks
    (hh.pointer_of_follows h.follows hpermit) hperform hperform' h'.follows
    (hbacking ▸ h'.follows') ht.nodup fun p hp => ht.block_of_follows h'.follows hp

/-- After the same bytes were written all bytes but stale ones are the same, and links are stale. -/
lemma alike_patch (h : InStep arena arena' k P s s')
    (ha : Memory.AlikeBut k stale s.heap.memory s'.heap.memory)
    (hlinks : ∀ pos, InFreeSlot P.blocks pos → stale pos) {lo hi : Nat} {f : Nat → UInt8}
    (hp : p ∈ s.live) (hperform : s.perform (s.heap.patch p lo hi f) = .ok (t, answer))
    (hperform' : s'.perform (s'.heap.patch (p.shift k) lo hi f) = .ok (t', answer')) :
    Memory.AlikeBut k (s.stalePatched stale p lo hi) t.heap.memory t'.heap.memory ∧
      ∀ pos, InFreeSlot P.blocks pos → s.stalePatched stale p lo hi pos := by
  obtain ⟨_, _, hh⟩ := h.reachable.holds
  obtain ⟨b, hb, hall, rfl⟩ := hh.block_of_follows h.follows hp
  have hb' : b.shift k ∈ (P.shift k s'.heap.arena.backing).blocks := List.mem_map_of_mem hb
  have hpayload : s.heap.payload b.ptr = .ok ⟨b.offset, b.size - 16⟩ := h.follows.payload_eq hb
  have hpayload' : s'.heap.payload (b.ptr.shift k) = .ok ⟨b.offset + k, b.size - 16⟩ :=
    h.follows'.payload_eq hb'
  simp only [Heap.patch, Session.perform, hpayload, hpayload', Fault.ok_bind] at hperform hperform'
  obtain ⟨rfl, -⟩ := Prod.mk.inj (Except.ok.inj hperform)
  obtain ⟨rfl, -⟩ := Prod.mk.inj (Except.ok.inj hperform')
  refine ⟨h.follows.alike_write ha hb (fun i hi hfresh => ?_) fun pos hout hstale => ?_,
    fun pos hpos => ⟨hlinks pos hpos, fun hin => h.follows.not_inPayload hb hall hpos hin.1⟩⟩
  · split
    · rfl
    · next hout =>
      -- the other bytes are written as they were
      have hold : ¬ stale (b.offset + i) := fun hstale =>
        hfresh ⟨hstale, fun hin => hout ⟨Nat.le_of_add_le_add_left hin.2.1,
          Nat.lt_of_add_lt_add_left hin.2.2⟩⟩
      show s'.heap.memory.byte (b.offset + k + i) = s.heap.memory.byte (b.offset + i)
      rw [Nat.add_right_comm]
      exact ha.byte _ hold
  · exact ⟨hstale, fun hin => hout ((h.follows.inPayload_iff hb).1 hin.1)⟩

end InStep

/-- **Runs.**  Heaps that are in step when they are made are in step ever after, and all bytes but
stale ones are the same. -/
lemma Abreast.inStep {h h' : Heap} (hstart : InStep arena arena' k P ⟨h, []⟩ ⟨h', []⟩)
    (ha : Memory.AlikeBut k h.HasLink h.memory h'.memory) (habreast : Abreast k h h' stale s s') :
    ∃ P', InStep arena arena' k P' s s' ∧
      Memory.AlikeBut k stale s.heap.memory s'.heap.memory ∧
      ∀ pos, InFreeSlot P'.blocks pos → stale pos := by
  induction habreast with
  | start => exact ⟨P, hstart, ha, fun pos => hstart.follows.hasLink_iff.2⟩
  | call _ hpermit hperform hperform' ih =>
    obtain ⟨P', hin, ha, hlinks⟩ := ih
    obtain ⟨-, t, t', ht, ht', hin'⟩ := hin.perform (.shifted _) hpermit
    obtain ⟨rfl, rfl⟩ := Prod.mk.inj (Except.ok.inj (ht.symm.trans hperform))
    obtain ⟨rfl, rfl⟩ := Prod.mk.inj (Except.ok.inj (ht'.symm.trans hperform'))
    exact ⟨_, hin', hin.alike_call ha hlinks hpermit hin' hperform hperform'⟩
  | patch _ hp hperform hperform' ih =>
    obtain ⟨P', hin, ha, hlinks⟩ := ih
    obtain ⟨-, t, t', ht, ht', hin'⟩ :=
      hin.perform (.written _ _ _) (permits_of_mem rfl hp)
    obtain ⟨rfl, rfl⟩ := Prod.mk.inj (Except.ok.inj (ht.symm.trans hperform))
    obtain ⟨rfl, rfl⟩ := Prod.mk.inj (Except.ok.inj (ht'.symm.trans hperform'))
    exact ⟨P', hin', hin.alike_patch ha hlinks hp hperform hperform'⟩

/-- **The heap does not depend on where it stands.**  Take an arena that holds any bytes of somebody
else, `k` the next multiple of the quantum, and an empty one whose limit and room are `k` bytes
less.  Either no heap can be made on both, or heaps are made on both, and then, whatever calls and
payload writes are made on both alike, every call comes to the same, pointers being `k` bytes larger
behind the foreign bytes.  Blocks, free lists and all bytes but stale ones are the same, `k` bytes
further up, and the foreign bytes stay. -/
theorem position_independent (m : Memory) (k limit room room' : Nat) (config : Config)
    (hk : LeastMultiple m.size k) (hlimit : limit + k < Arena.reservable)
    (hroom : ∀ n ≤ limit, n ≤ room ↔ n + k ≤ room') :
    (∃ error error',
      (Heap.withArena (.owned limit room) config).outcome = .ok (.error error) ∧
      (Heap.withArena ⟨m, limit + k, .owned room'⟩ config).outcome = .ok (.error error')) ∨
    ∃ h h', (Heap.withArena (.owned limit room) config).outcome = .ok (.ok h) ∧
      (Heap.withArena ⟨m, limit + k, .owned room'⟩ config).outcome = .ok (.ok h') ∧
      ∀ stale s s', Abreast k h h' stale s s' → Displaced k m stale s s' := by
  have hsize : m.size ≤ k := hk.2.1
  have hroom₀ := hroom 0 (Nat.zero_le _)
  have harena : (Arena.owned limit room).Supplied := .owned limit room
  have harena' : (Arena.mk m (limit + k) (.owned room')).Supplied :=
    Arena.supplied_of_memory m (by omega) (by omega) (by omega)
  cases hvalid : config.validate with
  | error error =>
    refine .inl ⟨.config error, .config error, ?_, ?_⟩ <;>
      simp only [Heap.withArena, hvalid] <;> rfl
  | ok _ =>
    by_cases hfits : Heap.Fits (.owned limit room) config
    · have hfits' := (Heap.fits_behind hk hlimit hroom).2 hfits
      obtain ⟨h, hmake, hfresh⟩ := Heap.withArena_of_fits harena.sound hvalid hfits
      obtain ⟨h', hmake', hfresh'⟩ := Heap.withArena_of_fits harena'.sound hvalid hfits'
      have hfollows := hfresh.follows (show alignDown (0 + 7) = 0 by decide)
      have hstart :
          InStep (.owned limit room) ⟨m, limit + k, .owned room'⟩ k _ ⟨h, []⟩ ⟨h', []⟩ := {
        reachable := .made (.withArena config harena hmake)
        reachable' := .made (.withArena config harena' hmake')
        live := rfl
        follows := hfollows
        follows' := by
          rw [Plan.fresh_shift, Nat.zero_add, hfresh'.backing_eq]
          exact hfresh'.follows hk.eq_alignDown.symm
        rooms := by
          refine Arena.RoomAlike.congr ⟨rfl, hlimit, room, room', rfl, rfl, hroom⟩
            hfresh.limit_eq hfresh.backing_eq hfresh'.limit_eq hfresh'.backing_eq }
      have ha := hfresh.alikeBut hfresh' rfl hk
      refine .inr ⟨h, h', hmake, hmake', fun stale s s' habreast => ?_⟩
      obtain ⟨P', hin, ha, -⟩ := habreast.inStep hstart ha
      exact hin.displaced ha
    · have hfits' := mt (Heap.fits_behind hk hlimit hroom).1 hfits
      obtain ⟨error, hmake⟩ := Heap.withArena_of_not_fits harena.sound hvalid hfits
      obtain ⟨error', hmake'⟩ := Heap.withArena_of_not_fits harena'.sound hvalid hfits'
      exact .inl ⟨_, _, hmake, hmake'⟩

/-- Three foreign bytes move a heap by eight. -/
theorem position_independent_of_three_bytes :
    ∃ h h', (Heap.withArena (.owned 128 128) ⟨96, 1, 128⟩).outcome = .ok (.ok h) ∧
      (Heap.withArena ⟨Memory.empty.extend 3, 136, .owned 136⟩ ⟨96, 1, 128⟩).outcome =
        .ok (.ok h') ∧
      ∀ stale s s', Abreast 8 h h' stale s s' →
        Displaced 8 (Memory.empty.extend 3) stale s s' := by
  have hsize : (Memory.empty.extend 3).size = 3 := by decide
  have hk : LeastMultiple (Memory.empty.extend 3).size 8 := by
    rw [hsize]
    exact ⟨by decide, by decide, fun k _ _ => by omega⟩
  rcases position_independent (Memory.empty.extend 3) 8 128 128 136 ⟨96, 1, 128⟩ hk (by decide)
    (fun n _ => by omega) with ⟨error, error', hmake, -⟩ | hmade
  · have hmade : ((Heap.withArena (.owned 128 128) ⟨96, 1, 128⟩).outcome.toOption.bind
        Except.toOption).isSome = true := by decide +kernel
    rw [hmake] at hmade
    cases hmade
  · exact hmade

/-- What a computation shows of the session that permitted calls on a new heap lead to. -/
lemma exists_of_view {α : Type} {a : α} (arena : Arena) (config : Config) (calls : List Call)
    (view : Session → α)
    (hview : ((Heap.withArena arena config).outcome.toOption.bind Except.toOption).bind
      (fun h => (attempt ⟨h, []⟩ calls).map view) = some a) :
    ∃ h s, (Heap.withArena arena config).outcome = .ok (.ok h) ∧ attempt ⟨h, []⟩ calls = some s ∧
      view s = a := by
  obtain ⟨h, hheap, hsession⟩ := Option.bind_eq_some_iff.1 hview
  obtain ⟨result, hresult, hheap⟩ := Option.bind_eq_some_iff.1 hheap
  obtain ⟨s, hattempt, hs⟩ := Option.map_eq_some_iff.1 hsession
  exact ⟨h, s, by rw [eq_ok_of_toOption hresult, eq_ok_of_toOption hheap], hattempt, hs⟩

/-- Three blocks are handed out, the first and the last are given back, and one is asked for again.
It is the last one, and its first byte is the lowest byte of a link to the first one. -/
theorem stale_links_differ :
    ∃ h h' s s', (Heap.withArena (.owned 1024 1024) ⟨96, 1, 1024⟩).outcome = .ok (.ok h) ∧
      (Heap.withArena ⟨Memory.empty.extend 8, 1032, .owned 1032⟩ ⟨96, 1, 1024⟩).outcome =
        .ok (.ok h') ∧
      attempt ⟨h, []⟩ [.allocate 8, .allocate 8, .allocate 8, .release (some ⟨32⟩),
        .release (some ⟨96⟩), .allocate 8] = some s ∧
      attempt ⟨h', []⟩ [.allocate 8, .allocate 8, .allocate 8, .release (some ⟨40⟩),
        .release (some ⟨104⟩), .allocate 8] = some s' ∧
      (s.live, s.heap.capacity ⟨96⟩, s.heap.memory.byte 96) = ([⟨96⟩, ⟨64⟩], 16, 32) ∧
      (s'.live, s'.heap.capacity ⟨104⟩, s'.heap.memory.byte 104) = ([⟨104⟩, ⟨72⟩], 16, 40) := by
  obtain ⟨h, s, hmake, hattempt, hview⟩ := exists_of_view (.owned 1024 1024) ⟨96, 1, 1024⟩
    [.allocate 8, .allocate 8, .allocate 8, .release (some ⟨32⟩), .release (some ⟨96⟩), .allocate 8]
    (fun s => (s.live, s.heap.capacity ⟨96⟩, s.heap.memory.byte 96))
    (a := ([⟨96⟩, ⟨64⟩], 16, 32)) (by decide +kernel)
  obtain ⟨h', s', hmake', hattempt', hview'⟩ :=
    exists_of_view ⟨Memory.empty.extend 8, 1032, .owned 1032⟩ ⟨96, 1, 1024⟩
      [.allocate 8, .allocate 8, .allocate 8, .release (some ⟨40⟩), .release (some ⟨104⟩),
        .allocate 8]
      (fun s => (s.live, s.heap.capacity ⟨104⟩, s.heap.memory.byte 104))
      (a := ([⟨104⟩, ⟨72⟩], 16, 40)) (by decide +kernel)
  exact ⟨h, h', s, s', hmake, hmake', hattempt, hattempt', hview, hview'⟩

end Session

end BlockHeap
