import BlockHeap.Proofs.Demands
import BlockHeap.Proofs.Serving

/-!
# A replay under way

A replay starts in the hands of a program that may have live pointers already.  What it makes of the
heap is a session of that program too, with the pointers of the ledger in front of the older ones.
`Replay.Backed` says so, and that every payload in the books holds its pattern; between the call to
the heap and the entry in the ledger there may be one more pointer.  `Replay.Underway` adds that the
books are right and that the peak fits into the arena.

One operation keeps that up, or fails without having touched the heap: because the number of its
block was not as it should be, or because the heap refused (`Replay.Underway.apply`).  In particular
no pattern is ever found damaged.
-/

namespace BlockHeap

open Session

namespace Replay

variable {arena : Arena} {s : Session} {h h' : Heap} {ledger ledger' : Ledger} {M : Demand}
variable {live live' xs ys : List (Nat × LiveBlock)} {new new' old : Option Ptr} {p q : Ptr}
variable {block : LiveBlock} {id line count size : Nat} {op : Operation}

/-! ## Pointers -/

/-- The pointers in the books. -/
def pointers (live : List (Nat × LiveBlock)) : List Ptr := live.filterMap fun entry => entry.2.ptr

/-- All live pointers: the one that is not in the books yet, those in the books, and those that the
program had before. -/
def held (s : Session) (live : List (Nat × LiveBlock)) (new : Option Ptr) : List Ptr :=
  new.toList ++ (pointers live ++ s.live)

@[simp] lemma pointers_cons (id : Nat) (block : LiveBlock) (live : List (Nat × LiveBlock)) :
    pointers ((id, block) :: live) = block.ptr.toList ++ pointers live := by
  cases hptr : block.ptr <;> simp [pointers, hptr]

@[simp] lemma pointers_append (xs ys : List (Nat × LiveBlock)) :
    pointers (xs ++ ys) = pointers xs ++ pointers ys :=
  List.filterMap_append

lemma mem_held (hp : p ∈ pointers live ++ s.live) : p ∈ held s live new :=
  List.mem_append_right _ hp

lemma exchange_held_none : exchange (held s live none) none new = held s live new := by
  simp [exchange, held]

lemma held_of_ptr (hptr : block.ptr = some p) : held s (xs ++ (id, block) :: ys) none =
    pointers xs ++ p :: (pointers ys ++ s.live) := by
  simp [held, hptr]

lemma mem_held_of_ptr (hentry : (id, block) ∈ live) (hp : p ∈ block.ptr) : p ∈ held s live new :=
  mem_held (List.mem_append_left _ (List.mem_filterMap.2 ⟨(id, block), hentry, hp⟩))

lemma held_cons : held s ((id, block) :: live) none = held s live block.ptr := by
  simp [held]

lemma exchange_held_ptr (hnodup : (held s (xs ++ (id, block) :: ys) none).Nodup) :
    exchange (held s (xs ++ (id, block) :: ys) none) block.ptr new = held s (xs ++ ys) new := by
  cases hptr : block.ptr with
  | none => simp [exchange, held, hptr]
  | some p =>
    rw [held_of_ptr hptr] at hnodup ⊢
    rw [exchange, filter_ne_eq (hnodup.map (Option.some_injective Ptr)), held, pointers_append,
      List.append_assoc]

/-! ## The heap and the books -/

lemma agrees_front (hs : Reachable arena s) {f : Nat → UInt8} (hp : p ∈ s.live)
    (hstores : s.heap.Stores p size f) :
    (s.heap.payloadFront p size >>= fun span => pure (s.heap.agrees span f)) = .ok true := by
  rw [hs.payloadFront_eq hp hstores.room, Fault.ok_bind, hstores.agrees]
  rfl

lemma intact_eq (hs : Reachable arena s) {ptr : Option Ptr} (hlive : ∀ p ∈ ptr, p ∈ s.live)
    (hstores : ∀ p ∈ ptr, s.heap.Stores p size (patternByte id)) :
    intact s.heap id ptr size = .ok true := by
  cases ptr with
  | none => rfl
  | some p => exact agrees_front hs (hlive p rfl) (hstores p rfl)

lemma cleared_eq (hs : Reachable arena s) {ptr : Option Ptr} (hlive : ∀ p ∈ ptr, p ∈ s.live)
    (hstores : ∀ p ∈ ptr, s.heap.Stores p size fun _ => 0) :
    cleared s.heap ptr size = .ok true := by
  cases ptr with
  | none => rfl
  | some p => exact agrees_front hs (hlive p rfl) (hstores p rfl)

/-- The heap has what the books say of a block. -/
structure Stored (h : Heap) (id : Nat) (block : LiveBlock) : Prop where
  ptr_eq_none : block.ptr = none ↔ block.size = 0
  stores : ∀ p ∈ block.ptr, h.Stores p block.size (patternByte id)

lemma Stored.stores_min (hstored : Stored h id block) (hroom : h'.HasRoom q size)
    (hkeeps : ∀ p ∈ block.ptr, ∀ n f, h.Stores p n f → h'.Stores q (min n size) f) :
    h'.Stores q (min block.size size) (patternByte id) := by
  cases hptr : block.ptr with
  | none =>
    obtain ⟨n, hn, hle⟩ := hroom
    rw [hstored.ptr_eq_none.1 hptr, Nat.zero_min]
    exact ⟨⟨n, hn, Nat.zero_le n⟩, nofun⟩
  | some p => exact hkeeps p hptr _ _ (hstored.stores p hptr)

/-- **The heap backs the books.** -/
structure Backed (arena : Arena) (s : Session) (h : Heap) (live : List (Nat × LiveBlock))
    (new : Option Ptr) : Prop where
  reachable : Reachable arena ⟨h, held s live new⟩
  guests : ∀ p ∈ s.live, Unaffected s ⟨h, held s live new⟩ p
  stored : ∀ entry ∈ live, Stored h entry.1 entry.2

lemma sum_size_le (hstored : ∀ entry ∈ live, Stored h entry.1 entry.2) :
    (live.map fun entry => entry.2.size).sum ≤ ((pointers live).map h.capacity).sum := by
  induction live with
  | nil => exact Nat.le_refl _
  | cons entry rest ih =>
    obtain ⟨id, block⟩ := entry
    obtain ⟨⟨hnone, hstores⟩, hrest⟩ := List.forall_mem_cons.1 hstored
    have := ih hrest
    simp only [List.map_cons, List.sum_cons, pointers_cons, List.map_append, List.sum_append]
    cases hptr : block.ptr with
    | none =>
      have : block.size = 0 := hnone.1 hptr
      omega
    | some p =>
      have : block.size ≤ h.capacity p := (hstores p hptr).room.le_capacity
      simp only [Option.toList_some, List.map_cons, List.map_nil, List.sum_cons, List.sum_nil]
      omega

namespace Backed

lemma nodup (hb : Backed arena s h live new) : (held s live new).Nodup := by
  obtain ⟨blocks, free, hh⟩ := hb.reachable.holds
  exact hh.nodup

/-- The books stay backed after a call, as long as none of the pointers in them was handed over. -/
lemma advance (hb : Backed arena s h live new)
    (hadvance : Advance arena ⟨h, held s live new⟩ ⟨h', held s live' new'⟩ old)
    (hlive : ∀ entry ∈ live', entry ∈ live) (hold : ∀ p ∈ pointers live' ++ s.live, old ≠ some p) :
    Backed arena s h' live' new' where
  reachable := hadvance.reachable
  guests p hp :=
    have hp' : p ∈ pointers live' ++ s.live := List.mem_append_right _ hp
    (hb.guests p hp).trans (hadvance.kept p (hb.guests p hp).live (hold p hp'))
  stored entry hentry := by
    obtain ⟨hnone, hstores⟩ := hb.stored entry (hlive entry hentry)
    refine ⟨hnone, fun p hp => ?_⟩
    have hp' : p ∈ pointers live' := List.mem_filterMap.2 ⟨entry, hentry, hp⟩
    exact (hadvance.kept p (mem_held_of_ptr (hlive entry hentry) hp)
      (hold p (List.mem_append_left _ hp'))).stores (hstores p hp)

/-- A pointer is handed out. -/
lemma handOut (hb : Backed arena s h live none) (hadvance : Advance arena ⟨h, held s live none⟩
      ⟨h', exchange (held s live none) none new⟩ none) : Backed arena s h' live new := by
  rw [exchange_held_none] at hadvance
  exact hb.advance hadvance (fun _ hentry => hentry) fun _ _ => nofun

/-- The pointer of a block is handed over, and another one may be handed out. -/
lemma takeOut (hb : Backed arena s h live none) (hlive : live = xs ++ (id, block) :: ys)
    (hadvance : Advance arena ⟨h, held s live none⟩
      ⟨h', exchange (held s live none) block.ptr new⟩ block.ptr) :
    Backed arena s h' (xs ++ ys) new := by
  subst hlive
  have hnodup := hb.nodup
  rw [exchange_held_ptr hnodup] at hadvance
  refine hb.advance hadvance ?_ ?_
  · intro entry hentry
    rw [List.mem_append, List.mem_cons]
    exact (List.mem_append.1 hentry).imp_right .inr
  · intro p hp hptr
    rw [held_of_ptr hptr, List.nodup_middle, ← List.append_assoc, ← pointers_append] at hnodup
    exact (List.nodup_cons.1 hnodup).1 hp

/-- A block that was handed out and is filled can be booked. -/
lemma book (hb : Backed arena s h live block.ptr) (hstored : Stored h id block) :
    Backed arena s h ((id, block) :: live) none where
  reachable := held_cons (s := s) ▸ hb.reachable
  guests := held_cons (s := s) ▸ hb.guests
  stored := List.forall_mem_cons.2 ⟨hstored, hb.stored⟩

/-- **Filling.**  A block that was handed out can be filled, and then it can be booked. -/
lemma fill (hb : Backed arena s h live block.ptr) (id : Nat)
    (hnone : block.ptr = none ↔ block.size = 0) (hroom : ∀ p ∈ block.ptr, h.HasRoom p block.size) :
    ∃ h', Replay.fill h id block = .ok h' ∧ h.memory.size ≤ h'.memory.size ∧
      Backed arena s h' ((id, block) :: live) none := by
  cases hptr : block.ptr with
  | none =>
    refine ⟨h, by rw [Replay.fill, hptr]; rfl, Nat.le_refl _, hb.book ⟨hnone, ?_⟩⟩
    rw [hptr]
    nofun
  | some q =>
    have hq : q ∈ held s live block.ptr := by simp [held, hptr]
    obtain ⟨hadvance, hstores⟩ := hb.reachable.fill hq (hroom q hptr) (patternByte id)
    have hfresh : ∀ p ∈ pointers live ++ s.live, some q ≠ some p := by
      have hnodup := hb.nodup
      rw [held, hptr] at hnodup
      rintro p hp ⟨⟩
      exact (List.nodup_cons.1 hnodup).1 hp
    have hb' := hb.advance hadvance (fun _ hentry => hentry) hfresh
    refine ⟨_, ?_, hadvance.size_le, hb'.book ⟨hnone, ?_⟩⟩
    · rw [Replay.fill, hptr]
      simp only [hb.reachable.payloadFront_eq hq (hroom q hptr), Fault.ok_bind]
      rfl
    · rw [hptr]
      rintro p ⟨⟩
      exact hstores

lemma intact (hb : Backed arena s h live none) (hentry : (id, block) ∈ live) :
    Replay.intact h id block.ptr block.size = .ok true :=
  intact_eq hb.reachable (fun _ => mem_held_of_ptr hentry) (hb.stored (id, block) hentry).stores

/-- What the books say of sizes fits into the arena, with the sentinels and the tags of one
block. -/
lemma room (hb : Backed arena s h live none) :
    (live.map fun entry => entry.2.size).sum + 48 ≤ h.memory.size := by
  have hle : (live.map fun entry => entry.2.size).sum ≤
      ((pointers live ++ s.live).map h.capacity).sum := by
    rw [List.map_append, List.sum_append]
    exact Nat.le_add_right_of_le (sum_size_le hb.stored)
  have hoccupancy : ((pointers live ++ s.live).map h.capacity).sum + 48 ≤ h.memory.size :=
    hb.reachable.occupancy
  omega

lemma length_pointers (hb : Backed arena s h live new) :
    (pointers live).length = live.countP fun entry => entry.2.size ≠ 0 := by
  rw [pointers, List.length_filterMap_eq_countP]
  apply List.countP_congr
  intro entry hentry
  have hnone := (hb.stored entry hentry).ptr_eq_none
  rw [decide_eq_true_eq]
  exact Option.isSome_iff_ne_none.trans hnone.not

end Backed

/-! ## One operation -/

/-- **A replay under way.**  The heap backs the books, the books are right, and the most that was
ever asked for fits into the arena. -/
structure Underway (arena : Arena) (s : Session) (h : Heap) (ledger : Ledger) (M : Demand) :
    Prop where
  backed : Backed arena s h ledger.live none
  tallies : ledger.Tallies M
  room : ledger.peakPayload + 48 ≤ h.memory.size

/-- An operation was carried out, after which the demand is `M`. -/
structure Carried (arena : Arena) (s : Session) (ledger : Ledger) (M : Demand) (h' : Heap)
    (ledger' : Ledger) : Prop where
  underway : Underway arena s h' ledger' M
  peakPayload : ledger'.peakPayload = max ledger.peakPayload M.total
  ops : ledger'.ops = ledger.ops

/-- Of the ledger before an operation only the peak and the count matter to what it comes to. -/
lemma Carried.congr {ledger₁ : Ledger} (hc : Carried arena s ledger₁ M h' ledger')
    (hpeak : ledger₁.peakPayload = ledger.peakPayload) (hops : ledger₁.ops = ledger.ops) :
    Carried arena s ledger M h' ledger' :=
  ⟨hc.underway, hpeak ▸ hc.peakPayload, hops ▸ hc.ops⟩

/-- **Entering.**  A block that was handed out is filled and booked. -/
lemma Backed.enter (block : LiveBlock) (hb : Backed arena s h ledger.live block.ptr)
    (htallies : ledger.Tallies M) (hpeak : ledger.peakPayload + 48 ≤ h.memory.size) (hid : id ∉ M)
    (hnone : block.ptr = none ↔ block.size = 0) (hroom : ∀ p ∈ block.ptr, h.HasRoom p block.size) :
    ∃ h' ledger', enter h ledger id block = .ok (h', .ok ledger') ∧
      Carried arena s ledger (M.insert id block.size) h' ledger' := by
  obtain ⟨h', hfill, hsize, hb'⟩ := hb.fill id hnone hroom
  have htotal : Demand.total (M.insert id block.size) + 48 ≤ h'.memory.size := by
    have := hb'.room
    rw [List.map_cons, List.sum_cons, ← htallies.total_eq] at this
    rwa [Demand.total_insert hid]
  have hlt : Demand.total (M.insert id block.size) < Checked.bound := by
    obtain ⟨blocks, free, hh⟩ := hb'.reachable.holds
    have : h'.memory.size + 8 < Checked.bound := hh.sound.laid.size_lt
    omega
  obtain ⟨ledger', hinsert, hlive, hpeak', hops, htallies'⟩ := htallies.insert hid hlt
  refine ⟨h', ledger', ?_, ⟨hlive ▸ hb', htallies', ?_⟩, hpeak', hops⟩
  · simp only [Replay.enter, hfill, hinsert, Fault.ok_bind, Fault.pure_eq]
  · rw [hpeak']
    omega

/-- The ways in which an operation can end.  It is carried out; or it is allowed and the heap
refuses; or it is not allowed.  An operation that fails has left the heap alone. -/
inductive Applied (arena : Arena) (s : Session) (h : Heap) (ledger : Ledger) (M : Demand)
    (line : Nat) (op : Operation) : Heap → Except ReplayError Ledger → Prop where
  | carried {h' : Heap} {ledger' : Ledger} (hallowed : op.Allowed M)
      (hcarried : Carried arena s ledger (op.update M) h' ledger') :
      Applied arena s h ledger M line op h' (.ok ledger')
  | refused (hallowed : op.Allowed M) (error : ReplayError) (hrefusal : error.IsRefusal) :
      Applied arena s h ledger M line op h (.error error)
  | conflict (hnot : ¬ op.Allowed M) :
      Applied arena s h ledger M line op h (.error (op.conflict line))

namespace Underway

/-- What a request hands out for the books, unless it is refused. -/
lemma served? (hu : Underway arena s h ledger M) {result : Except HeapError Ptr}
    (hserved : Served arena ⟨h, held s ledger.live none⟩ none size h' result.toOption)
    (hzero : result = .error .zeroSize ↔ size = 0) :
    (∃ error, Replay.served? result = .error error ∧ h' = h) ∨
      ∃ ptr, Replay.served? result = .ok ptr ∧ Backed arena s h' ledger.live ptr ∧
        ledger.peakPayload + 48 ≤ h'.memory.size ∧ (ptr = none ↔ size = 0) ∧
        ∀ p ∈ ptr, result = .ok p ∧ h'.HasRoom p size := by
  cases result with
  | error error =>
    change Served _ _ _ _ _ none at hserved
    cases hserved
    by_cases hz : error = .zeroSize
    · obtain rfl := hz
      exact .inr ⟨none, rfl, hu.backed, hu.room, iff_of_true rfl (hzero.1 rfl), nofun⟩
    · refine .inl ⟨error, ?_, rfl⟩
      cases error <;> first | rfl | exact absurd rfl hz
  | ok q =>
    change Served _ _ _ _ _ (some q) at hserved
    cases hserved with
    | served q hadvance hroom =>
      refine .inr ⟨some q, rfl, hu.backed.handOut hadvance, hu.room.trans hadvance.size_le, ?_, ?_⟩
      · exact iff_of_false nofun fun hz => absurd (hzero.2 hz) nofun
      · rintro p ⟨⟩
        exact ⟨rfl, hroom⟩

lemma allocate (hu : Underway arena s h ledger M) (hid : id ∉ M) (line size : Nat) :
    ∃ h' result, (Replay.allocate h ledger line id size).outcome = .ok (h', result) ∧
      Applied arena s h ledger M line (.allocate id size) h' result := by
  obtain ⟨h₁, result, halloc, hserved, hzero⟩ := hu.backed.reachable.exists_tryAllocate size
  rcases hu.served? hserved hzero with ⟨error, herror, rfl⟩ | ⟨ptr, hptr, hb, hpeak, hnone, hroom⟩
  · have hallowed : (Operation.allocate id size).Allowed M := hid
    refine ⟨h₁, _, ?_, .refused hallowed (.allocate line id error) trivial⟩
    simp only [Replay.allocate, Traced.outcome_bind, halloc, Fault.ok_bind, herror,
      Traced.outcome_pure]
  · obtain ⟨h', ledger', henter, hcarried⟩ := Backed.enter ⟨ptr, size⟩ hb hu.tallies hpeak
      hid hnone fun p hp => (hroom p hp).2
    refine ⟨h', _, ?_, .carried hid hcarried⟩
    simp only [Replay.allocate, Traced.outcome_bind, halloc, Fault.ok_bind, hptr,
      Traced.outcome_liftM, henter]

/-- **Allocating zeros.**  They are found to be zeros. -/
lemma zeroedAllocate (hu : Underway arena s h ledger M) (hid : id ∉ M) (line count size : Nat) :
    ∃ h' result, (Replay.zeroedAllocate h ledger line id count size).outcome = .ok (h', result) ∧
      Applied arena s h ledger M line (.zeroedAllocate id count size) h' result := by
  obtain ⟨h₁, result, halloc, hserved, hzero, hzeros⟩ :=
    hu.backed.reachable.exists_tryZeroedAllocate count size
  rcases hu.served? hserved hzero with ⟨error, herror, rfl⟩ | ⟨ptr, hptr, hb, hpeak, hnone, hroom⟩
  · have hallowed : (Operation.zeroedAllocate id count size).Allowed M := hid
    refine ⟨h₁, _, ?_, .refused hallowed (.allocate line id error) trivial⟩
    simp only [Replay.zeroedAllocate, Traced.outcome_bind, halloc, Fault.ok_bind, herror,
      Traced.outcome_pure]
  · obtain ⟨h', ledger', henter, hcarried⟩ := Backed.enter ⟨ptr, count * size⟩ hb hu.tallies
      hpeak hid hnone fun p hp => (hroom p hp).2
    refine ⟨h', _, ?_, .carried hid hcarried⟩
    have hlt : count * size < Checked.bound := by
      cases ptr with
      | none => exact hnone.1 rfl ▸ by decide
      | some q => exact (hzeros q (hroom q rfl).1).1
    have hcleared : cleared h₁ ptr (count * size) = .ok true := by
      refine cleared_eq hb.reachable ?_ fun p hp => (hzeros p (hroom p hp).1).2
      rintro p ⟨⟩
      exact List.mem_append_left _ (List.mem_singleton_self p)
    simp only [Replay.zeroedAllocate, Traced.outcome_bind, halloc, Fault.ok_bind, hptr,
      Traced.outcome_liftM, Checked.mul, if_pos hlt, hcleared, if_true, henter]

/-- **Giving back.**  The pattern is found before the block is given back. -/
lemma release (hu : Underway arena s h ledger M) (hid : ledger.find? id = some block)
    (line : Nat) :
    ∃ h' result, (Replay.release h ledger line id block).outcome = .ok (h', result) ∧
      Applied arena s h ledger M line (.release id) h' result := by
  obtain ⟨ledger₁, xs, ys, hlive, hremove, hlive₁, hpeak, hops, htallies⟩ := hu.tallies.remove hid
  have hentry := Ledger.mem_of_find? hid
  obtain ⟨h', hrelease, hadvance⟩ :=
    hu.backed.reachable.exists_release fun _ => mem_held_of_ptr hentry
  have hb := hu.backed.takeOut hlive hadvance
  have hallowed : (Operation.release id).Allowed M :=
    Finmap.mem_of_lookup_eq_some (hu.tallies.lookup_eq hid)
  refine ⟨h', .ok ledger₁, ?_, .carried hallowed ⟨⟨hlive₁ ▸ hb, htallies, ?_⟩, ?_, hops⟩⟩
  · simp only [Replay.release, Traced.outcome_bind, Traced.outcome_liftM, hremove, Fault.ok_bind,
      hu.backed.intact hentry, if_true, hrelease, Traced.outcome_pure]
  · exact hpeak ▸ hu.room.trans hadvance.size_le
  · rw [hpeak]
    exact (max_eq_left (hpeak ▸ htallies.total_le)).symm

/-- **Entering anew.**  A block that was taken out of the books is filled and booked again, under
the same number with another pointer and size. -/
lemma reenter (hu : Underway arena s h ledger M) (hid : ledger.find? id = some block)
    (hremove : ledger.remove id block = .ok ledger')
    (hadvance : Advance arena ⟨h, held s ledger.live none⟩
      ⟨h', exchange (held s ledger.live none) block.ptr new⟩ block.ptr)
    (hnone : new = none ↔ size = 0) (hroom : ∀ p ∈ new, h'.HasRoom p size) :
    ∃ h'' ledger'', enter h' ledger' id ⟨new, size⟩ = .ok (h'', .ok ledger'') ∧
      Carried arena s ledger (M.insert id size) h'' ledger'' := by
  obtain ⟨ledger₁, xs, ys, hlive, hremove₁, hlive₁, hpeak, hops, htallies⟩ :=
    hu.tallies.remove hid
  obtain rfl := Except.ok.inj (hremove₁.symm.trans hremove)
  have hb := hu.backed.takeOut hlive hadvance
  obtain ⟨h'', ledger'', henter, hcarried⟩ := Backed.enter ⟨new, size⟩ (hlive₁ ▸ hb) htallies
    (hpeak ▸ hu.room.trans hadvance.size_le) Finmap.notMem_erase_self hnone hroom
  rw [Demand.erase_insert] at hcarried
  exact ⟨h'', ledger'', henter, hcarried.congr hpeak hops⟩

/-- **Resizing.**  The pattern is found before the block is resized and, as far as it fits, after
that. -/
lemma resize (hu : Underway arena s h ledger M) (hid : ledger.find? id = some block)
    (line size : Nat) :
    ∃ h' result, (Replay.resize h ledger line id size block).outcome = .ok (h', result) ∧
      Applied arena s h ledger M line (.resize id size) h' result := by
  obtain ⟨ledger₁, xs, ys, hlive, hremove, -⟩ := hu.tallies.remove hid
  have hentry := Ledger.mem_of_find? hid
  have hallowed : (Operation.resize id size).Allowed M :=
    Finmap.mem_of_lookup_eq_some (hu.tallies.lookup_eq hid)
  rcases Nat.eq_zero_or_pos size with rfl | hpos
  · -- the block is given back, and a block of no bytes takes its place in the books
    obtain ⟨h₁, hrelease, hadvance⟩ :=
      hu.backed.reachable.exists_release fun _ => mem_held_of_ptr hentry
    obtain ⟨h', ledger', henter, hcarried⟩ :=
      hu.reenter hid hremove hadvance (iff_of_true rfl rfl) (by simp)
    refine ⟨h', _, ?_, .carried hallowed hcarried⟩
    simp only [Replay.resize, Traced.outcome_bind, Traced.outcome_liftM, hremove, Fault.ok_bind,
      hu.backed.intact hentry, if_true, Heap.resize, hrelease, Traced.outcome_pure, henter]
  · obtain ⟨h₁, result, hresize, hserved, hkeeps⟩ :=
      hu.backed.reachable.exists_resize (fun _ => mem_held_of_ptr hentry) (Nat.ne_of_gt hpos)
    cases hserved with
    | refused =>
      refine ⟨h, _, ?_, .refused hallowed (.resize line id size) trivial⟩
      simp only [Replay.resize, Traced.outcome_bind, Traced.outcome_liftM, hremove, Fault.ok_bind,
        hu.backed.intact hentry, if_true, hresize, if_neg (Nat.ne_of_gt hpos), Option.isNone_none,
        Traced.outcome_pure]
    | served q hadvance hroom =>
      have hb₁ := hu.backed.takeOut hlive hadvance
      have hintact : Replay.intact h₁ id (some q) (min block.size size) = .ok true := by
        refine intact_eq hb₁.reachable ?_ ?_
        · rintro p ⟨⟩
          exact List.mem_append_left _ (List.mem_singleton_self q)
        · rintro p ⟨⟩
          exact (hu.backed.stored (id, block) hentry).stores_min hroom
            fun p hp => hkeeps p hp q rfl
      obtain ⟨h', ledger', henter, hcarried⟩ := hu.reenter hid hremove hadvance
        (iff_of_false (Option.some_ne_none q) (Nat.ne_of_gt hpos)) (by rintro p ⟨⟩; exact hroom)
      refine ⟨h', _, ?_, .carried hallowed hcarried⟩
      simp only [Replay.resize, Traced.outcome_bind, Traced.outcome_liftM, hremove, Fault.ok_bind,
        hu.backed.intact hentry, if_true, hresize, if_neg (Nat.ne_of_gt hpos), Option.isNone_some,
        Bool.false_eq_true, if_false, hintact, henter]

/-- An operation that is not allowed fails for that, and the heap is not asked. -/
lemma apply_of_not_allowed (hu : Underway arena s h ledger M) (line : Nat)
    (hnot : ¬ op.Allowed M) :
    (Replay.apply h ledger line op).outcome = .ok (h, .error (op.conflict line)) := by
  cases op with
  | allocate id size =>
    have hid : ledger.contains id = true := hu.tallies.mem_iff.1 (not_not.1 hnot)
    simp only [Replay.apply, hid, if_true, Traced.outcome_pure, Operation.conflict]
  | zeroedAllocate id count size =>
    have hid : ledger.contains id = true := hu.tallies.mem_iff.1 (not_not.1 hnot)
    simp only [Replay.apply, hid, if_true, Traced.outcome_pure, Operation.conflict]
  | release id =>
    have hid : ledger.find? id = none := hu.tallies.find?_eq_none hnot
    simp only [Replay.apply, hid, Traced.outcome_pure, Operation.conflict]
  | resize id size =>
    have hid : ledger.find? id = none := hu.tallies.find?_eq_none hnot
    simp only [Replay.apply, hid, Traced.outcome_pure, Operation.conflict]

/-- **One operation.**  It is carried out, or it fails in one of two ways, and a replay that goes on
is as well under way as before. -/
lemma apply (hu : Underway arena s h ledger M) (line : Nat) (op : Operation) :
    ∃ h' result, (Replay.apply h ledger line op).outcome = .ok (h', result) ∧
      Applied arena s h ledger M line op h' result := by
  by_cases hallowed : op.Allowed M
  · cases op with
    | allocate id size =>
      simp only [Replay.apply, if_neg (mt hu.tallies.mem_iff.2 hallowed)]
      exact hu.allocate hallowed line size
    | zeroedAllocate id count size =>
      simp only [Replay.apply, if_neg (mt hu.tallies.mem_iff.2 hallowed)]
      exact hu.zeroedAllocate hallowed line count size
    | release id =>
      obtain ⟨block, hid⟩ := hu.tallies.exists_find? hallowed
      simp only [Replay.apply, hid]
      exact hu.release hid line
    | resize id size =>
      obtain ⟨block, hid⟩ := hu.tallies.exists_find? hallowed
      simp only [Replay.apply, hid]
      exact hu.resize hid line size
  · exact ⟨h, _, hu.apply_of_not_allowed line hallowed, .conflict hallowed⟩

end Underway

end Replay

end BlockHeap
