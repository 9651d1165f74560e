import BlockHeap.Proofs.Plans

/-!
# Plans further up in an arena

A plan that stands so many bytes further up has every block at an offset that is larger by as much,
the blocks of a list in the same order, and an arena with as many more bytes and a limit that is
larger by as much (`Plan.shift`).  Nothing that an allocator decides depends on where a block
stands: sizes and order settle which block is taken, which ones are joined and what is split off.
So every operation on plans commutes with shifting, and so do calls, if the pointers in them and in
their answers are shifted too (`Plan.perform_shift`).

Shifting is injective, and it keeps sizes and tags.  That is all the lemmas on lists of blocks use.
-/

namespace BlockHeap

/-! ## Blocks and lists of blocks -/

namespace BlockInfo

/-- The block so many bytes further up. -/
def shift (k : Nat) (b : BlockInfo) : BlockInfo := ⟨b.offset + k, b.size, b.allocated⟩

variable (k n : Nat) (b b' : BlockInfo)

@[simp] lemma offset_shift : (b.shift k).offset = b.offset + k := rfl

@[simp] lemma size_shift : (b.shift k).size = b.size := rfl

@[simp] lemma allocated_shift : (b.shift k).allocated = b.allocated := rfl

lemma shift_injective : Function.Injective (shift k) := by
  rintro ⟨offset, size, allocated⟩ ⟨offset', size', allocated'⟩ h
  obtain ⟨hoffset, rfl, rfl⟩ := BlockInfo.mk.inj h
  obtain rfl : offset = offset' := Nat.add_right_cancel hoffset
  rfl

@[simp] lemma shift_inj : b.shift k = b'.shift k ↔ b = b' := (shift_injective k).eq_iff

@[simp] lemma front_shift : (b.shift k).front n = (b.front n).shift k := rfl

@[simp] lemma back_shift : (b.shift k).back n = (b.back n).shift k := by
  simp [back, shift, Nat.add_right_comm]

@[simp] lemma freed_shift : (b.shift k).freed = b.freed.shift k := rfl

@[simp] lemma merged_shift :
    Heap.merged (b.shift k) (b'.shift k) = (Heap.merged b b').shift k := rfl

end BlockInfo

/-- The pointer so many bytes further up. -/
def Ptr.shift (k : Nat) (p : Ptr) : Ptr := ⟨p.offset + k⟩

lemma Ptr.shift_injective (k : Nat) : Function.Injective (Ptr.shift k) := by
  rintro ⟨offset⟩ ⟨offset'⟩ h
  obtain rfl : offset = offset' := Nat.add_right_cancel (Ptr.mk.inj h)
  rfl

@[simp] lemma BlockInfo.ptr_shift (k : Nat) (b : BlockInfo) : (b.shift k).ptr = b.ptr.shift k := rfl

/-- All blocks so many bytes further up. -/
def shiftAll (k : Nat) (blocks : List BlockInfo) : List BlockInfo := blocks.map (·.shift k)

/-- All lists so many bytes further up. -/
def shiftLists (k : Nat) (free : SizeClass → List BlockInfo) : SizeClass → List BlockInfo :=
  fun c => shiftAll k (free c)

section

variable (k needed window : Nat) (b : BlockInfo) (blocks blocks' pre post : List BlockInfo)
variable (free : SizeClass → List BlockInfo)

@[simp] lemma shiftAll_nil : shiftAll k [] = [] := rfl

@[simp] lemma shiftAll_cons : shiftAll k (b :: blocks) = b.shift k :: shiftAll k blocks := rfl

@[simp] lemma shiftAll_append :
    shiftAll k (blocks ++ blocks') = shiftAll k blocks ++ shiftAll k blocks' := List.map_append

@[simp] lemma blocksBefore_shift :
    blocksBefore (shiftAll k blocks) (b.shift k) = shiftAll k (blocksBefore blocks b) := by
  simp [blocksBefore, shiftAll, List.takeWhile_map, Function.comp_def]

@[simp] lemma blocksAfter_shift :
    blocksAfter (shiftAll k blocks) (b.shift k) = shiftAll k (blocksAfter blocks b) := by
  simp [blocksAfter, shiftAll, List.dropWhile_map, Function.comp_def]

@[simp] lemma lastFree?_shift :
    lastFree? (shiftAll k pre) = (lastFree? pre).map (·.shift k) := by
  simp [lastFree?, shiftAll, Option.filter_map, Function.comp_def]

@[simp] lemma firstFree?_shift :
    firstFree? (shiftAll k post) = (firstFree? post).map (·.shift k) := by
  simp [firstFree?, shiftAll, Option.filter_map, Function.comp_def]

lemma any_firstFree?_shift (size needed : Nat) :
    (firstFree? (shiftAll k post)).any (fun x => needed ≤ size + x.size) =
      (firstFree? post).any fun x => needed ≤ size + x.size := by
  rw [firstFree?_shift, Option.any_map]
  rfl

@[simp] lemma beforeJoint_shift : beforeJoint (shiftAll k pre) = shiftAll k (beforeJoint pre) := by
  simp only [beforeJoint, lastFree?_shift, Option.isSome_map]
  split
  · exact List.map_dropLast.symm
  · rfl

@[simp] lemma afterJoint_shift : afterJoint (shiftAll k post) = shiftAll k (afterJoint post) := by
  simp only [afterJoint, firstFree?_shift, Option.isSome_map]
  split
  · exact List.map_tail.symm
  · rfl

@[simp] lemma joint_shift :
    joint (shiftAll k pre) (b.shift k) (shiftAll k post) = (joint pre b post).shift k := by
  cases hpre : lastFree? pre <;> cases hpost : firstFree? post <;>
    simp [joint, BlockInfo.shift, hpre, hpost]

@[simp] lemma joined_shift :
    joined (shiftAll k pre) (b.shift k) (shiftAll k post) = shiftAll k (joined pre b post) := by
  simp [joined]

@[simp] lemma detach_shift :
    detach (shiftLists k free) (b.shift k) = shiftLists k (detach free b) :=
  funext fun c => (List.map_erase (BlockInfo.shift_injective k) (free c)).symm

@[simp] lemma attach_shift :
    attach (shiftLists k free) (b.shift k) = shiftLists k (attach free b) :=
  funext fun c => (Function.apply_update (fun _ => shiftAll k) free (SizeClass.ofSize b.size)
    (b :: free (SizeClass.ofSize b.size)) c).symm

@[simp] lemma relist_shift :
    relist (shiftLists k free) (shiftAll k pre) (b.shift k) (shiftAll k post) =
      shiftLists k (relist free pre b post) := by
  cases hpre : lastFree? pre <;> cases hpost : firstFree? post <;> simp [relist, hpre, hpost]

@[simp] lemma placed_shift : placed (b.shift k) needed = shiftAll k (placed b needed) := by
  by_cases hsplit : 32 ≤ b.size - needed <;> simp [placed, hsplit]

@[simp] lemma placedFree_shift :
    placedFree (shiftLists k free) (b.shift k) needed =
      shiftLists k (placedFree free b needed) := by
  by_cases hsplit : 32 ≤ b.size - needed <;> simp [placedFree, hsplit]

/-! ### The search -/

lemma argmin_shift :
    (shiftAll k blocks).argmin BlockInfo.size = (blocks.argmin BlockInfo.size).map (·.shift k) := by
  induction blocks with
  | nil => rfl
  | cons b blocks ih =>
    rw [shiftAll_cons, List.argmin_cons, List.argmin_cons, ih]
    cases blocks.argmin BlockInfo.size with
    | none => rfl
    | some x =>
      by_cases hless : x.size < b.size <;> simp [hless]

lemma bestFit_shift :
    bestFit needed window (shiftAll k blocks) =
      (bestFit needed window blocks).map (·.shift k) := by
  rw [bestFit, bestFit, ← argmin_shift, shiftAll, List.filter_map, shiftAll, List.map_take]
  rfl

/-- The search takes the same block further up. -/
@[simp] lemma fit_shift :
    fit (shiftLists k free) needed window = (fit free needed window).map (·.shift k) := by
  simp [fit, List.map_findSome?, Function.comp_def, shiftLists, bestFit_shift]

end

/-! ## Calls and answers -/

/-- The call with the pointer that is handed over so many bytes further up. -/
def Call.shift (k : Nat) : Call → Call
  | .tryAllocate size => .tryAllocate size
  | .allocate size => .allocate size
  | .tryZeroedAllocate count size => .tryZeroedAllocate count size
  | .zeroedAllocate count size => .zeroedAllocate count size
  | .release ptr => .release (ptr.map (·.shift k))
  | .resize ptr size => .resize (ptr.map (·.shift k)) size
  | .write ptr f => .write (ptr.shift k) f

/-- The answer with the pointer that is handed out so many bytes further up. -/
def Answer.shift (k : Nat) (answer : Answer) : Answer := answer.map (Option.map (·.shift k))

namespace Plan

/-- The plan so many bytes further up, in an arena with bytes from elsewhere. -/
def shift (k : Nat) (backing : Backing) (P : Plan) : Plan :=
  ⟨shiftAll k P.blocks, shiftLists k P.free, P.size + k, P.limit + k, backing, P.config⟩

section

variable (k n needed size : Nat) (backing : Backing) (P : Plan) (b : BlockInfo) (ptr : Option Ptr)

@[simp] lemma blocks_shift : (P.shift k backing).blocks = shiftAll k P.blocks := rfl

@[simp] lemma free_shift : (P.shift k backing).free = shiftLists k P.free := rfl

@[simp] lemma config_shift : (P.shift k backing).config = P.config := rfl

@[simp] lemma available_shift :
    (P.shift k backing).limit - (P.shift k backing).size = P.limit - P.size :=
  Nat.add_sub_add_right ..

@[simp] lemma at?_shift (p : Ptr) :
    (P.shift k backing).at? (p.shift k) = (P.at? p).map (·.shift k) := by
  have hoffset : (fun x => decide (x.offset = (p.shift k).offset)) ∘ BlockInfo.shift k =
      fun x : BlockInfo => decide (x.offset = p.offset) := by
    funext x
    simp [Ptr.shift]
  rw [at?, at?, Plan.shift, shiftAll, List.find?_map, hoffset]

@[simp] lemma place_shift :
    (P.shift k backing).place (b.shift k) needed = (P.place b needed).shift k backing := by
  simp [place, shift]

@[simp] lemma chunkAtTop_shift :
    (P.shift k backing).chunkAtTop n = (P.chunkAtTop n).shift k := rfl

@[simp] lemma grow_shift : (P.shift k backing).grow n = (P.grow n).shift k backing := by
  have hjoined := joined_shift k (P.chunkAtTop n) P.blocks []
  have hrelist := relist_shift k (P.chunkAtTop n) P.blocks [] P.free
  rw [shiftAll_nil] at hjoined hrelist
  simp only [grow, chunkAtTop_shift, blocks_shift, free_shift, hjoined, hrelist]
  simp [shift, Nat.add_right_comm]

@[simp] lemma increment_shift : (P.shift k backing).increment size = P.increment size := rfl

@[simp] lemma topBlock_shift :
    (P.shift k backing).topBlock size = (P.topBlock size).shift k := by
  have hjoint := joint_shift k (P.chunkAtTop (P.increment size)) P.blocks []
  rwa [shiftAll_nil] at hjoint

@[simp] lemma releaseBlock_shift :
    (P.shift k backing).releaseBlock (b.shift k) = (P.releaseBlock b).shift k backing := by
  simp [releaseBlock, shift]

@[simp] lemma release_shift :
    (P.shift k backing).release (ptr.map (·.shift k)) = (P.release ptr).shift k backing := by
  cases ptr with
  | none => rfl
  | some p => cases hb : P.at? p <;> simp [release, hb]

@[simp] lemma shrink_shift :
    (P.shift k backing).shrink (b.shift k) needed = (P.shrink b needed).shift k backing := by
  have hpre : shiftAll k (blocksBefore P.blocks b) ++ [(b.front needed).shift k] =
      shiftAll k (blocksBefore P.blocks b ++ [b.front needed]) := by simp
  by_cases hsplit : 32 ≤ b.size - needed
  · simp only [shrink, BlockInfo.size_shift, hsplit, if_true, blocks_shift, free_shift,
      blocksBefore_shift, blocksAfter_shift, BlockInfo.front_shift, BlockInfo.back_shift, hpre,
      joined_shift, relist_shift]
    rfl
  · simp [shrink, hsplit]

@[simp] lemma absorb_shift :
    (P.shift k backing).absorb (b.shift k) = (P.absorb b).shift k backing := by
  cases hpost : blocksAfter P.blocks b <;> simp [absorb, hpost, shift]

end

/-! ### Calls that may grow the arena -/

section

variable {k : Nat} {backing : Backing} {P : Plan} {b : BlockInfo}
variable (hgrow : ∀ n, (P.shift k backing).canGrow n = P.canGrow n)

include hgrow

/-- **Requests.**  They are served alike further up, if the arena can grow alike. -/
lemma tryAllocate_shift (size : Nat) :
    (P.shift k backing).tryAllocate size =
      ((P.tryAllocate size).1.shift k backing, (P.tryAllocate size).2.map (·.shift k)) := by
  unfold tryAllocate
  simp only [fit_shift, free_shift, config_shift, increment_shift, hgrow]
  split
  · rfl
  split
  · cases fit P.free (blockFor size) P.config.fitWindow with
    | some b => simp [Except.map]
    | none =>
      simp only [Option.map_none]
      split <;> simp [Except.map]
  · rfl

lemma tryZeroedAllocate_shift (count size : Nat) :
    (P.shift k backing).tryZeroedAllocate count size =
      ((P.tryZeroedAllocate count size).1.shift k backing,
        (P.tryZeroedAllocate count size).2.map (·.shift k)) := by
  unfold tryZeroedAllocate
  split
  · exact tryAllocate_shift hgrow _
  · rfl

lemma move_shift (size : Nat) :
    (P.shift k backing).move (b.shift k) size =
      ((P.move b size).1.shift k backing, (P.move b size).2.map (·.shift k)) := by
  unfold move
  rw [tryAllocate_shift hgrow]
  rcases P.tryAllocate size with ⟨P', _ | p⟩ <;> simp [Except.map]

lemma resizeBlock_shift (size : Nat) :
    (P.shift k backing).resizeBlock (b.shift k) size =
      ((P.resizeBlock b size).1.shift k backing, (P.resizeBlock b size).2.map (·.shift k)) := by
  unfold resizeBlock
  rw [blocks_shift, blocksAfter_shift, BlockInfo.size_shift, any_firstFree?_shift, move_shift hgrow]
  split_ifs <;> simp

lemma resize_shift (ptr : Option Ptr) (size : Nat) :
    (P.shift k backing).resize (ptr.map (·.shift k)) size =
      ((P.resize ptr size).1.shift k backing, (P.resize ptr size).2.map (·.shift k)) := by
  unfold resize
  split
  · simp
  cases ptr with
  | none =>
    simp only [Option.map_none, tryAllocate_shift hgrow]
    cases (P.tryAllocate size).2 <;> rfl
  | some p =>
    simp only [Option.map_some, at?_shift]
    cases P.at? p with
    | none => rfl
    | some b => exact resizeBlock_shift hgrow size

/-- **One call.**  Further up it comes to the same further up. -/
lemma perform_shift (call : Call) :
    (P.shift k backing).perform (call.shift k) =
      ((P.perform call).1.shift k backing, (P.perform call).2.shift k) := by
  cases call with
  | tryAllocate size =>
    simp only [perform, Call.shift, tryAllocate_shift hgrow]
    cases (P.tryAllocate size).2 <;> rfl
  | allocate size =>
    simp only [perform, Call.shift, tryAllocate_shift hgrow]
    cases (P.tryAllocate size).2 <;> rfl
  | tryZeroedAllocate count size =>
    simp only [perform, Call.shift, tryZeroedAllocate_shift hgrow]
    cases (P.tryZeroedAllocate count size).2 <;> rfl
  | zeroedAllocate count size =>
    simp only [perform, Call.shift, tryZeroedAllocate_shift hgrow]
    cases (P.tryZeroedAllocate count size).2 <;> rfl
  | release ptr => simp [perform, Call.shift, Answer.shift, Except.map]
  | resize ptr size =>
    simp only [perform, Call.shift, resize_shift hgrow]
    rfl
  | write ptr f => rfl

end

end Plan

end BlockHeap
