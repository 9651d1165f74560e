import BlockHeap.Proofs.Sessions

/-!
# Plans

A `Plan` is what an allocator has to know of its arena: the blocks in address order, the free ones
class by class in the order of their lists, and how far the arena can still grow.  There are no
bytes in it.  `Plan.perform` makes a call on a plan, and since there is nothing but lists of blocks
to change, all it does is to take a block out of a list and put others in its place.

`Heap.Follows h P` says that the heap has the blocks and the lists of the plan.  Then every call on
the heap comes to what it comes to on the plan, and the heap afterwards follows the plan afterwards
(`Heap.Follows.perform`).  The lemmas before it are the same for each operation, and each rests on
what is known of that operation on sound heaps.
-/

namespace BlockHeap

/-- What an allocator has to know of its arena. -/
structure Plan where
  blocks : List BlockInfo
  free : SizeClass → List BlockInfo
  size : Nat
  limit : Nat
  backing : Backing
  config : Config

/-! ## The parts of a list around a block -/

/-- The blocks before a block. -/
def blocksBefore (blocks : List BlockInfo) (b : BlockInfo) : List BlockInfo :=
  blocks.takeWhile (· ≠ b)

/-- The blocks after a block. -/
def blocksAfter (blocks : List BlockInfo) (b : BlockInfo) : List BlockInfo :=
  (blocks.dropWhile (· ≠ b)).tail

section

variable {pre post blocks : List BlockInfo} {b : BlockInfo}

lemma blocksBefore_eq (hpre : b ∉ pre) : blocksBefore (pre ++ b :: post) b = pre := by
  have hne : ∀ x ∈ pre, decide (x ≠ b) = true := fun x hx =>
    decide_eq_true (ne_of_mem_of_not_mem hx hpre)
  rw [blocksBefore, List.takeWhile_append_of_pos hne]
  simp

lemma blocksAfter_eq (hpre : b ∉ pre) : blocksAfter (pre ++ b :: post) b = post := by
  have hne : ∀ x ∈ pre, decide (x ≠ b) = true := fun x hx =>
    decide_eq_true (ne_of_mem_of_not_mem hx hpre)
  rw [blocksAfter, List.dropWhile_append_of_pos hne]
  simp

lemma blocksBefore_append (hb : b ∈ blocks) :
    blocksBefore blocks b ++ b :: blocksAfter blocks b = blocks := by
  obtain ⟨pre, post, rfl, hpre⟩ := List.eq_append_cons_of_mem hb
  rw [blocksBefore_eq hpre, blocksAfter_eq hpre]

lemma sides_subset (hb : b ∈ blocks) : blocksBefore blocks b ++ blocksAfter blocks b ⊆ blocks := by
  conv_rhs => rw [← blocksBefore_append hb]
  simp

end

/-! ## Calls on plans -/

namespace Plan

/-- The block of a pointer. -/
def at? (P : Plan) (p : Ptr) : Option BlockInfo := P.blocks.find? (·.offset = p.offset)

/-- Allocates so many bytes of a free block. -/
def place (P : Plan) (b : BlockInfo) (needed : Nat) : Plan :=
  { P with
    blocks := blocksBefore P.blocks b ++ (placed b needed ++ blocksAfter P.blocks b)
    free := placedFree P.free b needed }

/-- Whether there is room for so many more bytes. -/
def canGrow (P : Plan) (n : Nat) : Bool :=
  decide (n ≤ P.limit - P.size) &&
    match P.backing with
    | .owned room => decide (P.size + n < Arena.reservable) && decide (P.size + n ≤ room)
    | .mapped => true

/-- The free block that growing by so many bytes adds. -/
def chunkAtTop (P : Plan) (n : Nat) : BlockInfo := ⟨P.size, n, false⟩

/-- Adds so many bytes at the top. -/
def grow (P : Plan) (n : Nat) : Plan :=
  { P with
    blocks := joined P.blocks (P.chunkAtTop n) []
    free := relist P.free P.blocks (P.chunkAtTop n) []
    size := P.size + n }

/-- By how much the arena grows if no block fits. -/
def increment (P : Plan) (size : Nat) : Nat := max (blockFor size) P.config.chunk

/-- The free block at the top after growing for a request. -/
def topBlock (P : Plan) (size : Nat) : BlockInfo :=
  joint P.blocks (P.chunkAtTop (P.increment size)) []

/-- Serves a request, or refuses it. -/
def tryAllocate (P : Plan) (size : Nat) : Plan × Except HeapError Ptr :=
  if size = 0 then
    (P, .error .zeroSize)
  else if size + 23 < Checked.bound then
    match fit P.free (blockFor size) P.config.fitWindow with
    | some b => (P.place b (blockFor size), .ok b.ptr)
    | none =>
      if P.canGrow (P.increment size) then
        ((P.grow (P.increment size)).place (P.topBlock size) (blockFor size),
          .ok (P.topBlock size).ptr)
      else
        (P, .error (.arena (.exhausted (P.increment size) (P.limit - P.size))))
  else
    (P, .error (.tooLarge size))

/-- Serves a request for elements, or refuses it. -/
def tryZeroedAllocate (P : Plan) (count size : Nat) : Plan × Except HeapError Ptr :=
  if count * size < Checked.bound then P.tryAllocate (count * size)
  else (P, .error (.overflow count size))

/-- Gives a block back. -/
def releaseBlock (P : Plan) (b : BlockInfo) : Plan :=
  { P with
    blocks := joined (blocksBefore P.blocks b) b.freed (blocksAfter P.blocks b)
    free := relist P.free (blocksBefore P.blocks b) b.freed (blocksAfter P.blocks b) }

/-- Gives the block of a pointer back. -/
def release (P : Plan) (ptr : Option Ptr) : Plan := (ptr.bind P.at?).elim P P.releaseBlock

/-- Cuts a block down, if the rest can stand alone. -/
def shrink (P : Plan) (b : BlockInfo) (needed : Nat) : Plan :=
  if 32 ≤ b.size - needed then
    { P with
      blocks := joined (blocksBefore P.blocks b ++ [b.front needed]) (b.back needed)
        (blocksAfter P.blocks b)
      free := relist P.free (blocksBefore P.blocks b ++ [b.front needed]) (b.back needed)
        (blocksAfter P.blocks b) }
  else
    P

/-- Lets a block take in the free block after it. -/
def absorb (P : Plan) (b : BlockInfo) : Plan :=
  match blocksAfter P.blocks b with
  | [] => P
  | x :: post =>
    { P with blocks := blocksBefore P.blocks b ++ Heap.merged b x :: post, free := detach P.free x }

/-- Gives a block back after another one was allocated for its payload. -/
def move (P : Plan) (b : BlockInfo) (size : Nat) : Plan × Option Ptr :=
  match P.tryAllocate size with
  | (P', .ok p) => (P'.releaseBlock b, some p)
  | (P', .error _) => (P', none)

/-- Makes a block hold so many bytes. -/
def resizeBlock (P : Plan) (b : BlockInfo) (size : Nat) : Plan × Option Ptr :=
  if size + 23 < Checked.bound then
    if blockFor size = b.size then
      (P, some b.ptr)
    else if blockFor size < b.size then
      (P.shrink b (blockFor size), some b.ptr)
    else if (firstFree? (blocksAfter P.blocks b)).any fun x => blockFor size ≤ b.size + x.size then
      (P.absorb b, some b.ptr)
    else
      P.move b size
  else
    (P, none)

/-- Resizes the block of a pointer. -/
def resize (P : Plan) (ptr : Option Ptr) (size : Nat) : Plan × Option Ptr :=
  if size = 0 then
    (P.release ptr, none)
  else
    match ptr with
    | none => ((P.tryAllocate size).1, (P.tryAllocate size).2.toOption)
    | some p => (P.at? p).elim (P, none) (P.resizeBlock · size)

/-- Makes a call. -/
def perform (P : Plan) : Call → Plan × Answer
  | .tryAllocate size => ((P.tryAllocate size).1, (P.tryAllocate size).2.map some)
  | .allocate size => ((P.tryAllocate size).1, .ok (P.tryAllocate size).2.toOption)
  | .tryZeroedAllocate count size =>
    ((P.tryZeroedAllocate count size).1, (P.tryZeroedAllocate count size).2.map some)
  | .zeroedAllocate count size =>
    ((P.tryZeroedAllocate count size).1, .ok (P.tryZeroedAllocate count size).2.toOption)
  | .release ptr => (P.release ptr, .ok none)
  | .resize ptr size => ((P.resize ptr size).1, .ok (P.resize ptr size).2)
  | .write _ _ => (P, .ok none)

/-- A request is refused and nothing changes, or a free block fits, or the plan grows. -/
lemma tryAllocate_cases (P : Plan) (size : Nat) :
    (∃ error, P.tryAllocate size = (P, .error error)) ∨
      size ≠ 0 ∧ size + 23 < Checked.bound ∧
        ((∃ b, fit P.free (blockFor size) P.config.fitWindow = some b ∧
            P.tryAllocate size = (P.place b (blockFor size), .ok b.ptr)) ∨
          fit P.free (blockFor size) P.config.fitWindow = none ∧
            P.canGrow (P.increment size) = true ∧
            P.tryAllocate size = ((P.grow (P.increment size)).place (P.topBlock size)
              (blockFor size), .ok (P.topBlock size).ptr)) := by
  unfold tryAllocate
  by_cases hsize : size = 0
  · exact .inl ⟨_, if_pos hsize⟩
  by_cases hlt : size + 23 < Checked.bound
  · rw [if_neg hsize, if_pos hlt]
    cases hfit : fit P.free (blockFor size) P.config.fitWindow with
    | some b => exact .inr ⟨hsize, hlt, .inl ⟨b, rfl, rfl⟩⟩
    | none =>
      by_cases hgrow : P.canGrow (P.increment size) = true
      · exact .inr ⟨hsize, hlt, .inr ⟨rfl, hgrow, if_pos hgrow⟩⟩
      · exact .inl ⟨_, if_neg hgrow⟩
  · exact .inl ⟨_, by rw [if_neg hsize, if_neg hlt]⟩

end Plan

/-! ## Heaps that follow a plan -/

namespace Heap

/-- The heap has the blocks and the lists of the plan, and can grow as far. -/
structure Follows (h : Heap) (P : Plan) : Prop extends h.Sound P.blocks P.free where
  size_eq : h.memory.size = P.size
  limit_eq : h.arena.limit = P.limit
  backing_eq : h.arena.backing = P.backing
  config_eq : h.config = P.config

lemma Sound.follows {h : Heap} {blocks : List BlockInfo} {free : SizeClass → List BlockInfo}
    (hs : h.Sound blocks free) :
    h.Follows ⟨blocks, free, h.memory.size, h.arena.limit, h.arena.backing, h.config⟩ :=
  ⟨hs, rfl, rfl, rfl, rfl⟩

lemma Answered.exists_of_ok {h h' : Heap} {blocks blocks' : List BlockInfo} {size : Nat} {p : Ptr}
    (hanswer : Answered h blocks size h' blocks' (.ok p)) :
    ∃ b, p = b.ptr ∧ b.allocated = true ∧ b ∉ blocks ∧ size + 16 ≤ b.size ∧
      Turnover h h' blocks blocks' [] [b] := by
  cases hanswer with
  | served b hall hfresh hroom hturn => exact ⟨b, rfl, hall, hfresh, hroom, hturn⟩

lemma Resized.exists_of_some {h h' : Heap} {blocks blocks' : List BlockInfo} {b : BlockInfo}
    {size : Nat} {p : Ptr} (hresized : Resized h blocks b size h' blocks' (some p)) :
    ∃ b' ∈ blocks', p = b'.ptr ∧ b'.allocated = true ∧ size + 16 ≤ b'.size := by
  cases hresized with
  | served b' hall hfresh hroom hturn =>
    exact ⟨b', (hturn.mem_iff b' hall).2 (.inl (by simp)), rfl, hall, hroom⟩

namespace Follows

variable {h h' : Heap} {P : Plan} {b : BlockInfo} {size needed : Nat}

lemma put (hf : h.Follows P) {m : Memory} {lists : FreeLists} {blocks : List BlockInfo}
    {free : SizeClass → List BlockInfo} {n : Nat} (hs : (h.put m lists).Sound blocks free)
    (hm : m.size = n) : (h.put m lists).Follows { P with blocks, free, size := n } :=
  ⟨hs, hm, hf.limit_eq, hf.backing_eq, hf.config_eq⟩

lemma around (hf : h.Follows P) (hb : b ∈ P.blocks) :
    h.Sound (blocksBefore P.blocks b ++ b :: blocksAfter P.blocks b) P.free := by
  rw [blocksBefore_append hb]
  exact hf.toSound

lemma at?_eq (hf : h.Follows P) (hb : b ∈ P.blocks) : P.at? b.ptr = some b := by
  have hsome : (P.at? b.ptr).isSome := List.find?_isSome.2 ⟨b, hb, decide_eq_true rfl⟩
  obtain ⟨x, hx⟩ := Option.isSome_iff_exists.1 hsome
  have hoff : x.offset = b.offset :=
    of_decide_eq_true (List.find?_some (p := fun y : BlockInfo => decide (y.offset = b.offset)) hx)
  rw [hx, hf.laid.eq_of_offset (List.mem_of_find?_eq_some hx) hb hoff]

/-! ### Requests -/

lemma canGrow_iff (hf : h.Follows P) (n : Nat) : P.canGrow n = true ↔ h.arena.CanGrow n := by
  have hsize : h.arena.size = P.size := hf.size_eq
  unfold Plan.canGrow Arena.CanGrow Arena.refuses
  rw [hsize, hf.limit_eq, hf.backing_eq]
  cases P.backing <;> simp

lemma increment_eq (hf : h.Follows P) (size : Nat) : h.increment size = P.increment size := by
  rw [Heap.increment, Plan.increment, hf.config_eq]

lemma chunkAtTop_eq (hf : h.Follows P) (n : Nat) : h.chunkAtTop n = P.chunkAtTop n := by
  rw [Heap.chunkAtTop, Plan.chunkAtTop, hf.size_eq]

lemma topBlock_eq (hf : h.Follows P) (size : Nat) :
    h.topBlock P.blocks size = P.topBlock size := by
  rw [Heap.topBlock, Plan.topBlock, hf.increment_eq, hf.chunkAtTop_eq]

lemma tryAllocate_of_fit (hf : h.Follows P) (hsize : size ≠ 0) (hlt : size + 23 < Checked.bound)
    (hfit : fit P.free (blockFor size) P.config.fitWindow = some b) :
    ∃ h', (h.tryAllocate size).outcome = .ok (h', .ok b.ptr) ∧
      h'.Follows (P.place b (blockFor size)) := by
  obtain ⟨hb, -, -⟩ := hf.listed.mem_of_fit hfit
  rw [← hf.config_eq] at hfit
  obtain ⟨m, lists, halloc, hs, hframe⟩ := (hf.around hb).tryAllocate_of_fit hsize hlt hfit
  exact ⟨_, halloc, hf.put hs (hframe.size.trans hf.size_eq)⟩

lemma blocks_of_growth (hf : h.Follows P) (hgrow : h.arena.CanGrow (h.increment size)) :
    ((P.grow (P.increment size)).place (P.topBlock size) (blockFor size)).blocks =
      beforeJoint P.blocks ++ placed (P.topBlock size) (blockFor size) := by
  obtain ⟨haligned, hmin, -⟩ := hf.toSound.increment_spec size
  obtain ⟨m, lists, -, hs, -⟩ := hf.toSound.extend hgrow haligned hmin
  rw [hf.increment_eq, hf.chunkAtTop_eq] at hs
  have hnot : P.topBlock size ∉ beforeJoint P.blocks := by
    intro hin
    have := hs.laid.before hin
    have : (joint P.blocks (P.chunkAtTop (P.increment size)) []).offset =
      (P.topBlock size).offset := rfl
    omega
  show blocksBefore (beforeJoint P.blocks ++ P.topBlock size :: []) _ ++
    (_ ++ blocksAfter (beforeJoint P.blocks ++ P.topBlock size :: []) _) = _
  rw [blocksBefore_eq hnot, blocksAfter_eq hnot, List.append_nil]

lemma tryAllocate_of_growth (hf : h.Follows P) (hsize : size ≠ 0)
    (hlt : size + 23 < Checked.bound)
    (hfit : fit P.free (blockFor size) P.config.fitWindow = none)
    (hgrow : h.arena.CanGrow (h.increment size)) :
    ∃ h', (h.tryAllocate size).outcome = .ok (h', .ok (P.topBlock size).ptr) ∧
      h'.Follows ((P.grow (P.increment size)).place (P.topBlock size) (blockFor size)) := by
  rw [← hf.config_eq] at hfit
  obtain ⟨m, lists, halloc, hs, hframe⟩ := hf.toSound.tryAllocate_of_growth hsize hlt hfit hgrow
  rw [hf.topBlock_eq, hf.increment_eq, hf.chunkAtTop_eq, ← hf.blocks_of_growth hgrow] at hs
  rw [hf.topBlock_eq] at halloc
  refine ⟨_, halloc, hf.put hs ?_⟩
  rw [hframe.size, Memory.size_extend, hf.size_eq, hf.increment_eq]
  rfl

/-- **Requests.**  A request on the heap comes to what it comes to on the plan. -/
lemma tryAllocate (hf : h.Follows P) (size : Nat) :
    ∃ h', (h.tryAllocate size).outcome = .ok (h', (P.tryAllocate size).2) ∧
      h'.Follows (P.tryAllocate size).1 := by
  unfold Plan.tryAllocate
  by_cases hsize : size = 0
  · rw [if_pos hsize]
    subst hsize
    exact ⟨h, h.tryAllocate_zero, hf⟩
  by_cases hlt : size + 23 < Checked.bound
  · rw [if_neg hsize, if_pos hlt]
    cases hfit : fit P.free (blockFor size) P.config.fitWindow with
    | some b => exact hf.tryAllocate_of_fit hsize hlt hfit
    | none =>
      by_cases hgrow : h.arena.CanGrow (h.increment size)
      · have hgrow' : P.canGrow (P.increment size) = true :=
          (hf.canGrow_iff _).2 (hf.increment_eq size ▸ hgrow)
        simp only [hgrow', if_true]
        exact hf.tryAllocate_of_growth hsize hlt hfit hgrow
      · have hgrow' : ¬ P.canGrow (P.increment size) = true := fun hcan =>
          hgrow (hf.increment_eq size ▸ (hf.canGrow_iff _).1 hcan)
        have hrefuse := hf.toSound.tryAllocate_of_refusal hsize hlt (hf.config_eq ▸ hfit) hgrow
        rw [hf.increment_eq, hf.limit_eq, show h.arena.size = P.size from hf.size_eq] at hrefuse
        simp only [hgrow']
        exact ⟨h, hrefuse, hf⟩
  · rw [if_neg hsize, if_neg hlt]
    exact ⟨h, h.tryAllocate_of_tooLarge hlt, hf⟩

/-- What became of the allocated blocks can be told from the plan. -/
lemma answered (hf : h.Follows P) (size : Nat) :
    ∃ h', (h.tryAllocate size).outcome = .ok (h', (P.tryAllocate size).2) ∧
      h'.Follows (P.tryAllocate size).1 ∧
      Answered h P.blocks size h' (P.tryAllocate size).1.blocks (P.tryAllocate size).2 := by
  obtain ⟨h', halloc, hf'⟩ := hf.tryAllocate size
  obtain ⟨h₁, result, blocks, free, halloc₁, hs₁, hanswer⟩ := hf.toSound.tryAllocate size
  obtain ⟨rfl, rfl⟩ := Prod.mk.inj (Except.ok.inj (halloc₁.symm.trans halloc))
  obtain rfl := Except.ok.inj (hs₁.blocks_eq.symm.trans hf'.blocks_eq)
  exact ⟨_, halloc, hf', hanswer⟩

/-- A heap follows its plan whatever is written into the payloads of allocated blocks. -/
lemma overwrite (hf : h.Follows P) (hb : b ∈ P.blocks) (hall : b.allocated = true) (span : Span)
    (hlo : b.offset ≤ span.start) (hhi : span.start + span.length ≤ b.offset + b.size - 16)
    (f : Nat → UInt8) : (h.overwrite span f).Follows P :=
  ⟨(hf.toSound.overwrite hb hall span hlo hhi f).1, (Memory.size_overwrite ..).trans hf.size_eq,
    hf.limit_eq, hf.backing_eq, hf.config_eq⟩

lemma overwrite_payload (hf : h.Follows P) (hb : b ∈ P.blocks) (hall : b.allocated = true)
    (f : Nat → UInt8) : (h.overwrite ⟨b.offset, b.size - 16⟩ f).Follows P := by
  have hbounds := hf.laid.bounds hb
  exact hf.overwrite hb hall ⟨b.offset, b.size - 16⟩ (Nat.le_refl _)
    (show b.offset + (b.size - 16) ≤ _ by omega) f

/-- Clearing the payload is nothing to the plan. -/
lemma tryZeroedAllocate (hf : h.Follows P) (count size : Nat) :
    ∃ h', (h.tryZeroedAllocate count size).outcome = .ok (h', (P.tryZeroedAllocate count size).2) ∧
      h'.Follows (P.tryZeroedAllocate count size).1 := by
  unfold Plan.tryZeroedAllocate
  by_cases hlt : count * size < Checked.bound
  · obtain ⟨h', halloc, hf', hanswer⟩ := hf.answered (count * size)
    rw [if_pos hlt]
    generalize P.tryAllocate (count * size) = served at halloc hf' hanswer ⊢
    obtain ⟨P', error | p⟩ := served
    · exact ⟨h', Heap.tryZeroedAllocate_of_refused hlt halloc, hf'⟩
    · obtain ⟨t, rfl, htall, -, -, hturn⟩ := hanswer.exists_of_ok
      have ht : t ∈ P'.blocks := (hturn.mem_iff t htall).2 (.inl (by simp))
      exact ⟨_, hf'.toSound.tryZeroedAllocate_of_served ht hlt halloc,
        hf'.overwrite_payload ht htall fun _ => 0⟩
  · rw [if_neg hlt]
    exact ⟨h, Heap.tryZeroedAllocate_of_overflow (Nat.le_of_not_lt hlt), hf⟩

/-! ### Giving back and resizing -/

lemma releaseBlock (hf : h.Follows P) (hb : b ∈ P.blocks) (hall : b.allocated = true) :
    ∃ h', (h.releaseBlock b.offset).outcome = .ok h' ∧ h'.Follows (P.releaseBlock b) := by
  obtain ⟨m, lists, hrelease, hs, hframe⟩ := (hf.around hb).releaseBlock hall
  exact ⟨_, hrelease, hf.put hs (hframe.size.trans hf.size_eq)⟩

lemma shrink (hf : h.Follows P) (hb : b ∈ P.blocks) (hall : b.allocated = true)
    (hless : blockFor size < b.size) :
    ∃ h', (h.shrink b.offset b.size (blockFor size)).outcome = .ok h' ∧
      h'.Follows (P.shrink b (blockFor size)) := by
  obtain ⟨haligned, hmin, -⟩ := blockFor_spec size
  unfold Plan.shrink
  by_cases hsplit : 32 ≤ b.size - blockFor size
  · obtain ⟨m, lists, hshrink, hs, hframe⟩ :=
      (hf.around hb).shrink_of_split hall haligned hmin hsplit
    rw [if_pos hsplit]
    exact ⟨_, hshrink, hf.put hs (hframe.size.trans hf.size_eq)⟩
  · rw [if_neg hsplit]
    exact ⟨h, shrink_of_not_split h (Nat.le_of_lt hless) hsplit, hf⟩

lemma absorb (hf : h.Follows P) (hb : b ∈ P.blocks) (hall : b.allocated = true)
    (hfits : (firstFree? (blocksAfter P.blocks b)).any fun x => needed ≤ b.size + x.size) :
    ∃ h', (h.absorbNext b.offset b.size (b.offset + b.size)).outcome = .ok h' ∧
      h'.Follows (P.absorb b) := by
  have hs := hf.around hb
  unfold Plan.absorb
  obtain ⟨x, post, hpost, hfree, -⟩ := exists_of_any_firstFree? hfits
  rw [hpost] at hs ⊢
  obtain ⟨m, lists, habsorb, hs', hframe⟩ := hs.absorbNext hall hfree
  exact ⟨_, habsorb, hf.put hs' (hframe.size.trans hf.size_eq)⟩

lemma move (hf : h.Follows P) (hb : b ∈ P.blocks) (hall : b.allocated = true) (size : Nat) :
    ∃ h', (h.move b.offset b.size size).outcome = .ok (h', (P.move b size).2) ∧
      h'.Follows (P.move b size).1 := by
  obtain ⟨h₁, halloc, hf₁, hanswer⟩ := hf.answered size
  have halloc' := Heap.allocate_eq_ok halloc
  unfold Plan.move
  generalize P.tryAllocate size = served at halloc' hf₁ hanswer ⊢
  obtain ⟨P₁, error | p⟩ := served
  · refine ⟨h₁, ?_, hf₁⟩
    simp only [Heap.move, Traced.outcome_bind, halloc', Fault.ok_bind]
    rfl
  · obtain ⟨t, rfl, htall, hfresh, hroom, hturn⟩ := hanswer.exists_of_ok
    have hb₁ : b ∈ P₁.blocks := (hturn.mem_iff b hall).2 (.inr ⟨hb, List.not_mem_nil⟩)
    have ht₁ : t ∈ P₁.blocks := (hturn.mem_iff t htall).2 (.inl (by simp))
    have hbt : b ≠ t := fun he => hfresh (he ▸ hb)
    obtain ⟨m, lists, hmove, hm, hs, -⟩ := (hf₁.around hb₁).move_of_served hall
      (by rwa [blocksBefore_append hb₁]) htall hbt hroom halloc'
    exact ⟨_, hmove, hf₁.put hs (hm.trans hf₁.size_eq)⟩

lemma resizeBlock (hf : h.Follows P) (hb : b ∈ P.blocks) (hall : b.allocated = true)
    (size : Nat) :
    ∃ h', (h.resizeBlock b.ptr size).outcome = .ok (h', (P.resizeBlock b size).2) ∧
      h'.Follows (P.resizeBlock b size).1 := by
  have hresize := (hf.around hb).resizeBlock_eq size
  unfold Plan.resizeBlock BlockInfo.ptr
  rw [hresize]
  split_ifs with hlt heq hless hfits
  · exact ⟨h, rfl, hf⟩
  · obtain ⟨h', hshrink, hf'⟩ := hf.shrink hb hall hless
    exact ⟨h', by rw [hshrink]; rfl, hf'⟩
  · obtain ⟨h', habsorb, hf'⟩ := hf.absorb hb hall hfits
    exact ⟨h', by rw [habsorb]; rfl, hf'⟩
  · exact hf.move hb hall size
  · exact ⟨h, rfl, hf⟩

lemma release (hf : h.Follows P) {ptr : Option Ptr}
    (hptr : ∀ p ∈ ptr, ∃ b ∈ P.blocks, b.allocated = true ∧ p = b.ptr) :
    ∃ h', (h.release ptr).outcome = .ok h' ∧ h'.Follows (P.release ptr) := by
  cases ptr with
  | none => exact ⟨h, rfl, hf⟩
  | some p =>
    obtain ⟨b, hb, hall, rfl⟩ := hptr p rfl
    obtain ⟨h', hrelease, hf'⟩ := hf.releaseBlock hb hall
    refine ⟨h', hrelease, ?_⟩
    rw [Plan.release, Option.bind_some, hf.at?_eq hb]
    exact hf'

lemma resize (hf : h.Follows P) {ptr : Option Ptr} (size : Nat)
    (hptr : ∀ p ∈ ptr, ∃ b ∈ P.blocks, b.allocated = true ∧ p = b.ptr) :
    ∃ h', (h.resize ptr size).outcome = .ok (h', (P.resize ptr size).2) ∧
      h'.Follows (P.resize ptr size).1 := by
  unfold Plan.resize Heap.resize
  by_cases hsize : size = 0
  · obtain ⟨h', hrelease, hf'⟩ := hf.release hptr
    rw [if_pos hsize, if_pos hsize]
    refine ⟨h', ?_, hf'⟩
    rw [Traced.outcome_bind, hrelease]
    rfl
  · rw [if_neg hsize, if_neg hsize]
    cases ptr with
    | none =>
      obtain ⟨h', halloc, hf'⟩ := hf.tryAllocate size
      exact ⟨h', Heap.allocate_eq_ok halloc, hf'⟩
    | some p =>
      obtain ⟨b, hb, hall, rfl⟩ := hptr p rfl
      simp only [hf.at?_eq hb]
      exact hf.resizeBlock hb hall size

end Follows

end Heap

/-! ## Sessions that follow a plan -/

/-- **One call.**  A call on the heap comes to what it comes to on the plan, and the heap afterwards
follows the plan afterwards. -/
lemma Heap.Follows.perform {s : Session} {P : Plan} {call : Call} (hf : s.heap.Follows P)
    (hptr : ∀ p ∈ call.pointer?, ∃ b ∈ P.blocks, b.allocated = true ∧ p = b.ptr) :
    ∃ s', s.perform call = .ok (s', (P.perform call).2) ∧
      s'.heap.Follows (P.perform call).1 := by
  cases call with
  | tryAllocate size =>
    obtain ⟨h', halloc, hf'⟩ := hf.tryAllocate size
    exact ⟨_, by simp only [Session.perform, halloc, Fault.ok_bind]; rfl, hf'⟩
  | allocate size =>
    obtain ⟨h', halloc, hf'⟩ := hf.tryAllocate size
    exact ⟨_, by simp only [Session.perform, Heap.allocate_eq_ok halloc, Fault.ok_bind]; rfl, hf'⟩
  | tryZeroedAllocate count size =>
    obtain ⟨h', halloc, hf'⟩ := hf.tryZeroedAllocate count size
    exact ⟨_, by simp only [Session.perform, halloc, Fault.ok_bind]; rfl, hf'⟩
  | zeroedAllocate count size =>
    obtain ⟨h', halloc, hf'⟩ := hf.tryZeroedAllocate count size
    have hzeroed := Heap.zeroedAllocate_eq_ok halloc
    exact ⟨_, by simp only [Session.perform, hzeroed, Fault.ok_bind]; rfl, hf'⟩
  | release ptr =>
    obtain ⟨h', hrelease, hf'⟩ := hf.release (show ∀ p ∈ ptr, _ from hptr)
    exact ⟨_, by simp only [Session.perform, hrelease, Fault.ok_bind]; rfl, hf'⟩
  | resize ptr size =>
    obtain ⟨h', hresize, hf'⟩ := hf.resize size (show ∀ p ∈ ptr, _ from hptr)
    exact ⟨_, by simp only [Session.perform, hresize, Fault.ok_bind]; rfl, hf'⟩
  | write p f =>
    obtain ⟨b, hb, hall, rfl⟩ := hptr p rfl
    have hpayload : s.heap.payload b.ptr = .ok ⟨b.offset, b.size - 16⟩ := hf.payload_eq hb
    exact ⟨_, by simp only [Session.perform, hpayload, Fault.ok_bind]; rfl,
      hf.overwrite_payload hb hall f⟩

/-- A session that holds hands over pointers of allocated blocks only, whatever plan it follows. -/
lemma Session.Holds.pointer_of_follows {arena : Arena} {s : Session} {blocks : List BlockInfo}
    {free : SizeClass → List BlockInfo} {P : Plan} {call : Call}
    (hh : Session.Holds arena s blocks free) (hf : s.heap.Follows P) (hpermit : s.Permits call) :
    ∀ p ∈ call.pointer?, ∃ b ∈ P.blocks, b.allocated = true ∧ p = b.ptr := by
  intro p hp
  obtain rfl := Except.ok.inj (hh.sound.blocks_eq.symm.trans hf.blocks_eq)
  exact hh.exists_block (hpermit p hp)

end BlockHeap
