import BlockHeap.Heap.Construct
import BlockHeap.Heap.Resize
import BlockHeap.Proofs.Words

/-!
# Heaps on other terms

The terms of an arena are its limit and where it has its bytes from.  A heap asks about them in one
place, when the arena grows; everything else it does is a matter of bytes, lists and configuration.
So an operation that does not grow the arena commutes with a change of terms (`Heap.coalesce_on`
and the like), whatever the heap looks like, and one that may grow it does if both terms let every
arena grow alike (`Terms.Alike`, `Heap.tryAllocate_on`, `Heap.resize_on`, `Heap.withArena_on`).

The equations are between traced computations.  They are about events and faults as well as results,
and no heap has to be sound for them.
-/

namespace BlockHeap

/-- Up to where an arena may grow, and where its bytes come from. -/
structure Terms where
  limit : Nat
  backing : Backing

/-- The arena with the same bytes on other terms. -/
def Arena.on (arena : Arena) (t : Terms) : Arena := ⟨arena.memory, t.limit, t.backing⟩

/-- The same heap on other terms. -/
def Heap.on (h : Heap) (t : Terms) : Heap := { h with arena := h.arena.on t }

/-- Whatever an arena holds, on either terms it grows by so many bytes, or is refused with the same
error. -/
def Terms.Alike (t t' : Terms) : Prop :=
  ∀ (arena : Arena) (n : Nat),
    (arena.on t').grow n = Prod.map (·.on t') id <$> (arena.on t).grow n

section

variable {α β : Type}

@[simp] lemma Traced.liftM_map (f : α → β) (x : Except Fault α) :
    (liftM (f <$> x) : Traced β) = f <$> (liftM x : Traced α) := by
  cases x <;> rfl

@[simp] lemma Traced.liftM_ok (a : α) :
    (liftM (Except.ok a : Except Fault α) : Traced α) = pure a := rfl

lemma map_ite {F : Type → Type} [Functor F] (f : α → β) (c : Prop) [Decidable c] (x y : F α) :
    f <$> (if c then x else y) = if c then f <$> x else f <$> y :=
  apply_ite ..

end

/-- Growing does not change the terms. -/
lemma Terms.alike_refl (t : Terms) : t.Alike t := by
  intro arena n
  simp only [Arena.grow, map_bind, map_ite]
  rfl

lemma Arena.on_on (arena : Arena) (t t' : Terms) : (arena.on t).on t' = arena.on t' := rfl

namespace Heap

variable (h : Heap) (t : Terms)

@[simp] lemma on_on (t' : Terms) : (h.on t).on t' = h.on t' := rfl

@[simp] lemma memory_on : (h.on t).memory = h.memory := rfl

@[simp] lemma lists_on : (h.on t).lists = h.lists := rfl

@[simp] lemma config_on : (h.on t).config = h.config := rfl

/-! ## Operations within the arena -/

@[simp] lemma modifyMemory_on (f : Memory → Except Fault Memory) :
    (h.on t).modifyMemory f = (·.on t) <$> h.modifyMemory f := by
  obtain ⟨⟨memory, limit, backing⟩, lists, prologue, config⟩ := h
  simp only [modifyMemory, on, Arena.on, map_bind]
  rfl

@[simp] lemma modifyLists_on (f : FreeLists → Memory → Except Fault (FreeLists × Memory)) :
    (h.on t).modifyLists f = (·.on t) <$> h.modifyLists f := by
  obtain ⟨⟨memory, limit, backing⟩, lists, prologue, config⟩ := h
  simp only [modifyLists, on, Arena.on, map_bind]
  rfl

@[simp] lemma unlink_on (block : Nat) :
    (h.on t).unlink block = Prod.map (·.on t) id <$> h.unlink block := by
  simp [unlink, -Fault.pure_eq]

@[simp] lemma unlinkNeighbours_on (block size : Nat) (prev next : Option Nat) :
    (h.on t).unlinkNeighbours block size prev next =
      Prod.map (·.on t) id <$> h.unlinkNeighbours block size prev next := by
  cases prev <;> cases next <;> simp [unlinkNeighbours, -Fault.pure_eq]

@[simp] lemma insertFree_on (block size : Nat) :
    (h.on t).insertFree block size = (·.on t) <$> h.insertFree block size :=
  modifyLists_on ..

@[simp] lemma coalesce_on (block : Nat) :
    (h.on t).coalesce block = Prod.map (·.on t) id <$> h.coalesce block := by
  simp [coalesce]

@[simp] lemma findFit_on (needed : Nat) : (h.on t).findFit needed = h.findFit needed := by
  have hclasses : ∀ classes, (h.on t).searchClasses needed classes =
      h.searchClasses needed classes := by
    intro classes
    induction classes with
    | nil => rfl
    | cons cls rest ih =>
      simp only [searchClasses, ih]
      rfl
  exact hclasses _

@[simp] lemma place_on (block needed : Nat) :
    (h.on t).place block needed = (·.on t) <$> h.place block needed := by
  simp [place, map_ite]

@[simp] lemma frameChunk_on (top size : Nat) :
    (h.on t).frameChunk top size = (·.on t) <$> h.frameChunk top size := by
  simp [frameChunk]

@[simp] lemma frame_on (base : Nat) :
    (h.on t).frame base = (·.on t) <$> h.frame base := by
  simp [frame]
  rfl

@[simp] lemma releaseBlock_on (block : Nat) :
    (h.on t).releaseBlock block = (·.on t) <$> h.releaseBlock block := by
  simp [releaseBlock]

@[simp] lemma release_on (ptr : Option Ptr) :
    (h.on t).release ptr = (·.on t) <$> h.release ptr := by
  cases ptr with
  | none => simp [release]
  | some p => exact releaseBlock_on h t p.offset

@[simp] lemma shrink_on (block oldSize newSize : Nat) :
    (h.on t).shrink block oldSize newSize = (·.on t) <$> h.shrink block oldSize newSize := by
  simp [shrink, map_ite]

@[simp] lemma absorbNext_on (block oldSize next : Nat) :
    (h.on t).absorbNext block oldSize next = (·.on t) <$> h.absorbNext block oldSize next := by
  simp [absorbNext]

@[simp] lemma payload_on (p : Ptr) : (h.on t).payload p = h.payload p := rfl

@[simp] lemma overwrite_on (span : Span) (f : Nat → UInt8) :
    (h.on t).overwrite span f = (h.overwrite span f).on t := rfl

@[simp] lemma copyBytes_on (source target count : Nat) :
    (h.on t).copyBytes source target count = (·.on t) <$> h.copyBytes source target count := by
  simp only [copyBytes, memory_on, overwrite_on, map_bind, map_ite]
  rfl

/-! ## Operations that may grow the arena -/

variable {t} {t' : Terms}

/-- What follows a growth that was not refused. -/
lemma extend_of_grow {arena : Arena} {n top : Nat} (hgrow : h.arena.grow n = .ok (arena, .ok top)) :
    h.extend n = do
      Traced.emit (.grew top n arena.size)
      let h ← frameChunk { h with arena } top n
      let (h, start) ← h.coalesce top
      return (h, .ok start) := by
  obtain ⟨_, lists, prologue, config⟩ := h
  simp only [extend, hgrow, Traced.liftM_ok, pure_bind]

/-- **Growing.**  This is the one place where the terms are asked about. -/
lemma extend_on (halike : t.Alike t') (n : Nat) :
    (h.on t').extend n = Prod.map (·.on t') id <$> (h.on t).extend n := by
  have hgrow' := halike h.arena n
  rcases hgrow : (h.arena.on t).grow n with fault | ⟨arena, error | top⟩ <;> rw [hgrow] at hgrow'
  case ok.ok =>
    have hheap : ({ h.on t' with arena := arena.on t' } : Heap) = { h.on t with arena }.on t' := rfl
    rw [extend_of_grow (h.on t') hgrow', extend_of_grow (h.on t) hgrow, hheap]
    simp [Arena.size, Arena.on]
  all_goals
    obtain ⟨before, lists, prologue, config⟩ := h
    simp only [extend, on] at hgrow hgrow' ⊢
    rw [hgrow, hgrow']
    rfl

lemma allocateByGrowth_on (halike : t.Alike t') (size needed : Nat) :
    (h.on t').allocateByGrowth size needed =
      Prod.map (·.on t') id <$> (h.on t).allocateByGrowth size needed := by
  simp only [allocateByGrowth, config_on, extend_on h halike, map_bind, bind_map_left]
  refine bind_congr fun chunk => bind_congr fun ⟨h', grown⟩ => ?_
  cases grown with
  | error error => rfl
  | ok block => simp

lemma tryAllocate_on (halike : t.Alike t') (size : Nat) :
    (h.on t').tryAllocate size = Prod.map (·.on t') id <$> (h.on t).tryAllocate size := by
  unfold tryAllocate
  split
  · rfl
  split
  · rfl
  simp only [findFit_on, map_bind]
  refine bind_congr fun found => ?_
  cases found with
  | none => exact allocateByGrowth_on h halike ..
  | some block => simp

lemma allocate_on (halike : t.Alike t') (size : Nat) :
    (h.on t').allocate size = Prod.map (·.on t') id <$> (h.on t).allocate size := by
  simp [allocate, tryAllocate_on h halike]

lemma tryZeroedAllocate_on (halike : t.Alike t') (count size : Nat) :
    (h.on t').tryZeroedAllocate count size =
      Prod.map (·.on t') id <$> (h.on t).tryZeroedAllocate count size := by
  unfold tryZeroedAllocate
  split
  · simp only [tryAllocate_on h halike, map_bind, bind_map_left]
    refine bind_congr fun ⟨h', result⟩ => ?_
    cases result with
    | error error => rfl
    | ok ptr => simp
  · rfl

lemma zeroedAllocate_on (halike : t.Alike t') (count size : Nat) :
    (h.on t').zeroedAllocate count size =
      Prod.map (·.on t') id <$> (h.on t).zeroedAllocate count size := by
  simp [zeroedAllocate, tryZeroedAllocate_on h halike]

lemma move_on (halike : t.Alike t') (block oldSize size : Nat) :
    (h.on t').move block oldSize size =
      Prod.map (·.on t') id <$> (h.on t).move block oldSize size := by
  simp only [move, allocate_on h halike, map_bind, bind_map_left]
  refine bind_congr fun ⟨h', moved⟩ => ?_
  cases moved with
  | none => rfl
  | some target => simp

lemma growBlock_on (halike : t.Alike t') (block oldSize size needed : Nat) :
    (h.on t').growBlock block oldSize size needed =
      Prod.map (·.on t') id <$> (h.on t).growBlock block oldSize size needed := by
  simp only [growBlock, memory_on, absorbNext_on, move_on h halike, map_bind, map_ite,
    bind_map_left]
  rfl

lemma resizeBlock_on (halike : t.Alike t') (ptr : Ptr) (size : Nat) :
    (h.on t').resizeBlock ptr size =
      Prod.map (·.on t') id <$> (h.on t).resizeBlock ptr size := by
  unfold resizeBlock
  split
  · rfl
  · simp only [memory_on, shrink_on, growBlock_on h halike, map_bind, map_ite, bind_map_left]
    rfl

lemma resize_on (halike : t.Alike t') (ptr : Option Ptr) (size : Nat) :
    (h.on t').resize ptr size = Prod.map (·.on t') id <$> (h.on t).resize ptr size := by
  unfold resize
  split
  · simp
  cases ptr with
  | none => exact allocate_on h halike size
  | some p => exact resizeBlock_on h halike p size

lemma withArena_on (halike : t.Alike t') (arena : Arena) (config : Config) :
    withArena (arena.on t') config = Except.map (·.on t') <$> withArena (arena.on t) config := by
  unfold withArena
  cases config.validate with
  | error error => rfl
  | ok _ =>
    have hsize : ∀ t, (arena.on t).size = arena.size := fun _ => rfl
    simp only [hsize, map_bind]
    refine bind_congr fun aligned => bind_congr fun padding => bind_congr fun frameBytes => ?_
    -- on the old terms the grown arena is on the old terms
    rw [halike arena frameBytes, t.alike_refl arena frameBytes]
    simp only [Traced.liftM_map, bind_map_left]
    refine bind_congr fun ⟨arena', grown⟩ => ?_
    cases grown with
    | error error => rfl
    | ok top =>
      have hheap : ∀ t, (⟨arena'.on t, FreeLists.empty, 0, config⟩ : Heap) =
        (⟨arena', FreeLists.empty, 0, config⟩ : Heap).on t := fun _ => rfl
      simp only [Prod.map, id_eq, Arena.on_on, hheap, frame_on, extend_on _ halike, map_bind,
        bind_map_left, Traced.liftM_map]
      refine bind_congr fun base => bind_congr fun h => bind_congr fun chunk =>
        bind_congr fun ⟨h', extended⟩ => ?_
      cases extended <;> rfl

end Heap

end BlockHeap
