import BlockHeap.Proofs.Terms
import BlockHeap.Trace.Replay

/-!
# Replays on other terms

A replay asks a heap for blocks, writes and reads payloads and keeps its books.  Nothing of that is
about the terms of the arena, so replays commute with a change between terms on which arenas grow
alike, as requests do (`Heap.replay_on`).  As there, the equations are between traced computations
and hold of any heap.
-/

namespace BlockHeap

variable (h : Heap) {t t' : Terms}

namespace Replay

/-! ## Payloads and books -/

@[simp] lemma intact_on (number : Nat) (ptr : Option Ptr) (length : Nat) :
    intact (h.on t) number ptr length = intact h number ptr length := by
  cases ptr <;> rfl

@[simp] lemma cleared_on (ptr : Option Ptr) (length : Nat) :
    cleared (h.on t) ptr length = cleared h ptr length := by
  cases ptr <;> rfl

@[simp] lemma fill_on (number : Nat) (block : LiveBlock) :
    fill (h.on t) number block = (·.on t) <$> fill h number block := by
  obtain ⟨_ | ptr, size⟩ := block
  · rfl
  · simp only [fill, map_bind]
    rfl

@[simp] lemma enter_on (ledger : Ledger) (number : Nat) (block : LiveBlock) :
    enter (h.on t) ledger number block = Prod.map (·.on t) id <$> enter h ledger number block := by
  simp [enter]

/-! ## Operations -/

lemma allocate_on (halike : t.Alike t') (ledger : Ledger) (line number size : Nat) :
    allocate (h.on t') ledger line number size =
      Prod.map (·.on t') id <$> allocate (h.on t) ledger line number size := by
  simp only [allocate, h.tryAllocate_on halike, map_bind, bind_map_left]
  refine bind_congr fun ⟨h', result⟩ => ?_
  cases hserved : served? result <;> simp [hserved]

lemma zeroedAllocate_on (halike : t.Alike t') (ledger : Ledger) (line number count size : Nat) :
    zeroedAllocate (h.on t') ledger line number count size =
      Prod.map (·.on t') id <$> zeroedAllocate (h.on t) ledger line number count size := by
  simp only [zeroedAllocate, h.tryZeroedAllocate_on halike, map_bind, bind_map_left]
  refine bind_congr fun ⟨h', result⟩ => ?_
  cases hserved : served? result <;> simp [hserved, map_ite]

lemma release_on (ledger : Ledger) (line number : Nat) (block : LiveBlock) :
    release (h.on t) ledger line number block =
      Prod.map (·.on t) id <$> release h ledger line number block := by
  simp [release, map_ite]

lemma resize_on (halike : t.Alike t') (ledger : Ledger) (line number size : Nat)
    (block : LiveBlock) :
    resize (h.on t') ledger line number size block =
      Prod.map (·.on t') id <$> resize (h.on t) ledger line number size block := by
  simp [resize, map_ite, h.resize_on halike]

lemma apply_on (halike : t.Alike t') (ledger : Ledger) (line : Nat) (op : Operation) :
    apply (h.on t') ledger line op =
      Prod.map (·.on t') id <$> apply (h.on t) ledger line op := by
  cases op with
  | allocate number size =>
    simp only [apply, map_ite, allocate_on h halike]
    rfl
  | zeroedAllocate number count size =>
    simp only [apply, map_ite, zeroedAllocate_on h halike]
    rfl
  | release number =>
    simp only [apply]
    cases ledger.find? number with
    | none => rfl
    | some block =>
      simp only [release_on, Functor.map_map]
      rfl
  | resize number size =>
    simp only [apply]
    cases ledger.find? number with
    | none => rfl
    | some block => exact resize_on h halike ..

/-! ## Runs -/

@[simp] lemma verify_on (line : Nat) : verify (h.on t) line = verify h line := rfl

lemma step_on (halike : t.Alike t') (ledger : Ledger) (checkEach : Bool) (line : Nat)
    (op : Operation) :
    step (h.on t') ledger checkEach line op =
      Prod.map (·.on t') id <$> step (h.on t) ledger checkEach line op := by
  simp only [step, apply_on h halike, map_bind, bind_map_left]
  refine bind_congr fun _ => bind_congr fun ⟨h', result⟩ => ?_
  cases result with
  | error error => rfl
  | ok ledger =>
    simp only [Prod.map, map_ite, map_bind]
    refine if_congr Iff.rfl (bind_congr fun verdict => ?_) rfl
    cases verdict <;> rfl

/-- **Runs.**  The heaps on the way are on the terms that the first one was on. -/
lemma run_on (halike : t.Alike t') (checkEach : Bool) (ops : List (Nat × Operation))
    (ledger : Ledger) :
    run checkEach ops (h.on t') ledger =
      Prod.map (·.on t') id <$> run checkEach ops (h.on t) ledger := by
  induction ops generalizing h ledger with
  | nil => rfl
  | cons entry ops ih =>
    obtain ⟨line, op⟩ := entry
    simp only [run]
    rw [step_on h halike, step_on h t.alike_refl]
    simp only [map_bind, bind_map_left]
    refine bind_congr fun ⟨h', result⟩ => ?_
    cases result with
    | error error => rfl
    | ok ledger => exact ih h' ledger

end Replay

lemma Heap.replay_on (halike : t.Alike t') (trace : Trace) (checkEach : Bool) :
    (h.on t').replay trace checkEach =
      Prod.map (·.on t') id <$> (h.on t).replay trace checkEach := by
  simp only [Heap.replay, Replay.run_on h halike, map_bind, bind_map_left]
  refine bind_congr fun _ => bind_congr fun ⟨h', result⟩ => ?_
  cases result <;> simp

end BlockHeap
