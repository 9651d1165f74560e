import BlockHeap.Heap.Construct
import BlockHeap.Proofs.Growth

/-!
# Making heaps

`Heap.frame_laid` says that the frame written at the top of an arena is a layout without blocks, so
a heap is sound before it has its first chunk, and `Heap.Sound.extend` adds that.  The result is
`Heap.withArena_of_fits`: whatever the arena held before stands in front of the frame, and behind it
there is one free block of one chunk.  Making a heap never faults, for any configuration
(`Heap.withArena_total`).
-/

namespace BlockHeap

/-- Padding and sentinels that a heap at the top of the arena starts with. -/
def Arena.frameBytes (arena : Arena) : Nat := alignDown (arena.size + 7) - arena.size + 32

lemma Arena.frameBytes_owned (limit room : Nat) : (owned limit room).frameBytes = 32 := by
  rw [frameBytes, show (owned limit room).size = 0 from rfl]
  decide

namespace Heap

variable {h : Heap} {arena : Arena} {config : Config} {base : Nat}

/-- The memory with padding word, prologue and epilogue from an offset on. -/
def framed (m : Memory) (base : Nat) : Memory :=
  (Block.setTags (m.setWord base 0) (base + 16) 16 (Tag.of 16 true)).setWord (base + 32 - 8)
    (Tag.of 0 true).raw

lemma size_framed (m : Memory) (base : Nat) : (framed m base).size = m.size := by
  rw [framed, Memory.size_setWord, Block.size_setTags, Memory.size_setWord]

lemma framed_changedOnly (m : Memory) (base : Nat) :
    Memory.ChangedOnly (fun pos => base ≤ pos) m (framed m base) := by
  refine ((Memory.setWord_changedOnly _ _ _).mono ?_).trans
    (((Block.setTags_changedOnly _ _ _ _).mono ?_).trans
      ((Memory.setWord_changedOnly _ _ _).mono ?_))
  · intro pos hpos
    exact hpos.1
  · intro pos hpos
    omega
  · intro pos hpos
    omega

/-- The frame at the top of a memory is a layout without blocks. -/
lemma laid_framed {m : Memory} (hsize : m.size = base + 32) (haligned : base % 8 = 0)
    (hsmall : m.size < Arena.reservable) : Laid (framed m base) (base + 16) [] := by
  have hpadded : (m.setWord base 0).size = base + 32 := by rw [Memory.size_setWord, hsize]
  have hkept : ∀ pos, pos + 8 ≤ base + 24 → (framed m base).wordAt pos =
      (Block.setTags (m.setWord base 0) (base + 16) 16 (Tag.of 16 true)).wordAt pos := by
    intro pos hpos
    exact Memory.wordAt_setWord_of_disjoint _ _ (.inl (by omega))
  refine ⟨by omega, by omega, ?_, ?_, ?_, nofun, nofun, ?_, (size_framed m base).symm ▸ hsmall⟩
  · rw [hkept _ (by omega)]
    exact Block.header_setTags _ (by omega) (by omega) (by omega)
  · rw [hkept _ (by omega)]
    have : base + 16 + 16 ≤ (m.setWord base 0).size + 8 := by omega
    exact Block.footer_setTags _ (Nat.le_refl 16) this
  · show base + 16 + 16 = (framed m base).size
    rw [size_framed, hsize]
  · rw [size_framed, hsize]
    apply Memory.wordAt_setWord
    rw [Block.size_setTags, hpadded]
    omega

lemma frame_eq (hsize : h.memory.size = base + 32) (hlt : h.memory.size + 8 < Checked.bound) :
    frame h base = .ok { h.put (framed h.memory base) h.lists with prologue := base + 16 } := by
  have hpadding : h.memory.writeWord base 0 = .ok (h.memory.setWord base 0) :=
    Memory.writeWord_eq _ (by omega)
  have hprologue : Block.write (h.memory.setWord base 0) (base + 16) (Tag.of 16 true) =
      .ok (Block.setTags (h.memory.setWord base 0) (base + 16) 16 (Tag.of 16 true)) := by
    have htag := Tag.size_of_prologue
    have hpadded := Memory.size_setWord h.memory base 0
    rw [Block.write_eq (by omega) (by omega) (by omega) (by omega), htag]
  have hepilogue : Block.writeHeader
      (Block.setTags (h.memory.setWord base 0) (base + 16) 16 (Tag.of 16 true)) (base + 16 + 16)
        (Tag.of 0 true) = .ok (framed h.memory base) := by
    rw [Block.writeHeader_eq _ (by omega) ?_]
    · rfl
    · rw [Block.size_setTags, Memory.size_setWord, hsize]
  simp only [frame, Memory.wordSize, Nat.reduceMul, Block.prologueSize, Block.overhead,
    Checked.add_eq (show base + 16 < Checked.bound by omega), Fault.ok_bind,
    Tag.pack_eq true (show 16 % 8 = 0 from rfl),
    Checked.add_eq (show base + 16 + 16 < Checked.bound by omega),
    Tag.pack_eq true (show 0 % 8 = 0 from rfl)]
  rw [modifyMemory_eq (m := framed h.memory base)]
  · rfl
  · simp only [hpadding, hprologue, hepilogue, Fault.ok_bind]

lemma frame_laid (hsize : h.memory.size = base + 32) (haligned : base % 8 = 0)
    (hsmall : h.memory.size < Arena.reservable) :
    ∃ m, m = framed h.memory base ∧
      frame h base = .ok { h.put m h.lists with prologue := base + 16 } ∧
      Laid m (base + 16) [] := by
  have hlt : h.memory.size + 8 < Checked.bound := by
    unfold Arena.reservable at hsmall
    unfold Checked.bound
    omega
  exact ⟨framed h.memory base, rfl, frame_eq hsize hlt, laid_framed hsize haligned hsmall⟩

lemma listed_empty (m : Memory) : Listed m FreeLists.empty [] [] fun _ => [] :=
  ⟨FreeLists.represents_empty m, by simp⟩

/-- What is known of a new heap: its frame stands behind what the arena held, and there is one free
block of one chunk. -/
structure Fresh (arena : Arena) (config : Config) (h : Heap) : Prop where
  prologue_eq : h.prologue = alignDown (arena.size + 7) + 16
  config_eq : h.config = config
  limit_eq : h.arena.limit = arena.limit
  backing_eq : h.arena.backing = arena.backing
  front : ∀ pos < arena.size, h.memory.byte pos = arena.memory.byte pos
  sound : ∃ free, h.Sound [⟨h.prologue + 16, config.chunk, false⟩] free
  stamped : ∃ h₀ : Heap,
    h₀.memory = framed (arena.memory.extend arena.frameBytes) (alignDown (arena.size + 7)) ∧
    Memory.Stamped (InFreeSlot [⟨h.prologue + 16, config.chunk, false⟩])
      [⟨h.prologue + 16, config.chunk, false⟩, ⟨h.prologue + 16, config.chunk, false⟩]
      (h₀.stretched config.chunk) h.memory

/-- Whether a heap fits into the arena. -/
def Fits (arena : Arena) (config : Config) : Prop :=
  arena.CanGrow arena.frameBytes ∧ (arena.extended arena.frameBytes).CanGrow config.chunk

private lemma padding_eq (ha : arena.Sound) :
    alignUp arena.size = .ok (alignDown (arena.size + 7)) ∧
      Checked.sub (alignDown (arena.size + 7)) arena.size =
        .ok (alignDown (arena.size + 7) - arena.size) ∧
      Checked.add (alignDown (arena.size + 7) - arena.size) Config.sentinelBytes =
        .ok arena.frameBytes ∧
      Checked.add arena.size (alignDown (arena.size + 7) - arena.size) =
        .ok (alignDown (arena.size + 7)) ∧
      arena.size ≤ alignDown (arena.size + 7) ∧ alignDown (arena.size + 7) % 8 = 0 := by
  have hlt := ha.size_lt
  have hbound : Arena.reservable + Arena.reservable = Checked.bound := rfl
  have hres : 1000 ≤ Arena.reservable := by decide
  have hle : arena.size ≤ alignDown (arena.size + 7) ∧
      alignDown (arena.size + 7) ≤ arena.size + 7 := by
    unfold alignDown alignment
    omega
  have hsum : arena.size + (alignDown (arena.size + 7) - arena.size) =
      alignDown (arena.size + 7) := by
    omega
  refine ⟨?_, Checked.sub_eq hle.1, ?_, ?_, hle.1, isAligned_iff.1 (isAligned_alignDown _)⟩
  · exact alignUp_of_lt (by omega)
  · exact Checked.add_eq (show _ + 32 < _ by omega)
  · rw [Checked.add_eq (by omega), hsum]

/-- With room for the frame there is a heap without blocks, which then grows by one chunk. -/
lemma exists_framed (ha : arena.Sound) (hvalid : config.validate = .ok ())
    (hgrow : arena.CanGrow arena.frameBytes) :
    ∃ h : Heap, h.Sound [] (fun _ => []) ∧ h.prologue = alignDown (arena.size + 7) + 16 ∧
      h.config = config ∧ h.arena.limit = arena.limit ∧ h.arena.backing = arena.backing ∧
      h.memory = framed (arena.memory.extend arena.frameBytes) (alignDown (arena.size + 7)) ∧
      (∀ n, h.arena.CanGrow n ↔ (arena.extended arena.frameBytes).CanGrow n) ∧
      (withArena arena config).outcome = (h.extend config.chunk).outcome.map fun (h, extended) =>
        match extended with
        | .error error => .error (.arena error)
        | .ok _ => .ok h := by
  obtain ⟨halign, hsub, hadd, hadd', hle, haligned⟩ := padding_eq ha
  have haccepted := Config.accepted_of_validate hvalid
  have ha' := ha.extended hgrow
  set base := alignDown (arena.size + 7) with hbase
  have hsize : (arena.extended arena.frameBytes).memory.size = base + 32 := by
    have : (arena.extended arena.frameBytes).size = arena.size + (base - arena.size + 32) :=
      Arena.size_extended ..
    unfold Arena.size at this hle
    omega
  obtain ⟨m, hmemory, hframe, hlaid⟩ := frame_laid
    (h := ⟨arena.extended arena.frameBytes, FreeLists.empty, 0, config⟩) hsize haligned ha'.size_lt
  have hsized : m.size = (arena.extended arena.frameBytes).memory.size := by
    rw [hmemory, size_framed]
    rfl
  set h : Heap := { Heap.put ⟨arena.extended arena.frameBytes, FreeLists.empty, 0, config⟩ m
    FreeLists.empty with prologue := base + 16 } with hh
  have hs : h.Sound [] fun _ => [] :=
    { laid := hlaid
      listed := listed_empty m
      arena := ha'.of_size hsized
      config := hvalid
      coalesced := List.isChain_nil }
  refine ⟨h, hs, rfl, rfl, rfl, rfl, hmemory, ?_, ?_⟩
  · intro n
    have hm : h.arena.size = (arena.extended arena.frameBytes).size := hsized
    unfold Arena.CanGrow Arena.refuses
    rw [hm]
    exact Iff.rfl
  · have hgrowEq := Arena.grow_of_canGrow ha.size_le hgrow
    have hframe' : frame ⟨arena.extended arena.frameBytes, FreeLists.empty, 0, config⟩ base =
        .ok h := hframe
    simp only [withArena, hvalid, Traced.outcome_bind, Traced.outcome_liftM, halign, hsub, hadd,
      Fault.ok_bind, hgrowEq, hadd', hframe', haccepted.alignedChunk]
    cases hextend : (h.extend config.chunk).outcome with
    | error fault => rfl
    | ok result => obtain ⟨h', _ | _⟩ := result <;> rfl

/-- **A new heap.**  If it fits, it is made. -/
lemma withArena_of_fits (ha : arena.Sound) (hvalid : config.validate = .ok ())
    (hfits : Fits arena config) :
    ∃ h, (withArena arena config).outcome = .ok (.ok h) ∧ Fresh arena config h := by
  obtain ⟨h, hs, hprologue, hconfig, hlimit, hbacking, hmemory, hcan, hmake⟩ :=
    exists_framed ha hvalid hfits.1
  have haccepted := Config.accepted_of_validate hvalid
  have hle := le_alignDown_add arena.size
  have htop : h.memory.size = h.prologue + 16 := hs.laid.tiles.symm
  obtain ⟨m, lists, hextend, hsound, hstamped⟩ :=
    hs.extend_exact ((hcan _).2 hfits.2) haccepted.chunk_aligned haccepted.le_chunk
  have hchunk : h.chunkAtTop config.chunk = ⟨h.prologue + 16, config.chunk, false⟩ := by
    rw [chunkAtTop, htop]
  have hjoint : joint [] (h.chunkAtTop config.chunk) [] = h.chunkAtTop config.chunk := by
    simp [joint, chunkAtTop]
  have hjoined : joined [] (h.chunkAtTop config.chunk) [] = [h.chunkAtTop config.chunk] := by
    simp [joined, hjoint, beforeJoint, afterJoint]
  rw [hjoined, hchunk] at hsound
  rw [hjoined, hjoint, hchunk] at hstamped
  have hlinks (pos : Nat) (hpos : InLinks [] [⟨h.prologue + 16, config.chunk, false⟩] pos) :
      InFreeSlot [⟨h.prologue + 16, config.chunk, false⟩] pos := by
    rcases hpos with ⟨x, hx, -⟩ | hpos
    · exact absurd hx List.not_mem_nil
    · exact hpos
  replace hstamped := hstamped.mono hlinks
  refine ⟨h.put m lists, by rw [hmake, hextend]; rfl, hprologue, hconfig, hlimit, hbacking, ?_,
    ⟨_, hsound⟩, h, hmemory, hstamped⟩
  intro pos hpos
  -- the frame and the block stand behind the bytes that the arena held
  have hvalid := hsound.laid.valid _ List.mem_cons_self
  have hout : ¬ BlockInfo.Covers ⟨h.prologue + 16, config.chunk, false⟩ pos := by
    simp only [BlockInfo.Covers]
    omega
  calc m.byte pos
      = (h.stretched config.chunk).byte pos := by
        apply hstamped.changedOnly.byte
        rintro (⟨x, hx, htags⟩ | ⟨x, hx, -, hslot⟩)
        · obtain rfl : x = _ := by simpa using hx
          exact hout (htags.covers hvalid)
        · obtain rfl := List.mem_singleton.1 hx
          exact hout (BlockInfo.covers_of_inSlot hvalid.2 hslot)
    _ = (h.memory.extend config.chunk).byte pos :=
        (stretched_changedOnly haccepted.le_chunk).byte pos (by omega)
    _ = h.memory.byte pos := Memory.byte_extend ..
    _ = (arena.memory.extend arena.frameBytes).byte pos := by
        rw [hmemory]
        exact (framed_changedOnly _ _).byte pos (by omega)
    _ = arena.memory.byte pos := Memory.byte_extend ..

/-- If it does not fit, it is refused. -/
lemma withArena_of_not_fits (ha : arena.Sound) (hvalid : config.validate = .ok ())
    (hfits : ¬ Fits arena config) :
    ∃ error, (withArena arena config).outcome = .ok (.error (.arena error)) := by
  by_cases hgrow : arena.CanGrow arena.frameBytes
  · obtain ⟨h, hs, -, -, -, -, -, hcan, hmake⟩ := exists_framed ha hvalid hgrow
    have hnot : ¬ h.arena.CanGrow config.chunk := fun hc => hfits ⟨hgrow, (hcan _).1 hc⟩
    exact ⟨_, by rw [hmake, hs.extend_of_not_canGrow hnot]; rfl⟩
  · obtain ⟨halign, hsub, hadd, -⟩ := padding_eq ha
    refine ⟨.exhausted arena.frameBytes (arena.limit - arena.size), ?_⟩
    simp only [withArena, hvalid, Traced.outcome_bind, Traced.outcome_liftM, halign, hsub, hadd,
      Fault.ok_bind, Arena.grow_of_not_canGrow ha.size_le hgrow, Traced.outcome_pure]

/-- **Making a heap never faults.**  It is made or refused, and what is made is new. -/
lemma withArena_total (ha : arena.Sound) (config : Config) :
    ∃ result, (withArena arena config).outcome = .ok result ∧
      ∀ h, result = .ok h → Fresh arena config h := by
  cases hvalid : config.validate with
  | error error =>
    refine ⟨.error (.config error), ?_, nofun⟩
    simp only [withArena, hvalid, Traced.outcome_pure]
  | ok _ =>
    by_cases hfits : Fits arena config
    · obtain ⟨h, hmake, hfresh⟩ := withArena_of_fits ha hvalid hfits
      exact ⟨_, hmake, fun h' he => by cases he; exact hfresh⟩
    · obtain ⟨error, hmake⟩ := withArena_of_not_fits ha hvalid hfits
      exact ⟨_, hmake, nofun⟩

/-! ## Heaps with an arena of their own -/

lemma withConfig_eq (config : Config) (room : Nat) :
    withConfig config room = withArena (.owned config.maxHeap room) config := by
  cases hvalid : config.validate <;> simp only [withConfig, withArena, hvalid]

lemma withMapping_eq {space : AddressSpace} {arena : Arena}
    (hmap : Arena.mapped config.maxHeap space = .ok arena) :
    withMapping config space = withArena arena config := by
  cases hvalid : config.validate <;> simp only [withMapping, withArena, hvalid, hmap]

lemma withMapping_of_error {space : AddressSpace} {error : ArenaError}
    (hmap : Arena.mapped config.maxHeap space = .error error) :
    ∃ error, (withMapping config space).outcome = .ok (.error error) := by
  cases hvalid : config.validate with
  | error error =>
    refine ⟨.config error, ?_⟩
    simp only [withMapping, hvalid, Traced.outcome_pure]
  | ok _ =>
    refine ⟨.arena error, ?_⟩
    simp only [withMapping, hvalid, hmap, Traced.outcome_pure]

end Heap

end BlockHeap
