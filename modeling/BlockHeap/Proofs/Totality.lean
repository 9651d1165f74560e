import BlockHeap.Proofs.Checking
import BlockHeap.Proofs.Sessions

/-!
# Nothing faults

Heaps are made or refused, for any configuration and any room, but making one never faults
(`Heap.exists_new`, `Heap.exists_withConfig`, `Heap.exists_withMapping`, `Heap.exists_withArena`).
On a heap that a program can come to, every permitted call has an answer, every walk ends, and all
the numbers that are counted on the way are machine numbers (`Session.Holds.faultless`).
`Session.never_faults` is the two together.
-/

namespace BlockHeap

namespace Heap

variable {arena : Arena}

lemma exists_withArena (harena : arena.Supplied) (config : Config) :
    ∃ result, (withArena arena config).outcome = .ok result := by
  obtain ⟨result, hmake, -⟩ := withArena_total harena.sound config
  exact ⟨result, hmake⟩

lemma exists_withConfig (config : Config) (room : Nat) :
    ∃ result, (withConfig config room).outcome = .ok result :=
  withConfig_eq config room ▸ exists_withArena (.owned config.maxHeap room) config

lemma exists_new (room : Nat) : ∃ result, (Heap.new room).outcome = .ok result :=
  exists_withConfig {} room

lemma exists_withMapping (config : Config) (space : AddressSpace) :
    ∃ result, (withMapping config space).outcome = .ok result := by
  cases hmap : Arena.mapped config.maxHeap space with
  | error error =>
    obtain ⟨error, hmake⟩ := withMapping_of_error hmap
    exact ⟨_, hmake⟩
  | ok arena =>
    rw [withMapping_eq hmap]
    exact exists_withArena (.mapped hmap) config

/-- The events of a check do not change what it comes to. -/
lemma outcome_check (h : Heap) (verbose : Bool) :
    (h.check verbose).outcome = h.inspect verbose := by
  simp only [Heap.check, Traced.outcome_bind, Traced.outcome_liftM, Traced.outcome_emitAll,
    Traced.outcome_pure, Fault.ok_bind]
  cases h.inspect verbose <;> rfl

end Heap

namespace Session

variable {arena : Arena} {s : Session} {blocks : List BlockInfo}
variable {free : SizeClass → List BlockInfo}

/-- Everything that a program can ask of the heap has an answer, and what is counted on the way are
machine numbers. -/
structure Faultless (s : Session) : Prop where
  run : ∀ calls, s.PermitsAll calls → ∃ s', s.run calls = .ok s'
  payload : ∀ p ∈ s.live, ∃ span, s.heap.payload p = .ok span
  usableSize : ∀ p ∈ s.live, ∃ n, s.heap.usableSize p = .ok n
  blocks : ∃ blocks, s.heap.blocks = .ok blocks
  stats : ∃ stats, s.heap.stats = .ok stats ∧ stats.arenaBytes < Checked.bound ∧
    stats.allocatedBlocks + stats.freeBlocks < Checked.bound ∧
    stats.allocatedBytes + stats.freeBytes < Checked.bound
  check : ∀ verbose, ∃ inspection, (s.heap.check verbose).outcome = .ok inspection ∧
    inspection.report.blocks < Checked.bound ∧ inspection.report.arenaFree < Checked.bound ∧
    inspection.report.listFree < Checked.bound

lemma Holds.faultless (hs : Reachable arena s) (hh : Holds arena s blocks free) : s.Faultless := by
  have hsmall := hh.sound.laid.size_lt
  have hlen := hh.sound.laid.tiles.length_le hh.sound.laid.valid
  refine ⟨?_, ?_, ?_, ⟨_, hh.sound.blocks_eq⟩, ?_, ?_⟩
  · intro calls hpermit
    obtain ⟨s', hrun, -⟩ := hs.run calls hpermit
    exact ⟨s', hrun⟩
  · intro p hp
    obtain ⟨b, hb, -, rfl⟩ := hh.exists_block hp
    exact ⟨_, hh.sound.payload_eq hb⟩
  · intro p hp
    obtain ⟨b, hb, -, rfl⟩ := hh.exists_block hp
    exact ⟨_, hh.sound.usableSize_eq hb⟩
  · obtain ⟨stats, hstats, harena, hblocks, hbytes⟩ := hh.sound.stats_eq
    exact ⟨stats, hstats, by omega, by omega, by omega⟩
  · intro verbose
    obtain ⟨listing, hinspect⟩ := hh.sound.inspect_eq verbose
    have hcount : freeCount blocks ≤ blocks.length := List.countP_le_length
    refine ⟨_, (s.heap.outcome_check verbose).trans hinspect, ?_, ?_, ?_⟩
    · show blocks.length < _
      omega
    · show freeCount blocks < _
      omega
    · show freeCount blocks < _
      omega

/-- **Nothing faults.**  Heaps can be made with any configuration, over any arena, and whatever a
program does with them, as long as it hands over live pointers only, every call, every walk and
every check comes to its end. -/
theorem never_faults (arena : Arena) (harena : arena.Supplied) (config : Config) (room : Nat) :
    (∃ result, (Heap.new room).outcome = .ok result) ∧
    (∃ result, (Heap.withConfig config room).outcome = .ok result) ∧
    (∀ space, ∃ result, (Heap.withMapping config space).outcome = .ok result) ∧
    (∃ result, (Heap.withArena arena config).outcome = .ok result) ∧
    ∀ (arena' : Arena) (s : Session), Reachable arena' s → s.Faultless := by
  refine ⟨Heap.exists_new room, Heap.exists_withConfig config room, Heap.exists_withMapping config,
    Heap.exists_withArena harena config, ?_⟩
  intro arena' s hs
  obtain ⟨blocks, free, hh⟩ := hs.holds
  exact hh.faultless hs

/-- Two small live blocks on an arena of their own. -/
theorem never_faults_small : ∃ s : Session, s.live = [⟨64⟩, ⟨32⟩] ∧ s.Faultless := by
  obtain ⟨s, hs, hlive, -⟩ := exists_small
  obtain ⟨-, -, -, -, hfaultless⟩ := never_faults (.owned 1024 1024) (.owned 1024 1024) {} 1024
  exact ⟨s, hlive, hfaultless _ s hs⟩

end Session

end BlockHeap
