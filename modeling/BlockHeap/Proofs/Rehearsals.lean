import BlockHeap.Proofs.Noninterference
import BlockHeap.Proofs.Providers
import Mathlib.Data.List.Nodup

/-!
# Runs that are computed on plans

A plan has no bytes, so what a run of calls comes to is computed on a plan in no time.
`Plan.rehearse` makes calls on a plan with a list of live pointers, and
`Session.Reachable.rehearsed` says that the same calls can then be made on every heap that follows
the plan, and come to the same.  A new heap follows the plan of one free chunk
(`Heap.Fresh.follows`).
-/

namespace BlockHeap

/-- The plan of a heap that was just made: one free chunk behind the frame. -/
def Plan.fresh (base chunk limit : Nat) (backing : Backing) (config : Config) : Plan where
  blocks := [⟨base + 32, chunk, false⟩]
  free c := if SizeClass.ofSize chunk = c then [⟨base + 32, chunk, false⟩] else []
  size := base + 32 + chunk
  limit := limit
  backing := backing
  config := config

/-- Without free neighbours or other blocks there is one way to list a free block. -/
lemma Listed.eq_of_singleton {m : Memory} {lists : FreeLists} {b : BlockInfo}
    {free : SizeClass → List BlockInfo} (h : Listed m lists [b] [] free)
    (hfree : b.allocated = false) :
    free = fun c => if SizeClass.ofSize b.size = c then [b] else [] := by
  funext c
  have hmem (x : BlockInfo) : x ∈ free c ↔ x = b ∧ SizeClass.ofSize b.size = c := by
    rw [h.mem_iff c x, List.mem_singleton]
    constructor
    · rintro ⟨rfl, -, hc, -⟩
      exact ⟨rfl, hc⟩
    · rintro ⟨rfl, hc⟩
      exact ⟨rfl, hfree, hc, List.not_mem_nil⟩
  split
  · next hc =>
    rw [← List.perm_singleton, List.perm_ext_iff_of_nodup (h.nodup c) (List.nodup_singleton b)]
    intro x
    rw [hmem, List.mem_singleton, and_iff_left hc]
  · next hc =>
    rw [List.eq_nil_iff_forall_not_mem]
    intro x hx
    exact hc ((hmem x).1 hx).2

namespace Heap

/-- A new heap follows the plan of one free chunk. -/
lemma Fresh.follows {arena : Arena} {config : Config} {h : Heap} {base : Nat}
    (hfresh : Fresh arena config h) (hbase : alignDown (arena.size + 7) = base) :
    h.Follows (.fresh base config.chunk arena.limit arena.backing config) := by
  obtain ⟨free, hsound⟩ := hfresh.sound
  have hprologue : h.prologue = base + 16 := hfresh.prologue_eq.trans (by rw [hbase])
  have hsize : base + 32 + config.chunk = h.memory.size := by
    have htiles := hsound.laid.tiles
    rw [hprologue] at htiles
    exact htiles.2
  rw [hprologue] at hsound
  obtain rfl := hsound.listed.eq_of_singleton rfl
  exact ⟨hsound, hsize.symm, hfresh.limit_eq, hfresh.backing_eq, hfresh.config_eq⟩

end Heap

/-- Makes calls in order, as long as they are permitted. -/
def Plan.rehearse (P : Plan) (live : List Ptr) : List Call → Option (Plan × List Ptr)
  | [] => some (P, live)
  | call :: calls =>
    if ∀ p ∈ call.pointer?, p ∈ live then
      (P.perform call).1.rehearse (Session.liveAfter live call (P.perform call).2) calls
    else
      none

namespace Session

variable {arena : Arena} {s : Session} {P P' : Plan} {live : List Ptr} {calls : List Call}

/-- **Rehearsals.**  What was made of a plan can be made of a heap that follows it. -/
lemma Reachable.rehearsed (hs : Reachable arena s) (hf : s.heap.Follows P)
    (hcalls : P.rehearse s.live calls = some (P', live)) :
    ∃ s', Reachable arena s' ∧ s'.heap.Follows P' ∧ s'.live = live := by
  induction calls generalizing s P with
  | nil =>
    obtain ⟨rfl, rfl⟩ := Prod.mk.inj (Option.some.inj hcalls)
    exact ⟨s, hs, hf, rfl⟩
  | cons call calls ih =>
    rw [Plan.rehearse] at hcalls
    split at hcalls
    · next hpermit =>
      obtain ⟨_, _, hh⟩ := hs.holds
      obtain ⟨s₁, hperform, hf₁⟩ := hf.perform (hh.pointer_of_follows hf hpermit)
      exact ih (hs.step hpermit hperform) hf₁ (live_of_perform hperform ▸ hcalls)
    · cases hcalls

/-- What a rehearsal shows of the plan of a new heap holds of a plan that a heap follows to which a
program can come. -/
lemma exists_of_rehearsal {α : Type} {a : α} (config : Config) (room : Nat) (calls : List Call)
    (view : Plan → α) (hvalid : config.validate = .ok ())
    (hlimit : config.maxHeap < Arena.reservable) (hroom : config.maxHeap ≤ room)
    (hview : ((Plan.fresh 0 config.chunk config.maxHeap (.owned room) config).rehearse [] calls).map
      (view ·.1) = some a) :
    ∃ s P, Reachable (.owned config.maxHeap room) s ∧ s.heap.Follows P ∧ view P = a := by
  obtain ⟨h, hmake, hfresh⟩ := Heap.withArena_of_fits (Arena.Supplied.owned _ _).sound hvalid
    (Heap.fits_owned hvalid hlimit hroom)
  have hf := hfresh.follows (show alignDown (0 + 7) = 0 by decide)
  obtain ⟨⟨P, live⟩, hcalls, hP⟩ := Option.map_eq_some_iff.1 hview
  have hs : Reachable (.owned config.maxHeap room) ⟨h, []⟩ :=
    .made (.withArena config (.owned _ _) hmake)
  obtain ⟨s, hs, hf, -⟩ := hs.rehearsed hf hcalls
  exact ⟨s, P, hs, hf, hP⟩

end Session

end BlockHeap
