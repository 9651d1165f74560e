import BlockHeap.Proofs.Sessions
import BlockHeap.Proofs.Terms

/-!
# Owned and mapped arenas are interchangeable

An arena that asks for room whenever it grows and one that has reserved its whole limit differ in
their terms only.  As long as there is room for the whole limit, they grow alike: up to the limit
both do, by zero bytes, and beyond it both are refused with the same numbers
(`Terms.owned_alike_mapped`).  Since a heap commutes with a change of terms, so does every call
(`Session.perform_on`) and every run of calls (`Session.converse_on`), and
`Session.providers_agree` reads off what that means for a heap that is made in either way.
-/

namespace BlockHeap

/-- A heap of one chunk fits under the limit of a configuration that was accepted. -/
lemma Config.chunk_add_le {config : Config} (hvalid : config.validate = .ok ()) :
    config.chunk + 32 ≤ config.maxHeap :=
  (config.validate_eq_ok_iff.1 hvalid).2.2.2

lemma AddressSpace.Grants.lt {space : AddressSpace} {n : Nat} (h : space.Grants n) :
    n < Arena.reservable :=
  space.lt_of_reserve n h

lemma AddressSpace.Grants.mapped_eq {space : AddressSpace} {n : Nat} (h : space.Grants n) :
    Arena.mapped n space = .ok ⟨.empty, n, .mapped⟩ := by
  rw [Arena.mapped, h]

/-- With room for the whole limit an owned arena grows as a mapped one does. -/
lemma Terms.owned_alike_mapped {limit room : Nat} (hlimit : limit < Arena.reservable)
    (hroom : limit ≤ room) : Alike ⟨limit, .owned room⟩ ⟨limit, .mapped⟩ := by
  intro arena n
  simp only [Arena.grow, map_bind, map_ite]
  rcases Nat.lt_or_ge limit arena.memory.size with hlt | hle
  · have hsub : Checked.sub limit arena.memory.size = .error .overflow := if_neg (Nat.not_le.2 hlt)
    simp only [Arena.on, Arena.size, hsub]
    rfl
  · have hsub : Checked.sub limit arena.memory.size = .ok (limit - arena.memory.size) :=
      Checked.sub_eq hle
    simp only [Arena.on, Arena.size, hsub, Fault.ok_bind]
    by_cases hn : limit - arena.memory.size < n
    · simp [hn]
    · have hroom' : arena.memory.size + n ≤ room := by omega
      have hreservable : arena.memory.size + n < Arena.reservable := by omega
      simp [hn, Arena.refuses, Arena.size, Nat.not_lt.2 hroom', Nat.not_le.2 hreservable]

/-- What follows on a result that was changed follows on the change of the result. -/
@[simp] lemma Fault.bind_of_map {α β γ : Type} (f : α → β) (x : Except Fault α)
    (g : β → Except Fault γ) : x.map f >>= g = x >>= fun a => g (f a) := by
  cases x <;> rfl

namespace Session

/-- The same session with its heap on other terms. -/
def on (s : Session) (t : Terms) : Session := ⟨s.heap.on t, s.live⟩

/-- Makes calls in order and collects the answers. -/
def converse (s : Session) : List Call → Except Fault (Session × List Answer)
  | [] => return (s, [])
  | call :: calls => do
    let (s, answer) ← s.perform call
    let (s, answers) ← s.converse calls
    return (s, answer :: answers)

variable {t t' : Terms}

/-- **One call.**  On either terms it comes to the same. -/
lemma perform_on (halike : t.Alike t') (s : Session) (call : Call) :
    (s.on t').perform call = Prod.map (·.on t') id <$> (s.on t).perform call := by
  cases call with
  | tryAllocate size =>
    simp [perform, on, Heap.tryAllocate_on s.heap halike]
  | allocate size =>
    simp [perform, on, Heap.allocate_on s.heap halike]
  | tryZeroedAllocate count size =>
    simp [perform, on, Heap.tryZeroedAllocate_on s.heap halike]
  | zeroedAllocate count size =>
    simp [perform, on, Heap.zeroedAllocate_on s.heap halike]
  | release ptr =>
    simp [perform, on]
  | resize ptr size =>
    simp [perform, on, Heap.resize_on s.heap halike]
  | write ptr f =>
    simp [perform, on]

lemma exists_on_of_perform {s s' : Session} {call : Call} {answer : Answer}
    (hperform : (s.on t).perform call = .ok (s', answer)) : ∃ u : Session, s' = u.on t := by
  rw [perform_on t.alike_refl] at hperform
  cases hs : (s.on t).perform call with
  | error fault => rw [hs] at hperform; cases hperform
  | ok result =>
    rw [hs] at hperform
    cases hperform
    exact ⟨_, rfl⟩

/-- **A run of calls.**  On either terms it comes to the same. -/
lemma converse_on (halike : t.Alike t') (s : Session) (calls : List Call) :
    (s.on t').converse calls = Prod.map (·.on t') id <$> (s.on t).converse calls := by
  induction calls generalizing s with
  | nil => rfl
  | cons call calls ih =>
    cases hs : (s.on t).perform call with
    | error fault =>
      simp only [converse, perform_on halike, hs]
      rfl
    | ok result =>
      obtain ⟨_, answer⟩ := result
      obtain ⟨u, rfl⟩ := exists_on_of_perform hs
      have hs' : (s.on t').perform call = .ok (u.on t', answer) := by
        rw [perform_on halike, hs]
        rfl
      simp only [converse, hs, hs', Fault.ok_bind, ih u]
      cases (u.on t).converse calls <;> rfl

/-- What two runs of the same calls have in common if no program can tell their heaps apart: either
both met the same fault, or both had the same answers, and live pointers, lists and every byte of
the arena are the same. -/
inductive SameCourse : (course course' : Except Fault (Session × List Answer)) → Prop where
  | faulted (fault : Fault) : SameCourse (.error fault) (.error fault)
  | ended {s s' : Session} {answers : List Answer} (live : s.live = s'.live)
      (lists : s.heap.lists = s'.heap.lists) (memory : s.heap.memory = s'.heap.memory) :
      SameCourse (.ok (s, answers)) (.ok (s', answers))

lemma SameCourse.answers_eq {course course' : Except Fault (Session × List Answer)}
    (h : SameCourse course course') :
    course.toOption.map Prod.snd = course'.toOption.map Prod.snd := by
  cases h <;> rfl

lemma sameCourse_on (halike : t.Alike t') (s : Session) (calls : List Call) :
    SameCourse ((s.on t).converse calls) ((s.on t').converse calls) := by
  rw [converse_on halike]
  cases (s.on t).converse calls with
  | error fault => exact .faulted fault
  | ok result => exact .ended rfl rfl rfl

lemma Reachable.converse {arena : Arena} {s : Session} (hs : Reachable arena s)
    (calls : List Call) (hpermit : s.PermitsAll calls) :
    ∃ s' answers, s.converse calls = .ok (s', answers) := by
  induction calls generalizing s with
  | nil => exact ⟨s, [], rfl⟩
  | cons call calls ih =>
    obtain ⟨blocks, free, hholds⟩ := hs.holds
    obtain ⟨s₁, answer, -, -, -, -, hperform, -⟩ := hholds.perform hpermit.1
    obtain ⟨s', answers, hrest⟩ :=
      ih (hs.step hpermit.1 hperform) (hpermit.2 s₁ answer hperform)
    refine ⟨s', answer :: answers, ?_⟩
    simp only [Session.converse, hperform, Fault.ok_bind, hrest]
    rfl

end Session

namespace Heap

/-- With room for the whole limit there is room for a heap. -/
lemma fits_owned {config : Config} {room : Nat} (hvalid : config.validate = .ok ())
    (hlimit : config.maxHeap < Arena.reservable) (hroom : config.maxHeap ≤ room) :
    Fits (.owned config.maxHeap room) config := by
  have hchunk := Config.chunk_add_le hvalid
  have hsize : (Arena.owned config.maxHeap room).size = 0 := rfl
  have hlimit' : (Arena.owned config.maxHeap room).limit = config.maxHeap := rfl
  have hframe := Arena.frameBytes_owned config.maxHeap room
  constructor
  · rw [Arena.canGrow_owned rfl, hframe, hsize, hlimit']
    omega
  · rw [Arena.canGrow_owned rfl, hframe, Arena.size_extended, hsize,
      show (Arena.extended _ _).limit = config.maxHeap from rfl]
    omega

/-- What is mapped is made as what is owned would be, events included. -/
lemma withMapping_on {config : Config} {space : AddressSpace} {room : Nat}
    (hgrants : space.Grants config.maxHeap) (hroom : config.maxHeap ≤ room) :
    withMapping config space =
      Except.map (·.on ⟨config.maxHeap, .mapped⟩) <$> withConfig config room := by
  have halike := Terms.owned_alike_mapped hgrants.lt hroom
  rw [withMapping_eq hgrants.mapped_eq, withConfig_eq]
  exact withArena_on halike (Arena.owned config.maxHeap room) config

/-- A heap is made in either way, with the same bytes. -/
lemma exists_made {config : Config} {space : AddressSpace} {room : Nat}
    (hvalid : config.validate = .ok ()) (hgrants : space.Grants config.maxHeap)
    (hroom : config.maxHeap ≤ room) :
    ∃ h : Heap,
      (withConfig config room).outcome = .ok (.ok (h.on ⟨config.maxHeap, .owned room⟩)) ∧
      (withMapping config space).outcome = .ok (.ok (h.on ⟨config.maxHeap, .mapped⟩)) := by
  obtain ⟨h, hmake, hfresh⟩ := withArena_of_fits (Arena.Supplied.owned _ _).sound hvalid
    (fits_owned hvalid hgrants.lt hroom)
  have hon : h = h.on ⟨config.maxHeap, .owned room⟩ := by
    have hlimit' : h.arena.limit = config.maxHeap := hfresh.limit_eq
    have hbacking : h.arena.backing = .owned room := hfresh.backing_eq
    rw [on, Arena.on, ← hlimit', ← hbacking]
  rw [← withConfig_eq] at hmake
  refine ⟨h, hmake.trans (by rw [← hon]), ?_⟩
  rw [withMapping_on hgrants hroom, Traced.outcome_map, hmake]
  rfl

end Heap

namespace Session

/-- **Owned and mapped arenas are interchangeable.**  For a configuration that was accepted, in an
address space that grants the limit that it sets and with room for that, a heap is made over an
owned arena as well as over a mapped one.  Whatever calls are then made on both, in the same order,
the answers are the same, errors with their numbers included, and so are the arenas afterwards, byte
for byte; and if only live pointers are handed over, then there are answers to all of them. -/
theorem providers_agree (config : Config) (space : AddressSpace) (room : Nat)
    (hvalid : config.validate = .ok ()) (hgrants : space.Grants config.maxHeap)
    (hroom : config.maxHeap ≤ room) :
    ∃ h h' : Heap, (Heap.withConfig config room).outcome = .ok (.ok h) ∧
      (Heap.withMapping config space).outcome = .ok (.ok h') ∧
      ∀ calls : List Call,
        SameCourse (converse ⟨h, []⟩ calls) (converse ⟨h', []⟩ calls) ∧
        (PermitsAll ⟨h, []⟩ calls →
          ∃ s answers, converse ⟨h, []⟩ calls = .ok (s, answers)) := by
  obtain ⟨h, hmake, hmake'⟩ := Heap.exists_made hvalid hgrants hroom
  refine ⟨_, _, hmake, hmake', fun calls => ⟨?_, fun hpermit => ?_⟩⟩
  · exact sameCourse_on (Terms.owned_alike_mapped hgrants.lt hroom) ⟨h, []⟩ calls
  · exact Reachable.converse (.made (.withConfig config room hmake)) calls hpermit

/-- In 128 bytes there is one block to be had, and either heap refuses the second request with the
same numbers. -/
theorem providers_agree_at_the_limit :
    ∃ h h' : Heap, (Heap.withConfig ⟨96, 1, 128⟩ 128).outcome = .ok (.ok h) ∧
      (Heap.withMapping ⟨96, 1, 128⟩ .usual).outcome = .ok (.ok h') ∧
      (converse ⟨h, []⟩ [.tryAllocate 80, .tryAllocate 8]).toOption.map Prod.snd =
        some [.ok (some ⟨32⟩), .error (.arena (.exhausted 96 0))] ∧
      (converse ⟨h', []⟩ [.tryAllocate 80, .tryAllocate 8]).toOption.map Prod.snd =
        some [.ok (some ⟨32⟩), .error (.arena (.exhausted 96 0))] := by
  obtain ⟨h, h', hmake, hmake', hcalls⟩ :=
    providers_agree ⟨96, 1, 128⟩ .usual 128 (by decide) rfl (by decide)
  have hanswers : ((Heap.withConfig ⟨96, 1, 128⟩ 128).outcome.toOption.bind Except.toOption).bind
      (fun h => (converse ⟨h, []⟩ [.tryAllocate 80, .tryAllocate 8]).toOption.map Prod.snd) =
        some [.ok (some ⟨32⟩), .error (.arena (.exhausted 96 0))] := by decide +kernel
  rw [hmake] at hanswers
  exact ⟨h, h', hmake, hmake', hanswers,
    (hcalls [.tryAllocate 80, .tryAllocate 8]).1.answers_eq ▸ hanswers⟩

end Session

end BlockHeap
