import BlockHeap.Proofs.Integrity
import BlockHeap.Proofs.Plans

/-!
# Payloads do not matter

A program that makes its calls by what the earlier ones came to, and writes what it likes into live
payloads in between, is a function from answers to calls with writes at will
(`Session.Played`).  Whatever it writes, after each call the heap follows the plan that the calls
alone lead to (`Session.Played.follows`).  So two runs of a program that differ in what they write
cannot be told apart by any call, nor by the blocks, the lists or the numbers of the heap
(`Session.Played.alike`).
-/

namespace BlockHeap

/-- The next call of a program, on a plan and with the answers to the earlier ones, newest first. -/
def Plan.turn (program : List Answer → Call) : Plan × List Answer → Plan × List Answer
  | (P, answers) =>
    ((P.perform (program answers)).1, (P.perform (program answers)).2 :: answers)

/-- What so many calls of a program come to on a plan. -/
def Plan.play (program : List Answer → Call) (P : Plan) : Nat → Plan × List Answer
  | 0 => (P, [])
  | n + 1 => Plan.turn program (P.play program n)

namespace Session

variable {arena : Arena} {s s' : Session} {h : Heap} {P : Plan} {call : Call} {answer : Answer}
variable {answers answers' : List Answer} {program : List Answer → Call}

/-! ## Runs of a program -/

/-- The live pointers after a call. -/
def liveAfter (live : List Ptr) (call : Call) (answer : Answer) : List Ptr :=
  let new := answer.toOption.join
  match call with
  | .tryAllocate _ | .allocate _ | .tryZeroedAllocate _ _ | .zeroedAllocate _ _ =>
    exchange live none new
  | .release ptr => exchange live ptr none
  | .resize ptr size => if new.isSome ∨ size = 0 then exchange live ptr new else live
  | .write _ _ => live

/-- The live pointers after the calls of a program. -/
def liveBy (program : List Answer → Call) : List Answer → List Ptr
  | [] => []
  | answer :: answers => liveAfter (liveBy program answers) (program answers) answer

/-- The program has made its calls on the heap, each a function of the answers to the earlier ones,
newest first, and has written into live payloads in between. -/
inductive Played (program : List Answer → Call) (h : Heap) : List Answer → Session → Prop where
  | start : Played program h [] ⟨h, []⟩
  | write {answers : List Answer} {s s' : Session} {p : Ptr} {f : Nat → UInt8} {answer : Answer}
      (hplayed : Played program h answers s) (hpermit : s.Permits (.write p f))
      (hperform : s.perform (.write p f) = .ok (s', answer)) : Played program h answers s'
  | call {answers : List Answer} {s s' : Session} {answer : Answer}
      (hplayed : Played program h answers s) (hpermit : s.Permits (program answers))
      (hperform : s.perform (program answers) = .ok (s', answer)) :
      Played program h (answer :: answers) s'

lemma live_of_perform (hperform : s.perform call = .ok (s', answer)) :
    s'.live = liveAfter s.live call answer := by
  cases call <;> obtain ⟨_, -, hs'⟩ := bind_eq_ok_iff.1 hperform <;>
    obtain ⟨rfl, rfl⟩ := Prod.mk.inj (Except.ok.inj hs')
  case tryAllocate | tryZeroedAllocate => rw [liveAfter, toOption_map_some]
  all_goals rfl

/-- **Runs follow plans.**  After each call the heap follows the plan that the calls alone lead to,
and the answers are those on the plan. -/
lemma Played.follows (hmade : Heap.Made arena h) (hf : h.Follows P)
    (hplayed : Played program h answers s) :
    Reachable arena s ∧ s.live = liveBy program answers ∧
      ∃ P', P.play program answers.length = (P', answers) ∧ s.heap.Follows P' := by
  induction hplayed with
  | start => exact ⟨.made hmade, rfl, P, rfl, hf⟩
  | write hplayed hpermit hperform ih =>
    -- the plan stays
    obtain ⟨hs, hlive, P', hplay, hf⟩ := ih
    obtain ⟨_, _, hh⟩ := hs.holds
    obtain ⟨s', hwrite, hf'⟩ := hf.perform (hh.pointer_of_follows hf hpermit)
    obtain ⟨rfl, -⟩ := Prod.mk.inj (Except.ok.inj (hwrite.symm.trans hperform))
    exact ⟨hs.step hpermit hperform, (live_of_perform hperform).trans hlive, P', hplay, hf'⟩
  | call hplayed hpermit hperform ih =>
    obtain ⟨hs, hlive, P', hplay, hf⟩ := ih
    obtain ⟨_, _, hh⟩ := hs.holds
    obtain ⟨s', hcall, hf'⟩ := hf.perform (hh.pointer_of_follows hf hpermit)
    obtain ⟨rfl, rfl⟩ := Prod.mk.inj (Except.ok.inj (hcall.symm.trans hperform))
    refine ⟨hs.step hpermit hperform, ?_, _, ?_, hf'⟩
    · rw [live_of_perform hperform, hlive]
      rfl
    · rw [List.length_cons, Plan.play, hplay]
      rfl

/-! ## Two runs -/

/-- Nothing but the bytes of payloads can tell the sessions apart: not the live pointers, the size
of the arena, the blocks, the free lists and their order, or the numbers, and not what any call
comes to. -/
structure Alike (s s' : Session) : Prop where
  live : s.live = s'.live
  size : s.heap.memory.size = s'.heap.memory.size
  intact : ∃ blocks queues, s.heap.Intact blocks queues ∧ s'.heap.Intact blocks queues
  stats : ∃ stats, s.heap.stats = .ok stats ∧ s'.heap.stats = .ok stats
  perform : ∀ call, s.Permits call → ∃ t t' answer,
    s.perform call = .ok (t, answer) ∧ s'.perform call = .ok (t', answer)

lemma stats_of_follows (hf : s.heap.Follows P) :
    s.heap.stats = .ok (P.blocks.foldl Stats.count { arenaBytes := P.size }) := by
  rw [Heap.stats, hf.blocks_eq, Fault.ok_bind, hf.size_eq]
  rfl

lemma alike_of_follows {arena' : Arena} (hs : Reachable arena s) (hs' : Reachable arena' s')
    (hlive : s.live = s'.live) (hf : s.heap.Follows P) (hf' : s'.heap.Follows P) : Alike s s' where
  live := hlive
  size := hf.size_eq.trans hf'.size_eq.symm
  intact := ⟨_, _, hf.toSound.intact, hf'.toSound.intact⟩
  stats := ⟨_, stats_of_follows hf, stats_of_follows hf'⟩
  perform call hpermit := by
    have hpermit' : s'.Permits call := fun p hp => hlive ▸ hpermit p hp
    obtain ⟨_, _, hh⟩ := hs.holds
    obtain ⟨_, _, hh'⟩ := hs'.holds
    obtain ⟨t, hperform, -⟩ := hf.perform (hh.pointer_of_follows hf hpermit)
    obtain ⟨t', hperform', -⟩ := hf'.perform (hh'.pointer_of_follows hf' hpermit')
    exact ⟨t, t', _, hperform, hperform'⟩

/-- **Payloads do not matter.**  Let two runs of a program on a new heap have made the same number
of calls, and let each have written what it likes into live payloads in between.  Then their calls
came to the same, and nothing but the bytes of payloads can tell the two sessions apart. -/
theorem Played.alike (hmade : Heap.Made arena h) (hplayed : Played program h answers s)
    (hplayed' : Played program h answers' s') (hlength : answers.length = answers'.length) :
    answers = answers' ∧ Alike s s' := by
  obtain ⟨_, _, hh⟩ := holds_made hmade
  have hf := hh.sound.follows
  obtain ⟨hs, hlive, P₁, hplay₁, hf₁⟩ := hplayed.follows hmade hf
  obtain ⟨hs', hlive', P₂, hplay₂, hf₂⟩ := hplayed'.follows hmade hf
  rw [← hlength, hplay₁] at hplay₂
  obtain ⟨rfl, rfl⟩ := Prod.mk.inj hplay₂
  exact ⟨rfl, alike_of_follows hs hs' (hlive.trans hlive'.symm) hf₁ hf₂⟩

lemma exists_of_attempt_cons {calls : List Call} (hattempt : s.attempt (call :: calls) = some s') :
    s.Permits call ∧ ∃ t answer, s.perform call = .ok (t, answer) ∧ t.attempt calls = some s' := by
  rw [attempt] at hattempt
  split at hattempt
  · next hpermit =>
    obtain ⟨⟨t, answer⟩, hperform, hrest⟩ := Option.bind_eq_some_iff.1 hattempt
    exact ⟨hpermit, t, answer, eq_ok_of_toOption hperform, hrest⟩
  · cases hattempt

/-- A run that asks for eight bytes, fills them, and asks for eight more. -/
lemma exists_played_of_fill (byte : UInt8) {a : List Ptr × UInt8}
    (hview : ((Heap.withConfig ⟨96, 1, 1024⟩ 1024).outcome.toOption.bind Except.toOption).bind
      (fun h => (attempt ⟨h, []⟩ [.tryAllocate 8, .write ⟨32⟩ (fun _ => byte), .tryAllocate 8]).bind
        fun s => some (s.live, s.heap.memory.byte 40)) = some a) :
    ∃ h answers s, (Heap.withConfig ⟨96, 1, 1024⟩ 1024).outcome = .ok (.ok h) ∧
      Played (fun _ => .tryAllocate 8) h answers s ∧ answers.length = 2 ∧
      (s.live, s.heap.memory.byte 40) = a := by
  obtain ⟨h, s, hmake, hattempt, -, hview⟩ := exists_of_attempt _ _ _ _ hview
  obtain ⟨hpermit₁, s₁, answer₁, hperform₁, hattempt⟩ := exists_of_attempt_cons hattempt
  obtain ⟨hpermit₂, s₂, answer₂, hperform₂, hattempt⟩ := exists_of_attempt_cons hattempt
  obtain ⟨hpermit₃, s₃, answer₃, hperform₃, hattempt⟩ := exists_of_attempt_cons hattempt
  obtain rfl := Option.some.inj hattempt
  exact ⟨h, _, _, hmake,
    .call (.write (.call .start hpermit₁ hperform₁) hpermit₂ hperform₂) hpermit₃ hperform₃, rfl,
    Option.some.inj hview⟩

/-- Two runs that fill a payload with different bytes. -/
theorem Played.alike_filled : ∃ s s' : Session, s.live = [⟨64⟩, ⟨32⟩] ∧
    s.heap.memory.byte 40 = 170 ∧ s'.heap.memory.byte 40 = 187 ∧ Alike s s' := by
  obtain ⟨h, answers, s, hmake, hplayed, hlength, hview⟩ :=
    exists_played_of_fill 170 (a := ([⟨64⟩, ⟨32⟩], 170)) (by decide +kernel)
  obtain ⟨h', answers', s', hmake', hplayed', hlength', hview'⟩ :=
    exists_played_of_fill 187 (a := ([⟨64⟩, ⟨32⟩], 187)) (by decide +kernel)
  obtain rfl := Except.ok.inj (Except.ok.inj (hmake.symm.trans hmake'))
  obtain ⟨hlive, hbyte⟩ := Prod.mk.inj hview
  obtain ⟨-, halike⟩ := Played.alike (.withConfig _ _ hmake) hplayed hplayed'
    (hlength.trans hlength'.symm)
  exact ⟨s, s', hlive, hbyte, (Prod.mk.inj hview').2, halike⟩

end Session

end BlockHeap
