import BlockHeap.Proofs.Replaying

/-!
# What replays come to

A replay carries out one operation after the other, and `Replay.Underway` is kept by each.  So a run
of operations is either carried out, or stops at one that fails with the heap in front of it
(`Replay.Ran`, `Replay.exists_run`).  Since all checks on the way find nothing, it makes no
difference whether they are made.

Four results follow for replays on any heap that a program can come to.  They have a result, and the
program finds its older blocks as it left them (`Session.Reachable.replay_answers`).  Errors about
numbers of blocks, and all numbers of the summary, are those of the demand that the trace itself
makes (`Session.Reachable.replay_follows_demand`).  A replay that fails has not touched the heap
with the operation at which it fails (`Session.Reachable.replay_stops_unharmed`).  And the peak
always fits into the arena (`Session.Reachable.replay_peak_fits`).
-/

namespace BlockHeap

open Session

namespace Replay

variable {arena : Arena} {s : Session} {h h' : Heap} {ledger ledger' : Ledger} {M : Demand}
variable {ops xs ys : List (Nat × Operation)} {line : Nat} {op : Operation} {checkEach : Bool}
variable {error : ReplayError} {result : Except ReplayError Ledger}

/-! ## Steps -/

lemma verify_eq {live : List Ptr} (hs : Reachable arena ⟨h, live⟩) (line : Nat) :
    (verify h line).outcome = .ok (.ok ()) := by
  obtain ⟨blocks, free, hh⟩ := hs.holds
  obtain ⟨listing, hinspect⟩ := hh.sound.inspect_eq false
  simp only [verify, Traced.outcome_bind, (h.outcome_check false).trans hinspect, Fault.ok_bind]
  rfl

lemma Underway.tick (hu : Underway arena s h ledger M) : Underway arena s h ledger.tick M :=
  ⟨hu.backed, ⟨hu.tallies.entries, hu.tallies.liveBytes, hu.tallies.total_le⟩, hu.room⟩

/-- **One step.**  Whether the heap is checked after the operation makes no difference. -/
lemma Underway.step (hu : Underway arena s h ledger M) (line : Nat) (op : Operation) :
    ∃ h' result, (∀ checkEach, (Replay.step h ledger checkEach line op).outcome =
        .ok (h', result.map Ledger.tick)) ∧
      Applied arena s h ledger M line op h' result := by
  obtain ⟨h', result, happly, happlied⟩ := hu.apply line op
  refine ⟨h', result, fun checkEach => ?_, happlied⟩
  simp only [Replay.step, Traced.outcome_bind, Traced.outcome_emit, Fault.ok_bind, happly]
  cases happlied with
  | carried hallowed hcarried =>
    have hverify := verify_eq hcarried.underway.backed.reachable line
    cases checkEach with
    | false => rfl
    | true =>
      simp only [if_true, Traced.outcome_bind, hverify, Fault.ok_bind]
      rfl
  | refused hallowed error hrefusal => rfl
  | conflict hnot => rfl

/-! ## Runs -/

/-- A run of more operations goes on where the run of the first ones has ended, unless it failed. -/
lemma run_append (checkEach : Bool) (xs ys : List (Nat × Operation)) (h : Heap)
    (ledger : Ledger) :
    (run checkEach (xs ++ ys) h ledger).outcome =
      (run checkEach xs h ledger).outcome >>= fun x => match x with
        | (h', .error error) => .ok (h', .error error)
        | (h', .ok ledger') => (run checkEach ys h' ledger').outcome := by
  induction xs generalizing h ledger with
  | nil => rfl
  | cons entry xs ih =>
    simp only [List.cons_append, run, Traced.outcome_bind, bind_assoc]
    congr
    funext ⟨h₁, result⟩
    cases result with
    | error error => rfl
    | ok ledger₁ => exact ih h₁ ledger₁

lemma run_append_of_ok (hrun : (run checkEach xs h ledger).outcome = .ok (h', .ok ledger')) :
    (run checkEach (xs ++ ys) h ledger).outcome = (run checkEach ys h' ledger').outcome := by
  rw [run_append, hrun, Fault.ok_bind]

/-- What comes after an operation that fails is never looked at. -/
lemma run_append_of_error (hrun : (run checkEach xs h ledger).outcome = .ok (h', .error error)) :
    (run checkEach (xs ++ ys) h ledger).outcome = .ok (h', .error error) := by
  rw [run_append, hrun, Fault.ok_bind]

lemma run_singleton (hstep : (step h ledger checkEach line op).outcome = .ok (h', result)) :
    (run checkEach [(line, op)] h ledger).outcome = .ok (h', result) := by
  simp only [run, Traced.outcome_bind, hstep, Fault.ok_bind]
  cases result <;> rfl

lemma Underway.start (hs : Reachable arena s) : Underway arena s s.heap {} ∅ := by
  obtain ⟨blocks, free, hh⟩ := hs.holds
  have hroom := hs.occupancy
  exact
    { backed := ⟨hs, fun p hp => hh.released_nil.kept p hp List.not_mem_nil, nofun⟩
      tallies := Ledger.tallies_empty
      room := by
        show 0 + 48 ≤ _
        omega }

/-- **What a run comes to.**  Either all operations are carried out, and the ledger tells what they
ask for; or they are up to one that fails, and the heap is the one in front of that. -/
inductive Ran (arena : Arena) (s : Session) (ops : List (Nat × Operation)) :
    Heap → Except ReplayError Ledger → Prop where
  | done {h : Heap} {ledger : Ledger} (hu : Underway arena s h ledger (Demand.after ops))
      (hops : ledger.ops = ops.length)
      (hpeak : IsGreatest (Demand.totals ops) ledger.peakPayload) : Ran arena s ops h (.ok ledger)
  | failed {h : Heap} (pre post : List (Nat × Operation)) (line : Nat) (op : Operation)
      (ledger : Ledger) (error : ReplayError) (hsplit : ops = pre ++ (line, op) :: post)
      (hu : Underway arena s h ledger (Demand.after pre))
      (hbefore : ∀ checkEach, (run checkEach pre s.heap {}).outcome = .ok (h, .ok ledger))
      (hhere : ∀ checkEach, (run checkEach (pre ++ [(line, op)]) s.heap {}).outcome =
        .ok (h, .error error))
      (herror : error.IsConflict ∨ error.IsRefusal) : Ran arena s ops h (.error error)

/-- **Runs.**  They come to an end, and to the same end with checks and without. -/
lemma exists_run (hs : Reachable arena s) (ops : List (Nat × Operation)) :
    ∃ h result, (∀ checkEach, (run checkEach ops s.heap {}).outcome = .ok (h, result)) ∧
      Ran arena s ops h result := by
  -- from the end, as every run is to start with the heap of `s` and an empty ledger
  induction ops using List.reverseRecOn with
  | nil => exact ⟨s.heap, _, fun _ => rfl, .done (.start hs) rfl Demand.isGreatest_totals_nil⟩
  | append_singleton ops entry ih =>
    obtain ⟨line, op⟩ := entry
    obtain ⟨h, result, hrun, hran⟩ := ih
    cases hran with
    | failed pre post line' op' ledger error hsplit hu hbefore hhere herror =>
      refine ⟨h, _, fun checkEach => run_append_of_error (hrun checkEach),
        .failed pre (post ++ [(line, op)]) line' op' ledger error ?_ hu hbefore hhere herror⟩
      rw [hsplit, List.append_assoc, List.cons_append]
    | @done ledger hu hops hpeak =>
      obtain ⟨h', result, hstep, happlied⟩ := hu.step line op
      have hrun' : ∀ checkEach, (run checkEach (ops ++ [(line, op)]) s.heap {}).outcome =
          .ok (h', result.map Ledger.tick) := fun checkEach =>
        (run_append_of_ok (hrun checkEach)).trans (run_singleton (hstep checkEach))
      refine ⟨h', _, hrun', ?_⟩
      cases happlied with
      | carried hallowed hcarried =>
        refine .done ?_ ?_ ?_
        · rw [Demand.after_concat]
          exact hcarried.underway.tick
        · rw [List.length_append, ← hops, ← hcarried.ops]
          rfl
        · rw [Demand.totals_concat, Demand.after_concat]
          exact (hcarried.peakPayload.trans (max_comm ..)) ▸ hpeak.insert _
      | refused hallowed error hrefusal =>
        exact .failed ops [] line op ledger error rfl hu hrun hrun' (.inr hrefusal)
      | conflict hnot =>
        exact .failed ops [] line op ledger _ rfl hu hrun hrun' (.inl (op.isConflict_conflict line))

lemma Ran.error_cases (hran : Ran arena s ops h result) (hresult : result = .error error) :
    error.IsConflict ∨ error.IsRefusal := by
  cases hran with
  | done => cases hresult
  | failed pre post line op ledger error' hsplit hu hbefore hhere herror =>
    cases hresult
    exact herror

/-- Wherever it ends, a run was under way. -/
lemma Ran.underway (hran : Ran arena s ops h result) : ∃ ledger M, Underway arena s h ledger M := by
  cases hran with
  | done hu => exact ⟨_, _, hu⟩
  | failed pre post line op ledger error hsplit hu => exact ⟨_, _, hu⟩

end Replay

/-! ## Replays -/

/-- The summary of a replay that ended with this ledger and this heap. -/
def Ledger.summary (ledger : Ledger) (h : Heap) : Summary :=
  ⟨ledger.ops, ledger.peakPayload, h.memory.size⟩

namespace Heap

variable {h h' : Heap} {trace : Trace} {checkEach : Bool} {error : ReplayError} {summary : Summary}

lemma outcome_replay (h : Heap) (trace : Trace) (checkEach : Bool) :
    (h.replay trace checkEach).outcome = (Replay.run checkEach trace.ops h {}).outcome.map
      fun x => (x.1, x.2.map fun ledger => ledger.summary x.1) := by
  simp only [Heap.replay, Traced.outcome_bind, Traced.outcome_emit, Fault.ok_bind]
  rcases (Replay.run checkEach trace.ops h {}).outcome with fault | ⟨h', _ | ledger⟩ <;> rfl

lemma replay_eq_error_iff : (h.replay trace checkEach).outcome = .ok (h', .error error) ↔
    (Replay.run checkEach trace.ops h {}).outcome = .ok (h', .error error) := by
  rw [outcome_replay]
  constructor
  · intro hreplay
    rcases hrun : (Replay.run checkEach trace.ops h {}).outcome with fault | ⟨h₁, _ | ledger⟩ <;>
      rw [hrun] at hreplay <;> cases hreplay
    rfl
  · intro hrun
    rw [hrun]
    rfl

lemma replay_eq_ok_iff : (h.replay trace checkEach).outcome = .ok (h', .ok summary) ↔
    ∃ ledger, (Replay.run checkEach trace.ops h {}).outcome = .ok (h', .ok ledger) ∧
      ledger.summary h' = summary := by
  rw [outcome_replay]
  constructor
  · intro hreplay
    rcases hrun : (Replay.run checkEach trace.ops h {}).outcome with fault | ⟨h₁, _ | ledger⟩ <;>
      rw [hrun] at hreplay <;> cases hreplay
    exact ⟨ledger, rfl, rfl⟩
  · rintro ⟨ledger, hrun, rfl⟩
    rw [hrun]
    rfl

/-- The replay fails at the operation with this index: those before it can be carried out. -/
structure FailsAt (h : Heap) (trace : Trace) (checkEach : Bool) (k : Nat) (h' : Heap)
    (error : ReplayError) : Prop where
  whole : (h.replay trace checkEach).outcome = .ok (h', .error error)
  before : ∃ h₁ summary, (h.replay (trace.take k) checkEach).outcome = .ok (h₁, .ok summary)
  here : (h.replay (trace.take (k + 1)) checkEach).outcome = .ok (h', .error error)

lemma replay_of_take {k : Nat}
    (hreplay : (h.replay (trace.take k) checkEach).outcome = .ok (h', .error error)) :
    (h.replay trace checkEach).outcome = .ok (h', .error error) := by
  rw [replay_eq_error_iff] at hreplay ⊢
  rw [← List.take_append_drop k trace.ops]
  exact Replay.run_append_of_error hreplay

/-- What there is to know of a replay that was carried out from one heap to another.  The peak is
the greatest of the sums that the prefixes of the trace ask for, and the blocks with any bytes are
allocated in addition to what was. -/
structure Replayed (h h' : Heap) (trace : Trace) (summary : Summary) : Prop where
  ops : summary.ops = trace.length
  peakPayload : IsGreatest (Demand.totals trace.ops) summary.peakPayload
  arenaBytes : summary.arenaBytes = h'.memory.size
  allocatedBlocks : ∃ stats stats', h.stats = .ok stats ∧ h'.stats = .ok stats' ∧
    stats'.allocatedBlocks = stats.allocatedBlocks + trace.demand.sized

end Heap

namespace Replay

variable {arena : Arena} {s : Session} {h h' : Heap} {ledger : Ledger} {M : Demand}
variable {trace : Trace} {line k : Nat} {op : Operation} {checkEach : Bool} {error : ReplayError}
variable {summary : Summary}

lemma exists_ledger (hs : Reachable arena s)
    (hreplay : (s.heap.replay trace checkEach).outcome = .ok (h', .ok summary)) :
    ∃ ledger, (∀ checkEach, (run checkEach trace.ops s.heap {}).outcome = .ok (h', .ok ledger)) ∧
      ledger.summary h' = summary ∧ Underway arena s h' ledger trace.demand ∧
      ledger.ops = trace.length ∧ IsGreatest (Demand.totals trace.ops) ledger.peakPayload := by
  obtain ⟨ledger, hledger, hsummary⟩ := Heap.replay_eq_ok_iff.1 hreplay
  obtain ⟨h₁, result, hrun, hran⟩ := exists_run hs trace.ops
  obtain ⟨rfl, rfl⟩ := Prod.mk.inj (Except.ok.inj ((hrun checkEach).symm.trans hledger))
  cases hran with
  | done hu hops hpeak => exact ⟨ledger, hrun, hsummary, hu, hops, hpeak⟩

lemma exists_next (hs : Reachable arena s) (hop : trace.ops[k]? = some (line, op))
    (hbefore : (s.heap.replay (trace.take k) checkEach).outcome = .ok (h, .ok summary)) :
    ∃ ledger h' result, Applied arena s h ledger (trace.take k).demand line op h' result ∧
      ∀ checkEach, (run checkEach (trace.take (k + 1)).ops s.heap {}).outcome =
        .ok (h', result.map Ledger.tick) := by
  obtain ⟨ledger, hrun, -, hu, -, -⟩ := exists_ledger hs hbefore
  obtain ⟨h', result, hstep, happlied⟩ := hu.step line op
  refine ⟨ledger, h', result, happlied, fun checkEach => ?_⟩
  have htake : (trace.take (k + 1)).ops = (trace.take k).ops ++ [(line, op)] := by
    rw [Trace.take, List.take_add_one, hop]
    rfl
  rw [htake]
  exact (run_append_of_ok (hrun checkEach)).trans (run_singleton (hstep checkEach))

/-- A replay that fails does so at one of its operations. -/
lemma exists_failsAt (hs : Reachable arena s)
    (hreplay : (s.heap.replay trace checkEach).outcome = .ok (h', .error error)) :
    ∃ k < trace.length, s.heap.FailsAt trace checkEach k h' error := by
  obtain ⟨h, result, hrun, hran⟩ := exists_run hs trace.ops
  obtain ⟨rfl, rfl⟩ := Prod.mk.inj (Except.ok.inj
    ((hrun checkEach).symm.trans (Heap.replay_eq_error_iff.1 hreplay)))
  cases hran with
  | failed pre post line op ledger error hsplit hu hbefore hhere herror =>
    refine ⟨pre.length, ?_, hreplay, ⟨h, ledger.summary h, ?_⟩, ?_⟩
    · rw [Trace.length, hsplit]
      simp
    · refine Heap.replay_eq_ok_iff.2 ⟨ledger, ?_, rfl⟩
      rw [Trace.take, hsplit, List.take_left]
      exact hbefore checkEach
    · refine Heap.replay_eq_error_iff.2 ?_
      rw [Trace.take, hsplit, List.take_length_add_append]
      exact hhere checkEach

/-- Where a replay fails, the operations before have led to the heap that it leaves, and the next
one is the one to blame. -/
lemma exists_of_failsAt (hs : Reachable arena s)
    (hfails : s.heap.FailsAt trace checkEach k h' error) :
    ∃ line op ledger summary, trace.ops[k]? = some (line, op) ∧
      (s.heap.replay (trace.take k) checkEach).outcome = .ok (h', .ok summary) ∧
      Applied arena s h' ledger (trace.take k).demand line op h' (.error error) := by
  obtain ⟨h, summary, hbefore⟩ := hfails.before
  have hhere := Heap.replay_eq_error_iff.1 hfails.here
  cases hop : trace.ops[k]? with
  | none =>
    -- there would be no operation that could have failed
    obtain ⟨ledger, hrun, -⟩ := Heap.replay_eq_ok_iff.1 hbefore
    have htake : (trace.take (k + 1)).ops = (trace.take k).ops := by
      rw [Trace.take, List.take_add_one, hop]
      exact List.append_nil _
    rw [htake, hrun] at hhere
    cases hhere
  | some entry =>
    obtain ⟨line, op⟩ := entry
    obtain ⟨ledger, h₂, result, happlied, hnext⟩ := exists_next hs hop hbefore
    obtain ⟨rfl, hresult⟩ := Prod.mk.inj (Except.ok.inj ((hnext checkEach).symm.trans hhere))
    cases happlied with
    | carried hallowed hcarried => cases hresult
    | refused hallowed error' hrefusal =>
      cases hresult
      exact ⟨line, op, ledger, summary, rfl, hbefore, .refused hallowed _ hrefusal⟩
    | conflict hnot =>
      cases hresult
      exact ⟨line, op, ledger, summary, rfl, hbefore, .conflict hnot⟩

/-- What a replay that was carried out has made of the heap. -/
lemma replayed_of_ok (hs : Reachable arena s)
    (hreplay : (s.heap.replay trace checkEach).outcome = .ok (h', .ok summary)) :
    s.heap.Replayed h' trace summary := by
  obtain ⟨ledger, -, rfl, hu, hops, hpeak⟩ := exists_ledger hs hreplay
  refine ⟨hops, hpeak, rfl, ?_⟩
  obtain ⟨stats, hstats, hcount⟩ := hs.exists_stats
  obtain ⟨stats', hstats', hcount'⟩ := hu.backed.reachable.exists_stats
  refine ⟨stats, stats', hstats, hstats', ?_⟩
  rw [hcount', hcount, hu.tallies.sized_eq, ← hu.backed.length_pointers, Nat.add_comm]
  exact (List.length_append : (pointers ledger.live ++ s.live).length = _)

end Replay

namespace Session

variable {arena : Arena} {s : Session} {h' : Heap} {trace : Trace} {checkEach : Bool}
variable {summary : Summary}

/-- A replay on a small heap that goes well for one operation and not for two. -/
lemma exists_small_replay : ∃ s h h', Reachable (.owned 1024 1024) s ∧ s.live = [⟨64⟩, ⟨32⟩] ∧
    (s.heap.replay ⟨[(1, .allocate 7 8)]⟩ true).outcome = .ok (h, .ok ⟨1, 8, 128⟩) ∧
    (s.heap.replay ⟨[(1, .allocate 7 8), (2, .resize 7 2000)]⟩ true).outcome =
      .ok (h', .error (.resize 2 7 2000)) := by
  obtain ⟨-, s, -, -, hs, hview⟩ := exists_of_attempt ⟨96, 1, 1024⟩ 1024
    [.tryAllocate 8, .tryAllocate 8]
    (fun s => (s.heap.replay ⟨[(1, .allocate 7 8)]⟩ true).outcome.toOption.bind fun x =>
      (s.heap.replay ⟨[(1, .allocate 7 8), (2, .resize 7 2000)]⟩ true).outcome.toOption.map fun y =>
        (s.live, x.2, y.2))
    (a := ([⟨64⟩, ⟨32⟩], .ok ⟨1, 8, 128⟩, .error (.resize 2 7 2000))) (by decide +kernel)
  obtain ⟨⟨h, result⟩, hone, hview⟩ := Option.bind_eq_some_iff.1 hview
  obtain ⟨⟨h', result'⟩, htwo, hview⟩ := Option.map_eq_some_iff.1 hview
  obtain ⟨hlive, hresults⟩ := Prod.mk.inj hview
  obtain ⟨rfl, rfl⟩ := Prod.mk.inj hresults
  exact ⟨s, h, h', hs, hlive, eq_ok_of_toOption hone, eq_ok_of_toOption htwo⟩

/-- **Replays have results.**  Whatever a program has done with a heap, any trace can be replayed on
it, with checks or without, to the same result and the same heap.  The result is no damaged payload
and no broken heap.  The heap is again one that the program can come to, and the pointers that it
had before have their payloads. -/
theorem Reachable.replay_answers (hs : Reachable arena s) (trace : Trace) :
    ∃ h' result live,
      (∀ checkEach, (s.heap.replay trace checkEach).outcome = .ok (h', result)) ∧
      (∀ error, result = .error error → error.IsConflict ∨ error.IsRefusal) ∧
      Reachable arena ⟨h', live⟩ ∧ ∀ p ∈ s.live, Unaffected s ⟨h', live⟩ p := by
  obtain ⟨h', result, hrun, hran⟩ := Replay.exists_run hs trace.ops
  obtain ⟨ledger, M, hu⟩ := hran.underway
  refine ⟨h', result.map fun ledger => ledger.summary h', _, fun checkEach => ?_, ?_,
    hu.backed.reachable, hu.backed.guests⟩
  · rw [Heap.outcome_replay, hrun]
    rfl
  · intro error herror
    apply hran.error_cases
    cases result with
    | error e =>
      obtain rfl : e = error := Except.error.inj herror
      rfl
    | ok ledger => cases herror

/-- In an arena of 1024 bytes a replay fails that asks for 2000, and a live block has its
payload. -/
theorem Reachable.replay_answers_small : ∃ (s : Session) (h' : Heap) (live : List Ptr),
    s.live = [⟨64⟩, ⟨32⟩] ∧
      (∀ checkEach,
        (s.heap.replay ⟨[(1, .allocate 7 8), (2, .resize 7 2000)]⟩ checkEach).outcome =
          .ok (h', .error (.resize 2 7 2000))) ∧
      Unaffected s ⟨h', live⟩ ⟨32⟩ := by
  obtain ⟨s, -, h₁, hs, hlive, -, htwo⟩ := exists_small_replay
  obtain ⟨h', result, live, hreplay, -, -, hkept⟩ :=
    Reachable.replay_answers hs ⟨[(1, .allocate 7 8), (2, .resize 7 2000)]⟩
  obtain ⟨rfl, rfl⟩ := Prod.mk.inj (Except.ok.inj ((hreplay true).symm.trans htwo))
  exact ⟨s, h', live, hlive, hreplay, hkept ⟨32⟩ (by simp [hlive])⟩

/-- **Replays follow the demand.**  A replay fails for the number of a block at exactly the
operation in front of which all went well and which is not allowed by what was asked for until then;
the error names the line and the block of this operation, and there is no other way to come to such
an error.  A replay that is carried out comes to a summary of what the trace asks for, and leaves
one more allocated block for each block with any bytes that it asks for in the end. -/
theorem Reachable.replay_follows_demand (hs : Reachable arena s) (trace : Trace)
    (checkEach : Bool) :
    (∀ h' error, (s.heap.replay trace checkEach).outcome = .ok (h', .error error) →
      error.IsConflict → ∃ k < trace.length, s.heap.FailsAt trace checkEach k h' error) ∧
    (∀ k line op, trace.ops[k]? = some (line, op) → ∀ error,
      ((∃ h', s.heap.FailsAt trace checkEach k h' error) ∧ error.IsConflict ↔
        (∃ h' summary, (s.heap.replay (trace.take k) checkEach).outcome = .ok (h', .ok summary)) ∧
          ¬ op.Allowed (trace.take k).demand ∧ error = op.conflict line)) ∧
    ∀ h' summary, (s.heap.replay trace checkEach).outcome = .ok (h', .ok summary) →
      s.heap.Replayed h' trace summary := by
  refine ⟨fun h' error hreplay _ => Replay.exists_failsAt hs hreplay,
    fun k line op hop error => ⟨?_, ?_⟩, fun h' summary => Replay.replayed_of_ok hs⟩
  · rintro ⟨⟨h', hfails⟩, hconflict⟩
    obtain ⟨line', op', ledger, summary, hop', hbefore, happlied⟩ :=
      Replay.exists_of_failsAt hs hfails
    obtain ⟨rfl, rfl⟩ := Prod.mk.inj (Option.some.inj (hop.symm.trans hop'))
    refine ⟨⟨h', summary, hbefore⟩, ?_⟩
    cases happlied with
    | refused hallowed error hrefusal => exact absurd hconflict hrefusal.not_isConflict
    | conflict hnot => exact ⟨hnot, rfl⟩
  · rintro ⟨⟨h, summary, hbefore⟩, hnot, rfl⟩
    obtain ⟨ledger, h', result, happlied, hnext⟩ := Replay.exists_next hs hop hbefore
    cases happlied with
    | carried hallowed hcarried => exact absurd hallowed hnot
    | refused hallowed error hrefusal => exact absurd hallowed hnot
    | conflict _ =>
      have hhere := Heap.replay_eq_error_iff.2 (hnext checkEach)
      exact ⟨⟨h, Heap.replay_of_take hhere, ⟨h, summary, hbefore⟩, hhere⟩,
        op.isConflict_conflict line⟩

/-- The second block of a number is one too many. -/
theorem Reachable.replay_follows_demand_twice : ∃ (s : Session) (h' : Heap),
    s.live = [⟨64⟩, ⟨32⟩] ∧
      s.heap.FailsAt ⟨[(1, .allocate 7 8), (2, .allocate 7 8)]⟩ true 1 h' (.duplicateId 2 7) := by
  obtain ⟨s, h, -, hs, hlive, hone, -⟩ := exists_small_replay
  obtain ⟨-, hfails, -⟩ :=
    Reachable.replay_follows_demand hs ⟨[(1, .allocate 7 8), (2, .allocate 7 8)]⟩ true
  have hnot : ¬ (Operation.allocate 7 8).Allowed (Demand.after [(1, .allocate 7 8)]) :=
    not_not_intro (Finmap.mem_insert.2 (.inl rfl))
  obtain ⟨⟨h', hat⟩, -⟩ :=
    (hfails 1 2 (.allocate 7 8) rfl (.duplicateId 2 7)).2 ⟨⟨h, _, hone⟩, hnot, rfl⟩
  exact ⟨s, h', hlive, hat⟩

/-- **Replays stop unharmed.**  A replay that fails does so at one of its operations, and the heap
that it leaves, bytes and heads included, is the one that the operations before it alone have led
to. -/
theorem Reachable.replay_stops_unharmed (hs : Reachable arena s) (trace : Trace)
    (checkEach : Bool) :
    (∀ h' error, (s.heap.replay trace checkEach).outcome = .ok (h', .error error) →
      ∃ k < trace.length, s.heap.FailsAt trace checkEach k h' error) ∧
    ∀ k h' error, s.heap.FailsAt trace checkEach k h' error →
      ∃ summary, (s.heap.replay (trace.take k) checkEach).outcome = .ok (h', .ok summary) := by
  refine ⟨fun h' error hreplay => Replay.exists_failsAt hs hreplay, ?_⟩
  intro k h' error hfails
  obtain ⟨-, -, -, summary, -, hbefore, -⟩ := Replay.exists_of_failsAt hs hfails
  exact ⟨summary, hbefore⟩

/-- A block that cannot be resized leaves the heap as it was after the operations before. -/
theorem Reachable.replay_stops_unharmed_small : ∃ (s : Session) (h' : Heap),
    s.live = [⟨64⟩, ⟨32⟩] ∧
      (s.heap.replay ⟨[(1, .allocate 7 8), (2, .resize 7 2000)]⟩ true).outcome =
        .ok (h', .error (.resize 2 7 2000)) ∧
      ∃ k < 2, ∃ summary,
        (s.heap.replay (Trace.take ⟨[(1, .allocate 7 8), (2, .resize 7 2000)]⟩ k) true).outcome =
          .ok (h', .ok summary) := by
  obtain ⟨s, -, h', hs, hlive, -, htwo⟩ := exists_small_replay
  obtain ⟨hfails, hstops⟩ :=
    Reachable.replay_stops_unharmed hs ⟨[(1, .allocate 7 8), (2, .resize 7 2000)]⟩ true
  obtain ⟨k, hk, hat⟩ := hfails h' _ htwo
  exact ⟨s, h', hlive, htwo, k, hk, hstops k h' _ hat⟩

/-- **The peak fits.**  The most bytes that were asked for at one time, the sentinels and the tags
of one block fit into the arena as it is in the end. -/
theorem Reachable.replay_peak_fits (hs : Reachable arena s)
    (hreplay : (s.heap.replay trace checkEach).outcome = .ok (h', .ok summary)) :
    summary.peakPayload + 48 ≤ summary.arenaBytes := by
  obtain ⟨ledger, -, rfl, hu, -, -⟩ := Replay.exists_ledger hs hreplay
  exact hu.room

/-- Eight bytes and the overhead are not more than 128. -/
theorem Reachable.replay_peak_fits_small : ∃ (s : Session) (h' : Heap) (summary : Summary),
    s.live = [⟨64⟩, ⟨32⟩] ∧
      (s.heap.replay ⟨[(1, .allocate 7 8)]⟩ true).outcome = .ok (h', .ok summary) ∧
      summary.peakPayload + 48 ≤ summary.arenaBytes := by
  obtain ⟨s, h', -, hs, hlive, hone, -⟩ := exists_small_replay
  exact ⟨s, h', _, hlive, hone, Reachable.replay_peak_fits hs hone⟩

end Session

end BlockHeap
