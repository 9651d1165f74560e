import BlockHeap.Proofs.ReplayTerms
import BlockHeap.Proofs.Replays

/-!
# What checks leave in the log

A check of a heap in order has nothing to log but that it came to its end.  So the log of a replay
with checks has these events besides those of the replay without, and it says at its start that
there are checks; all else is the same, event by event (`Session.Reachable.events_replay`).
-/

namespace BlockHeap

/-- The event says that a check came to its end, or whether a replay makes any. -/
def Event.aboutChecks : Event → Bool
  | checked .. | replayStarted .. => true
  | _ => false

/-- The events that are not about checks. -/
def apartFromChecks (events : List Event) : List Event := events.filter (!·.aboutChecks)

lemma apartFromChecks_append (xs ys : List Event) :
    apartFromChecks (xs ++ ys) = apartFromChecks xs ++ apartFromChecks ys :=
  List.filter_append ..

lemma Heap.check_eq {h : Heap} {verbose : Bool} {inspection : Inspection}
    (hinspect : h.inspect verbose = .ok inspection) :
    h.check verbose = ⟨inspection.report.events, .ok inspection⟩ := by
  rw [Heap.check, hinspect]
  show Traced.mk ([] ++ (inspection.report.events ++ [])) (.ok inspection) = _
  rw [List.append_nil, List.nil_append]

namespace Replay

variable {arena : Arena} {s : Session} {h : Heap} {ledger : Ledger} {M : Demand}

lemma events_verify {live : List Ptr} (hs : Session.Reachable arena ⟨h, live⟩) (line : Nat) :
    apartFromChecks (verify h line).events = [] := by
  obtain ⟨blocks, free, hh⟩ := hs.holds
  obtain ⟨listing, hinspect⟩ := hh.sound.inspect_eq false
  rw [verify, Heap.check_eq hinspect]
  rfl

/-- **One step.**  What it logs with a check after it is what it logs without, and the check. -/
lemma Underway.events_step (hu : Underway arena s h ledger M) (line : Nat) (op : Operation) :
    apartFromChecks (Replay.step h ledger true line op).events =
      apartFromChecks (Replay.step h ledger false line op).events := by
  obtain ⟨h', result, happly, happlied⟩ := hu.apply line op
  simp only [Replay.step]
  rw [Traced.events_bind_of_ok (Traced.outcome_emit _), Traced.events_bind_of_ok happly,
    Traced.events_bind_of_ok (Traced.outcome_emit _), Traced.events_bind_of_ok happly]
  simp only [apartFromChecks_append]
  cases happlied with
  | carried hallowed hcarried =>
    have hreachable := hcarried.underway.backed.reachable
    simp only [if_true, Bool.false_eq_true, if_false]
    rw [Traced.events_bind_of_ok (verify_eq hreachable line), apartFromChecks_append,
      events_verify hreachable line]
    rfl
  | refused hallowed error hrefusal => rfl
  | conflict hnot => rfl

lemma Underway.events_run (hu : Underway arena s h ledger M) (ops : List (Nat × Operation)) :
    apartFromChecks (run true ops h ledger).events =
      apartFromChecks (run false ops h ledger).events := by
  induction ops generalizing h ledger M with
  | nil => rfl
  | cons entry ops ih =>
    obtain ⟨line, op⟩ := entry
    obtain ⟨h', result, hstep, happlied⟩ := hu.step line op
    rw [run, run, Traced.events_bind_of_ok (hstep true), Traced.events_bind_of_ok (hstep false),
      apartFromChecks_append, apartFromChecks_append, hu.events_step line op]
    congr 1
    cases happlied with
    | carried hallowed hcarried => exact ih hcarried.underway.tick
    | refused hallowed error hrefusal => rfl
    | conflict hnot => rfl

end Replay

/-- **The log of a replay.**  What is not about checks is logged with checks and without. -/
lemma Session.Reachable.events_replay {arena : Arena} {s : Session} (hs : Reachable arena s)
    (trace : Trace) (checkEach checkEach' : Bool) :
    apartFromChecks (s.heap.replay trace checkEach).events =
      apartFromChecks (s.heap.replay trace checkEach').events := by
  have htrue : apartFromChecks (s.heap.replay trace true).events =
      apartFromChecks (s.heap.replay trace false).events := by
    obtain ⟨h, result, hrun, -⟩ := Replay.exists_run hs trace.ops
    have hevents := (Replay.Underway.start hs).events_run trace.ops
    rw [Heap.replay, Heap.replay, Traced.events_bind_of_ok (Traced.outcome_emit _),
      Traced.events_bind_of_ok (hrun true), Traced.events_bind_of_ok (Traced.outcome_emit _),
      Traced.events_bind_of_ok (hrun false)]
    simp only [apartFromChecks_append, hevents]
    rfl
  cases checkEach <;> cases checkEach'
  · rfl
  · exact htrue.symm
  · exact htrue
  · rfl

end BlockHeap
