import BlockHeap.Proofs.FailureLines
import BlockHeap.Proofs.Logs
import BlockHeap.Proofs.Providers
import BlockHeap.Proofs.Switches

/-!
# What becomes of a trace file

A file gives no trace, or the replay of its trace on a fresh heap stops at an operation that cannot
be carried out, or it is finished and the heap in order (`CommandLine.Fate`).  There is no other
way, as the heap never does damage and no check finds any.

What becomes of a file is the same whatever the options say about mapping and checking
(`CommandLine.exists_fate`).  Mapping does not even show in the log, since replays are the same on
either terms.  Checks show there, as they log that they were made, but in nothing else that is put
on standard output (`CommandLine.TraceOutcome.SameButChecks`).
-/

namespace BlockHeap

namespace CommandLine

/-! ## Fresh heaps -/

/-- The replay of a trace on a fresh heap has this result and leaves this heap, whether the heap is
checked on the way or not. -/
def FreshReplay (config : Config) (room : Nat) (trace : Trace) (h : Heap)
    (result : Except ReplayError Summary) : Prop :=
  ∃ fresh, (Heap.withConfig config room).outcome = .ok (.ok fresh) ∧
    ∀ checkEach, (fresh.replay trace checkEach).outcome = .ok (h, result)

section

variable {config : Config} {room : Nat} {space : AddressSpace} {trace : Trace} {h h' : Heap}
variable {result result' : Except ReplayError Summary}

lemma FreshReplay.result_eq (hreplay : FreshReplay config room trace h result)
    (hreplay' : FreshReplay config room trace h' result') : result = result' := by
  obtain ⟨fresh, hmake, hfresh⟩ := hreplay
  obtain ⟨fresh', hmake', hfresh'⟩ := hreplay'
  obtain rfl := Except.ok.inj (Except.ok.inj (hmake.symm.trans hmake'))
  exact (Prod.mk.inj (Except.ok.inj ((hfresh false).symm.trans (hfresh' false)))).2

/-- What is logged when a heap is made and a trace replayed on it. -/
def freshLog (config : Config) (room : Nat) (trace : Trace) (checkEach : Bool) : List Event :=
  let made := Heap.withConfig config room
  made.events ++
    match made.outcome with
    | .ok (.ok fresh) => (fresh.replay trace checkEach).events
    | _ => []

/-- What options with this configuration make of a trace: the result is the same, and so are the log
and what a check finds afterwards. -/
def ReplaysAlike (config : Config) (room : Nat) (space : AddressSpace) (trace : Trace) (h : Heap)
    (result : Except ReplayError Summary) : Prop :=
  ∀ options : Options, options.config = config → ∃ fresh h',
    (freshHeap options room space).outcome = .ok (.ok fresh) ∧
    (fresh.replay trace options.check).outcome = .ok (h', result) ∧
    (freshHeap options room space).events ++ (fresh.replay trace options.check).events =
      freshLog config room trace options.check ∧
    ∀ verbose, h'.check verbose = h.check verbose

/-- **Replays on fresh heaps.**  They end well or with an error about numbers or a refusal, and the
heap is sound in the end.  It makes no difference on which terms the heap is, and checks only log
that they were made. -/
lemma exists_freshReplay (hvalid : config.validate = .ok ())
    (hgrants : space.Grants config.maxHeap) (hroom : config.maxHeap ≤ room) (trace : Trace) :
    ∃ h result, FreshReplay config room trace h result ∧
      (∀ error, result = .error error → error.IsConflict ∨ error.IsRefusal) ∧
      (∀ verbose, ∃ report listing, report.violations = [] ∧
        h.inspect verbose = .ok ⟨report, listing⟩) ∧
      ReplaysAlike config room space trace h result ∧
      ∀ checkEach checkEach', apartFromChecks (freshLog config room trace checkEach) =
        apartFromChecks (freshLog config room trace checkEach') := by
  obtain ⟨fresh, howned, hmapped⟩ := Heap.exists_made hvalid hgrants hroom
  have hs : Session.Reachable _ _ := .made (.withConfig config room howned)
  obtain ⟨h, result, hrun, hran⟩ := Replay.exists_run hs trace.ops
  have hreplay (checkEach : Bool) :
      ((fresh.on ⟨config.maxHeap, .owned room⟩).replay trace checkEach).outcome =
        .ok (h, result.map fun ledger => ledger.summary h) := by
    rw [Heap.outcome_replay, hrun]
    rfl
  have hlog (checkEach : Bool) : freshLog config room trace checkEach =
      (Heap.withConfig config room).events ++
        ((fresh.on ⟨config.maxHeap, .owned room⟩).replay trace checkEach).events := by
    simp only [freshLog, howned]
  -- on the other terms the replay is the same but for the terms of the heap that is left
  have hon (checkEach : Bool) :=
    Heap.replay_on fresh (Terms.owned_alike_mapped hgrants.lt hroom) trace checkEach
  refine ⟨h, _, ⟨_, howned, hreplay⟩, ?_, ?_, ?_, ?_⟩
  · intro error herror
    cases result with
    | ok ledger => cases herror
    | error error' =>
      cases herror
      exact hran.error_cases rfl
  · intro verbose
    obtain ⟨ledger, M, hu⟩ := hran.underway
    obtain ⟨blocks, free, hh⟩ := hu.backed.reachable.holds
    obtain ⟨listing, hinspect⟩ := hh.sound.inspect_eq verbose
    exact ⟨_, listing, rfl, hinspect⟩
  · rintro options rfl
    cases hterms : options.mapped with
    | false =>
      simp only [freshHeap, hterms, Bool.false_eq_true, if_false]
      exact ⟨_, h, howned, hreplay _, (hlog _).symm, fun _ => rfl⟩
    | true =>
      simp only [freshHeap, hterms, if_true]
      refine ⟨_, h.on ⟨options.config.maxHeap, .mapped⟩, hmapped, ?_, ?_, fun _ => rfl⟩
      · rw [hon, Traced.outcome_map, hreplay]
        rfl
      · rw [hon, Traced.events_map, Heap.withMapping_on hgrants hroom, Traced.events_map, hlog]
  · intro checkEach checkEach'
    rw [hlog, hlog, apartFromChecks_append, apartFromChecks_append,
      hs.events_replay trace checkEach checkEach']

end

/-! ## Entries about checks -/

/-- The entry is an event about checks. -/
def Entry.aboutChecks : Entry → Bool
  | .record (.event event) => event.aboutChecks
  | _ => false

/-- The entries that are not about checks. -/
def entriesApart (entries : List Entry) : List Entry := entries.filter (!·.aboutChecks)

lemma Entry.ofEvents_append (xs ys : List Event) :
    ofEvents (xs ++ ys) = ofEvents xs ++ ofEvents ys :=
  List.map_append ..

lemma entriesApart_append (xs ys : List Entry) :
    entriesApart (xs ++ ys) = entriesApart xs ++ entriesApart ys :=
  List.filter_append ..

lemma entriesApart_ofEvents (events : List Event) :
    entriesApart (Entry.ofEvents events) = Entry.ofEvents (apartFromChecks events) := by
  rw [entriesApart, Entry.ofEvents, List.filter_map]
  rfl

/-! ## One file -/

/-- What becomes of a file: it gives no trace, or the replay of its trace on a fresh heap stops at
an operation that cannot be carried out, or the replay is finished and the heap in order. -/
inductive Fate (config : Config) (checkEach verbose : Bool) (environment : Environment)
    (name : String) : TraceOutcome → Prop where
  | unloaded (error : LoadError) (hload : Trace.ofFile (environment.read name) = .error error) :
      Fate config checkEach verbose environment name
        ⟨name, [], some (("loading " ++ name) :: error.chain)⟩
  | stopped (trace : Trace) (h : Heap) (error : ReplayError)
      (hload : Trace.ofFile (environment.read name) = .ok trace)
      (hreplay : FreshReplay config environment.room trace h (.error error))
      (herror : error.IsConflict ∨ error.IsRefusal) :
      Fate config checkEach verbose environment name
        ⟨name, heading name trace ++
          Entry.ofEvents (freshLog config environment.room trace checkEach), some error.chain⟩
  | finished (trace : Trace) (h : Heap) (summary : Summary) (inspection : Inspection)
      (hload : Trace.ofFile (environment.read name) = .ok trace)
      (hreplay : FreshReplay config environment.room trace h (.ok summary))
      (hinspect : h.inspect verbose = .ok inspection)
      (hclean : inspection.report.violations = []) :
      Fate config checkEach verbose environment name
        ⟨name, heading name trace ++
          Entry.ofEvents (freshLog config environment.room trace checkEach) ++
          .line ("  " ++ summary.text) :: inspection.listing.map .line ++
          Entry.ofEvents inspection.report.events, none⟩

/-- The file gives a trace, and the replay of that on a fresh heap meets no number of a block that
it should not, and no refusal. -/
def Passes (config : Config) (environment : Environment) (name : String) : Prop :=
  ∃ trace h result, Trace.ofFile (environment.read name) = .ok trace ∧
    FreshReplay config environment.room trace h result ∧
    ∀ error, result = .error error → ¬ (error.IsConflict ∨ error.IsRefusal)

/-- The file has come to the same, but for what is logged about checks. -/
structure TraceOutcome.SameButChecks (x y : TraceOutcome) : Prop where
  name : x.name = y.name
  failure : x.failure = y.failure
  entries : entriesApart x.entries = entriesApart y.entries

section

variable {config : Config} {environment : Environment} {space : AddressSpace}
variable {checkEach verbose : Bool} {name : String}
variable {options : Options} {trace : Trace} {h fresh : Heap} {outcome : TraceOutcome}

lemma capture_eq {α : Type} {x : Traced α} {a : α} (hx : x.outcome = .ok a) :
    capture x = .ok (Entry.ofEvents x.events, a) := by
  rw [capture, hx]
  rfl

lemma replayOn_of_error {error : ReplayError}
    (hreplay : (fresh.replay trace options.check).outcome = .ok (h, .error error)) :
    replayOn options fresh trace =
      .ok (Entry.ofEvents (fresh.replay trace options.check).events, some error.chain) := by
  rw [replayOn, capture_eq hreplay]
  rfl

lemma replayOn_of_ok {summary : Summary} {inspection : Inspection}
    (hreplay : (fresh.replay trace options.check).outcome = .ok (h, .ok summary))
    (hcheck : h.check options.verbose = ⟨inspection.report.events, .ok inspection⟩)
    (hclean : inspection.report.violations = []) :
    replayOn options fresh trace =
      .ok (Entry.ofEvents (fresh.replay trace options.check).events ++
        .line ("  " ++ summary.text) :: inspection.listing.map .line ++
        Entry.ofEvents inspection.report.events, none) := by
  have hcapture : capture (h.check options.verbose) =
      .ok (Entry.ofEvents inspection.report.events, inspection) := by
    rw [hcheck]
    rfl
  rw [replayOn, capture_eq hreplay]
  simp only [Fault.ok_bind, hcapture, hclean]
  rfl

/-- **One file.**  What becomes of it is the same for all options that agree on the configuration,
on whether there are listings and on whether there are checks, and the last point shows in the log
only. -/
lemma exists_fate (hvalid : config.validate = .ok ()) (hgrants : space.Grants config.maxHeap)
    (hroom : config.maxHeap ≤ environment.room) (verbose : Bool) (name : String) :
    ∃ outcome : Bool → TraceOutcome,
      (∀ checkEach, Fate config checkEach verbose environment name (outcome checkEach)) ∧
      (∀ checkEach checkEach', (outcome checkEach).SameButChecks (outcome checkEach')) ∧
      ∀ options : Options, options.config = config → options.verbose = verbose →
        runTrace options environment space name = .ok (outcome options.check) := by
  cases hload : Trace.ofFile (environment.read name) with
  | error error =>
    refine ⟨fun _ => _, fun _ => .unloaded error hload, fun _ _ => ⟨rfl, rfl, rfl⟩,
      fun options _ _ => ?_⟩
    rw [runTrace, hload]
    rfl
  | ok trace =>
    obtain ⟨h, result, hreplay, herror, hinspect, halike, hlog⟩ :=
      exists_freshReplay hvalid hgrants hroom trace
    obtain ⟨report, listing, hclean, hinspect⟩ := hinspect verbose
    have hlog (checkEach checkEach' : Bool) :
        entriesApart (Entry.ofEvents (freshLog config environment.room trace checkEach)) =
          entriesApart (Entry.ofEvents (freshLog config environment.room trace checkEach')) := by
      rw [entriesApart_ofEvents, entriesApart_ofEvents, hlog checkEach checkEach']
    cases result with
    | error error =>
      refine ⟨_, fun checkEach => .stopped trace h error hload hreplay (herror error rfl),
        fun checkEach checkEach' => ⟨rfl, rfl, ?_⟩, fun options hc _ => ?_⟩
      · simp only [entriesApart_append, hlog checkEach checkEach']
      · obtain ⟨fresh, h', hfresh, hreplay', hlog', -⟩ := halike options hc
        simp only [runTrace, hload, capture_eq hfresh, Fault.ok_bind, replayOn_of_error hreplay',
          ← hlog', Entry.ofEvents_append, List.append_assoc]
        rfl
    | ok summary =>
      refine ⟨_, fun checkEach => .finished trace h summary _ hload hreplay hinspect hclean,
        fun checkEach checkEach' => ⟨rfl, rfl, ?_⟩, ?_⟩
      · simp only [entriesApart_append, hlog checkEach checkEach']
      · rintro options hc rfl
        obtain ⟨fresh, h', hfresh, hreplay', hlog', hsame⟩ := halike options hc
        have hcheck := (hsame options.verbose).trans (Heap.check_eq hinspect)
        simp only [runTrace, hload, capture_eq hfresh, Fault.ok_bind,
          replayOn_of_ok hreplay' hcheck hclean, ← hlog', Entry.ofEvents_append, List.append_assoc]
        rfl

/-- A file fails if and only if it does not pass. -/
lemma Fate.failure_eq_none_iff (hfate : Fate config checkEach verbose environment name outcome) :
    outcome.failure = none ↔ Passes config environment name := by
  cases hfate with
  | unloaded error hload =>
    refine iff_of_false nofun ?_
    rintro ⟨trace, -, -, hload', -⟩
    cases hload.symm.trans hload'
  | stopped trace h error hload hreplay herror =>
    refine iff_of_false nofun ?_
    -- the replay has one result only, and that is an error
    rintro ⟨trace', h', result, hload', hreplay', hnot⟩
    obtain rfl := Except.ok.inj (hload.symm.trans hload')
    exact hnot error (hreplay'.result_eq hreplay) herror
  | finished trace h summary inspection hload hreplay =>
    exact iff_of_true rfl ⟨trace, h, _, hload, hreplay, nofun⟩

end

end CommandLine

end BlockHeap
