import BlockHeap.Proofs.Fates

/-!
# What a run of the program comes to

With a configuration that is accepted, a limit that can be mapped and room for it, a run of the
program has an outcome, and the outcome is made up of what becomes of each file on its own
(`CommandLine.Accounts`).  The lines about failures are counted, and none of them is about damage.

Neither a flag for checking nor one for mapping changes what a run prints itself, nor what a
subscriber prints in between that does not show events about checks, such as one that shows errors
(`CommandLine.Outcome.SameButChecks`).
-/

namespace BlockHeap

namespace CommandLine

/-! ## Runs that log differently -/

/-- The subscriber does not show events about checks. -/
def Subscriber.HidesChecks (subscriber : Subscriber) : Prop :=
  ∀ event : Event, event.aboutChecks = true → subscriber (.event event) = none

lemma Subscriber.hidesChecks_errors : errors.HidesChecks := by
  intro event habout
  cases event with
  | checked | replayStarted => exact if_neg (show "DEBUG" ≠ "ERROR" by decide)
  | _ => cases habout

/-- What is not shown may be left out. -/
lemma filterMap_entriesApart {subscriber : Subscriber} (hhides : subscriber.HidesChecks)
    (entries : List Entry) :
    (entriesApart entries).filterMap (Entry.text subscriber) =
      entries.filterMap (Entry.text subscriber) := by
  rw [entriesApart, List.filterMap_filter]
  refine List.filterMap_congr fun entry _ => ?_
  obtain text | event | - | - := entry
  · rfl
  · cases habout : event.aboutChecks with
    | false => simp [Entry.aboutChecks, habout]
    | true => simp [Entry.aboutChecks, habout, Entry.text, hhides event habout]
  · rfl
  · rfl

/-- The runs have come to the same, but for what is logged about checks. -/
structure Outcome.SameButChecks (x y : Outcome) : Prop where
  exit : x.exit = y.exit
  stderr : x.stderr = y.stderr
  stdout : entriesApart x.stdout = entriesApart y.stdout
  output : ∀ subscriber : Subscriber, subscriber.HidesChecks →
    x.output subscriber = y.output subscriber

/-! ## Lines and failures -/

/-- The lines about failures. -/
def failedLines (outcomes : List TraceOutcome) : List String :=
  outcomes.filterMap fun outcome => outcome.failure.map failedLine

/-- The lines of the run itself among the entries. -/
def linesOf (entries : List Entry) : List String := entries.filterMap (Entry.text .silent)

lemma linesOf_append (xs ys : List Entry) : linesOf (xs ++ ys) = linesOf xs ++ linesOf ys :=
  List.filterMap_append

lemma linesOf_ofEvents (events : List Event) : linesOf (Entry.ofEvents events) = [] := by
  simp [linesOf, Entry.ofEvents, Entry.text, Subscriber.silent]

lemma linesOf_map_line (lines : List String) : linesOf (lines.map .line) = lines := by
  rw [linesOf, List.filterMap_map]
  exact List.filterMap_some

section

variable {config : Config} {environment : Environment} {space : AddressSpace}
variable {checkEach verbose : Bool} {name : String} {names : List String}
variable {outcome : TraceOutcome} {outcomes outcomes' fates : List TraceOutcome}

lemma length_failedLines (outcomes : List TraceOutcome) :
    (failedLines outcomes).length = outcomes.countP fun outcome => outcome.failure.isSome := by
  simp [failedLines, List.length_filterMap_eq_countP]

lemma failedLines_cons (outcome : TraceOutcome) (outcomes : List TraceOutcome) :
    failedLines (outcome :: outcomes) =
      (outcome.failure.map failedLine).toList ++ failedLines outcomes := by
  obtain ⟨name, entries, _ | chain⟩ := outcome <;> rfl

lemma linesOf_stdout (outcome : TraceOutcome) :
    linesOf outcome.stdout =
      linesOf outcome.entries ++ (outcome.failure.map failedLine).toList := by
  obtain ⟨name, entries, _ | chain⟩ := outcome
  · exact (List.append_nil _).symm
  · exact linesOf_append ..

lemma exists_fates (hvalid : config.validate = .ok ()) (hgrants : space.Grants config.maxHeap)
    (hroom : config.maxHeap ≤ environment.room) (verbose : Bool) (names : List String) :
    ∃ fates : Bool → List TraceOutcome,
      (∀ checkEach, List.Forall₂ (Fate config checkEach verbose environment) names
        (fates checkEach)) ∧
      (∀ checkEach checkEach', List.Forall₂ TraceOutcome.SameButChecks (fates checkEach)
        (fates checkEach')) ∧
      ∀ options : Options, options.config = config → options.verbose = verbose →
        names.mapM (runTrace options environment space) = .ok (fates options.check) := by
  induction names with
  | nil => exact ⟨fun _ => [], fun _ => .nil, fun _ _ => .nil, fun _ _ _ => rfl⟩
  | cons name names ih =>
    obtain ⟨outcome, hfate, hsame, hrun⟩ := exists_fate hvalid hgrants hroom verbose name
    obtain ⟨fates, hfates, hsames, hruns⟩ := ih
    refine ⟨fun checkEach => outcome checkEach :: fates checkEach,
      fun checkEach => .cons (hfate checkEach) (hfates checkEach),
      fun checkEach checkEach' => .cons (hsame checkEach checkEach') (hsames checkEach checkEach'),
      fun options hc hv => mapM_eq_ok_iff.2 ?_⟩
    exact .cons (hrun options hc hv) (mapM_eq_ok_iff.1 (hruns options hc hv))

lemma failedLines_eq_nil_iff
    (hfates : List.Forall₂ (Fate config checkEach verbose environment) names fates) :
    failedLines fates = [] ↔ ∀ name ∈ names, Passes config environment name := by
  induction hfates with
  | nil => exact iff_of_true rfl nofun
  | @cons name outcome names fates hfate _ ih =>
    rw [failedLines_cons, List.append_eq_nil_iff, ih, Option.toList_eq_nil_iff,
      Option.map_eq_none_iff, hfate.failure_eq_none_iff, List.forall_mem_cons]

lemma failedLines_sublist (outcomes : List TraceOutcome) :
    (failedLines outcomes).Sublist (linesOf (outcomes.flatMap TraceOutcome.stdout)) := by
  induction outcomes with
  | nil => exact .slnil
  | cons outcome outcomes ih =>
    rw [failedLines_cons, List.flatMap_cons, linesOf_append, linesOf_stdout]
    exact (List.sublist_append_right ..).append ih

lemma Fate.not_reportsDamage (hfate : Fate config checkEach verbose environment name outcome) :
    ∀ line ∈ outcome.failure.map failedLine, ¬ ReportsDamage line := by
  cases hfate with
  | unloaded error =>
    rintro line ⟨⟩
    exact not_reportsDamage_loading name error
  | stopped trace h error hload hreplay herror =>
    rintro line ⟨⟩
    exact not_reportsDamage_chain herror
  | finished => exact nofun

lemma not_reportsDamage
    (hfates : List.Forall₂ (Fate config checkEach verbose environment) names fates) :
    ∀ line ∈ failedLines fates, ¬ ReportsDamage line := by
  induction hfates with
  | nil => exact nofun
  | cons hfate _ ih =>
    rw [failedLines_cons]
    refine List.forall_mem_append.2 ⟨?_, ih⟩
    intro line hline
    exact hfate.not_reportsDamage line (Option.mem_toList.1 hline)

/-- What is printed about a file besides its failure does not look like one. -/
lemma Fate.not_looksFailed (hfate : Fate config checkEach verbose environment name outcome)
    (hname : ¬ LooksFailed name) : ∀ line ∈ linesOf outcome.entries, ¬ LooksFailed line := by
  have hheading (trace : Trace) : linesOf (heading name trace) = [name ++ ":"] := rfl
  have hopening : ∀ line ∈ [name ++ ":"], ¬ LooksFailed line :=
    List.forall_mem_singleton.2 (looksFailed_heading.not.2 hname)
  cases hfate with
  | unloaded => exact nofun
  | stopped =>
    rwa [linesOf_append, hheading, linesOf_ofEvents]
  | finished trace h summary inspection hload hreplay hinspect =>
    have hlines : ∀ line ∈ ("  " ++ summary.text) :: inspection.listing, ¬ LooksFailed line :=
      List.forall_mem_cons.2 ⟨not_looksFailed_summary summary, not_looksFailed_of_inspect hinspect⟩
    have hcons := linesOf_map_line (("  " ++ summary.text) :: inspection.listing)
    rw [List.map_cons] at hcons
    simp only [linesOf_append, hheading, linesOf_ofEvents, hcons, List.append_nil]
    exact List.forall_mem_append.2 ⟨hopening, hlines⟩

lemma filter_looksFailed
    (hfates : List.Forall₂ (Fate config checkEach verbose environment) names fates)
    (hnames : ∀ name ∈ names, ¬ LooksFailed name) :
    (linesOf (fates.flatMap TraceOutcome.stdout)).filter LooksFailed = failedLines fates := by
  induction hfates with
  | nil => rfl
  | @cons name outcome names fates hfate _ ih =>
    obtain ⟨hname, hnames⟩ := List.forall_mem_cons.1 hnames
    have hentries : (linesOf outcome.entries).filter LooksFailed = [] :=
      List.filter_eq_nil_iff.2 fun line hline => by
        simpa using hfate.not_looksFailed hname line hline
    have hfailure : (outcome.failure.map failedLine).toList.filter LooksFailed =
        (outcome.failure.map failedLine).toList :=
      List.filter_eq_self.2 fun line hline => by
        obtain ⟨chain, -, rfl⟩ := Option.map_eq_some_iff.1 (Option.mem_toList.1 hline)
        exact decide_eq_true (looksFailed_failedLine chain)
    rw [List.flatMap_cons, linesOf_append, List.filter_append, linesOf_stdout, List.filter_append,
      hentries, hfailure, ih hnames, failedLines_cons, List.nil_append]

/-- Outcomes that differ in what is logged about checks only are put together to such outcomes. -/
lemma TraceOutcome.SameButChecks.entriesApart_stdout {x y : TraceOutcome} (h : x.SameButChecks y) :
    entriesApart x.stdout = entriesApart y.stdout := by
  obtain ⟨hname, hfailure, hentries⟩ := h
  rw [TraceOutcome.stdout, TraceOutcome.stdout, hname, hfailure]
  cases y.failure with
  | none => exact hentries
  | some chain => rw [entriesApart_append, entriesApart_append, hentries]

lemma sameButChecks_flatMap (hsame : List.Forall₂ TraceOutcome.SameButChecks outcomes outcomes') :
    failedLines outcomes = failedLines outcomes' ∧
      entriesApart (outcomes.flatMap TraceOutcome.stdout) =
        entriesApart (outcomes'.flatMap TraceOutcome.stdout) := by
  induction hsame with
  | nil => exact ⟨rfl, rfl⟩
  | cons hsame _ ih =>
    rw [failedLines_cons, failedLines_cons, hsame.failure, ih.1, List.flatMap_cons,
      List.flatMap_cons, entriesApart_append, entriesApart_append, hsame.entriesApart_stdout, ih.2]
    exact ⟨rfl, rfl⟩

end

/-- **What a run says about its files.**  What becomes of a file is a matter of that file alone.
The lines about failures are printed, none of the other lines looks like them unless it is the name
of a file, and none is about damage. -/
structure Accounts (options : Options) (environment : Environment) (outcomes : List TraceOutcome)
    (outcome : Outcome) : Prop where
  fates : List.Forall₂ (Fate options.config options.check options.verbose environment)
    options.traces outcomes
  stdout : outcome.stdout = outcomes.flatMap TraceOutcome.stdout
  exit_eq_zero_iff : outcome.exit = 0 ↔
    ∀ name ∈ options.traces, Passes options.config environment name
  stderr_of_passed : outcome.exit = 0 → outcome.stderr = []
  stderr_of_failed : outcome.exit ≠ 0 → outcome.exit = 1 ∧ outcome.stderr =
    [s!"Error: {(failedLines outcomes).length} of {options.traces.length} traces failed"]
  printed : (failedLines outcomes).Sublist (linesOf outcome.stdout)
  filtered : (∀ name ∈ options.traces, ¬ LooksFailed name) →
    (linesOf outcome.stdout).filter LooksFailed = failedLines outcomes
  undamaged : ∀ line ∈ failedLines outcomes, ¬ ReportsDamage line

section

variable {options : Options} {environment : Environment} {fates fates' : List TraceOutcome}

/-- The lines about failures, and what was put on standard output, determine the outcome. -/
lemma ofTraces_eq (hcount : fates.length < failureBound) :
    Outcome.ofTraces fates = .ok
      (if (failedLines fates).length = 0 then ⟨0, fates.flatMap TraceOutcome.stdout, []⟩
      else ⟨1, fates.flatMap TraceOutcome.stdout,
        [s!"Error: {(failedLines fates).length} of {fates.length} traces failed"]⟩) := by
  have hle := List.countP_le_length (p := fun outcome : TraceOutcome => outcome.failure.isSome)
    (l := fates)
  rw [Outcome.ofTraces, if_neg (by omega), length_failedLines, apply_ite Except.ok]

lemma accounts_ofTraces {outcome : Outcome} (hcount : options.traces.length < failureBound)
    (hfates : List.Forall₂ (Fate options.config options.check options.verbose environment)
      options.traces fates) (houtcome : Outcome.ofTraces fates = .ok outcome) :
    Accounts options environment fates outcome := by
  have hlength := hfates.length_eq
  have hnone : (failedLines fates).length = 0 ↔
      ∀ name ∈ options.traces, Passes options.config environment name :=
    List.length_eq_zero_iff.trans (failedLines_eq_nil_iff hfates)
  have hprinted := failedLines_sublist fates
  have hfiltered := filter_looksFailed hfates
  have hundamaged := not_reportsDamage hfates
  rw [ofTraces_eq (hlength ▸ hcount), ← hlength] at houtcome
  obtain rfl := Except.ok.inj houtcome
  by_cases hzero : (failedLines fates).length = 0
  · rw [if_pos hzero]
    exact ⟨hfates, rfl, iff_of_true rfl (hnone.1 hzero), fun _ => rfl, fun h => absurd rfl h,
      hprinted, hfiltered, hundamaged⟩
  · rw [if_neg hzero]
    exact ⟨hfates, rfl, iff_of_false Nat.one_ne_zero (hnone.not.1 hzero), nofun,
      fun _ => ⟨rfl, rfl⟩, hprinted, hfiltered, hundamaged⟩

lemma Outcome.sameButChecks_of_stdout {exit : Nat} {stdout stdout' : List Entry}
    {stderr : List String} (h : entriesApart stdout = entriesApart stdout') :
    SameButChecks ⟨exit, stdout, stderr⟩ ⟨exit, stdout', stderr⟩ := by
  refine ⟨rfl, rfl, h, fun subscriber hhides => congrArg Outcome.printed ?_⟩
  rw [shown, shown, ← filterMap_entriesApart hhides stdout, h, filterMap_entriesApart hhides]

lemma sameButChecks_ofTraces {outcome outcome' : Outcome} (hcount : fates.length < failureBound)
    (hsame : List.Forall₂ TraceOutcome.SameButChecks fates fates')
    (houtcome : Outcome.ofTraces fates = .ok outcome)
    (houtcome' : Outcome.ofTraces fates' = .ok outcome') : outcome.SameButChecks outcome' := by
  have hlength := hsame.length_eq
  obtain ⟨hlines, hstdout⟩ := sameButChecks_flatMap hsame
  rw [ofTraces_eq hcount, hlines, hlength] at houtcome
  rw [ofTraces_eq (hlength ▸ hcount)] at houtcome'
  obtain rfl := Except.ok.inj houtcome
  obtain rfl := Except.ok.inj houtcome'
  split
  · exact Outcome.sameButChecks_of_stdout hstdout
  · exact Outcome.sameButChecks_of_stdout hstdout

end

/-- What is promised of a parser: a switch that was off may be put in front of all arguments, and
turns on nothing but itself. -/
def Platform.TakesSwitches (platform : Platform) : Prop :=
  ∀ arguments options switch, platform.parse arguments = .ok options → options.has switch = false →
    platform.parse (switch.flag :: arguments) = .ok (options.turnOn switch)

lemma Platform.takesSwitches_standard : ({} : Platform).TakesSwitches :=
  fun _ _ switch hparse hoff => Options.parse_flag hparse switch hoff

/-- **What a run comes to.**  If the configuration is accepted, and the limit that it sets can be
mapped and there is room for it, then a run comes to an outcome.  Other arguments come to the same
outcome, but for what is logged about checks, if they ask for the same files, listings and
configuration, and to the very same if they agree about checks as well.  In particular this is so
for the same arguments with the flag for checking or that for a mapped arena in front, unless it is
among them.  The exit code is 0 if all files pass, and else 1 with the number of lines about
failures, none of which is about damage. -/
theorem run_accounts {platform : Platform} {arguments : List String} {options : Options}
    (environment : Environment) (hswitches : platform.TakesSwitches)
    (hparse : platform.parse arguments = .ok options) (hvalid : options.config.validate = .ok ())
    (hgrants : platform.space.Grants options.config.maxHeap)
    (hroom : options.config.maxHeap ≤ environment.room)
    (hcount : options.traces.length < failureBound) :
    ∃ outcome fates, run arguments environment platform = .ok outcome ∧
      Accounts options environment fates outcome ∧
      (options.check = false → ∃ outcome',
        run ("--check" :: arguments) environment platform = .ok outcome' ∧
          outcome'.SameButChecks outcome) ∧
      (options.mapped = false →
        run ("--mmap" :: arguments) environment platform = .ok outcome) ∧
      ∀ arguments' options', platform.parse arguments' = .ok options' →
        options'.traces = options.traces → options'.verbose = options.verbose →
        options'.config = options.config → ∃ outcome',
          run arguments' environment platform = .ok outcome' ∧ outcome'.SameButChecks outcome ∧
            (options'.check = options.check → outcome' = outcome) := by
  obtain ⟨fates, hfates, hsames, hruns⟩ :=
    exists_fates hvalid hgrants hroom options.verbose options.traces
  have hlength (checkEach : Bool) : (fates checkEach).length < failureBound :=
    (hfates checkEach).length_eq ▸ hcount
  have hexists (checkEach : Bool) : ∃ outcome, Outcome.ofTraces (fates checkEach) = .ok outcome :=
    ⟨_, ofTraces_eq (hlength checkEach)⟩
  choose outcome houtcome using hexists
  have hrun {arguments' : List String} {options' : Options}
      (hparse' : platform.parse arguments' = .ok options')
      (htraces : options'.traces = options.traces)
      (hverbose : options'.verbose = options.verbose) (hconfig : options'.config = options.config) :
      run arguments' environment platform = .ok (outcome options'.check) := by
    simp only [run, hparse', runTraces, hconfig, hvalid, htraces, hruns options' hconfig hverbose,
      Fault.ok_bind, houtcome]
  have hsame (checkEach checkEach' : Bool) :
      (outcome checkEach).SameButChecks (outcome checkEach') :=
    sameButChecks_ofTraces (hlength checkEach) (hsames checkEach checkEach') (houtcome checkEach)
      (houtcome checkEach')
  refine ⟨_, _, hrun hparse rfl rfl rfl,
    accounts_ofTraces hcount (hfates options.check) (houtcome options.check), ?_, ?_, ?_⟩
  · intro hoff
    exact ⟨_, hrun (hswitches _ _ .check hparse hoff) rfl rfl rfl, hsame _ _⟩
  · intro hoff
    have hmapped : run ("--mmap" :: arguments) environment platform =
        .ok (outcome (options.turnOn .mapped).check) :=
      hrun (hswitches _ _ .mapped hparse hoff) rfl rfl rfl
    exact hmapped
  · intro arguments' options' hparse' htraces hverbose hconfig
    exact ⟨_, hrun hparse' htraces hverbose hconfig, hsame _ _, fun hcheck => by rw [hcheck]⟩

/-- Two files, of which the second allocates a block twice. -/
def twoFiles : FileTree where
  files := [(["one"], "a 1 8\nf 1\n".toUTF8), (["two"], "a 1 8\na 1 8\n".toUTF8)]
  workingDirectory := []

/-- What is wrong with the second file is found out in every way to run the two, and a subscriber
that shows errors says so in the same words. -/
theorem run_accounts_second_file : ∃ outcome outcome',
    run ["--max-heap=1024", "one", "two"] (.ofTree twoFiles 1024) {} = .ok outcome ∧
      run ["--mmap", "--max-heap=1024", "one", "two"] (.ofTree twoFiles 1024) {} = .ok outcome ∧
      run ["--check", "--max-heap=1024", "one", "two"] (.ofTree twoFiles 1024) {} = .ok outcome' ∧
      outcome'.output .errors = outcome.output .errors ∧
      outcome.exit = 1 ∧ outcome.stderr = ["Error: 1 of 2 traces failed"] := by
  have hparse : Options.parse ["--max-heap=1024", "one", "two"] =
      .ok ⟨["one", "two"], false, false, false, ⟨264, 10, 1024⟩⟩ := by
    decide +kernel
  obtain ⟨outcome, fates, hrun, -, hcheck, hmapped, -⟩ :=
    run_accounts (.ofTree twoFiles 1024) Platform.takesSwitches_standard hparse (by decide) rfl
      (by decide) (by decide)
  obtain ⟨outcome', hrun', hsame⟩ := hcheck rfl
  have hview : (run ["--max-heap=1024", "one", "two"] (.ofTree twoFiles 1024) {}).toOption.map
      (fun outcome => (outcome.exit, outcome.stderr)) =
        some (1, ["Error: 1 of 2 traces failed"]) := by
    decide +kernel
  rw [hrun] at hview
  obtain ⟨hexit, hstderr⟩ := Prod.mk.inj (Option.some.inj hview)
  exact ⟨outcome, outcome', hrun, hmapped rfl, hrun',
    hsame.output .errors Subscriber.hidesChecks_errors, hexit, hstderr⟩

end CommandLine

end BlockHeap
