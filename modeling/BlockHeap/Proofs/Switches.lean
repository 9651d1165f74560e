import BlockHeap.CommandLine.Options
import Mathlib.Tactic.Common

/-!
# Turning switches on

Arguments are read one by one into what has been seen so far, and a switch is in the way of nothing
but itself.  So what was read after other arguments can be read after a switch as well, unless it
has that switch among it (`CommandLine.Arguments.Unhindered`), and a switch that was off may be
turned on in front of all arguments (`CommandLine.Options.parse_flag`).
-/

namespace BlockHeap

namespace CommandLine

/-- The flag for a switch. -/
def Switch.flag : Switch → String
  | check => "--check"
  | verbose => "--verbose"
  | mapped => "--mmap"

namespace Options

/-- Whether a switch is on. -/
def has (options : Options) : Switch → Bool
  | .check => options.check
  | .verbose => options.verbose
  | .mapped => options.mapped

/-- The same options with a switch on. -/
def turnOn (options : Options) : Switch → Options
  | .check => { options with check := true }
  | .verbose => { options with verbose := true }
  | .mapped => { options with mapped := true }

end Options

namespace Arguments

variable {switch : Switch} {seen seen' : Arguments}

/-- The same arguments after one that has turned a switch on. -/
def after (switch : Switch) (seen : Arguments) : Arguments :=
  { seen with switches := seen.switches ++ [switch] }

/-- Reading on does not depend on whether a switch is on, as long as it does not turn that on
itself. -/
def Unhindered (switch : Switch) (read : Arguments → Except UsageError Arguments) : Prop :=
  ∀ ⦃seen seen' : Arguments⦄, read seen = .ok seen' → switch ∉ seen'.switches →
    switch ∉ seen.switches ∧ read (seen.after switch) = .ok (seen'.after switch)

namespace Unhindered

variable {read read' : Arguments → Except UsageError Arguments}

lemma ok : Unhindered switch fun seen => .ok seen := by
  rintro seen seen' ⟨⟩ hnot
  exact ⟨hnot, rfl⟩

lemma error (error : UsageError) : Unhindered switch fun _ => .error error := nofun

lemma bind (hread : Unhindered switch read) (hread' : Unhindered switch read') :
    Unhindered switch fun seen => read seen >>= read' := by
  intro seen seen' h hnot
  beta_reduce at h ⊢
  cases hfirst : read seen with
  | error error => rw [hfirst] at h; cases h
  | ok between =>
    rw [hfirst] at h
    obtain ⟨hbetween, hlast⟩ := hread' h hnot
    obtain ⟨hseen, hfirst'⟩ := hread hfirst hbetween
    refine ⟨hseen, ?_⟩
    rw [hfirst']
    exact hlast

lemma addSwitch (flag : String) (other : Switch) :
    Unhindered switch fun seen => seen.addSwitch flag other := by
  intro seen seen' h hnot
  simp only [Arguments.addSwitch] at h ⊢
  split at h
  · cases h
  · next hother =>
    cases h
    obtain ⟨hne, hseen⟩ := not_or.1 (List.mem_cons.not.1 hnot)
    have hother' : other ∉ (seen.after switch).switches := by
      simp [after, hother, Ne.symm hne]
    exact ⟨hseen, if_neg hother'⟩

lemma addSetting (flag : String) (setting : Setting) (value : String) :
    Unhindered switch fun seen => seen.addSetting flag setting value := by
  intro seen seen' h hnot
  simp only [Arguments.addSetting, after] at h ⊢
  cases hlookup : seen.settings.lookup setting with
  | some number => rw [hlookup] at h; cases h
  | none =>
    cases hnumeral : Text.numeral value.toList with
    | error error => rw [hlookup, hnumeral] at h; cases h
    | ok number =>
      rw [hlookup, hnumeral] at h
      cases h
      exact ⟨hnot, rfl⟩

lemma addTrace (name : String) : Unhindered switch fun seen => seen.addTrace name := by
  intro seen seen' h hnot
  simp only [Arguments.addTrace] at h ⊢
  by_cases hname : name.isEmpty
  · rw [if_pos hname] at h
    cases h
  · rw [if_neg hname] at h
    cases h
    exact ⟨hnot, if_neg hname⟩

lemma addTraces (names : List String) :
    Unhindered switch fun seen => names.foldlM Arguments.addTrace seen := by
  induction names with
  | nil => exact ok
  | cons name names ih => exact (addTrace name).bind ih

lemma addLetters (flag : String) (letters : List Char) :
    Unhindered switch fun seen => seen.addLetters flag letters := by
  induction letters with
  | nil => exact ok
  | cons letter letters ih =>
    by_cases hletter : letter = 'v'
    · subst hletter
      exact (addSwitch flag .verbose).bind ih
    · have hread : (fun seen : Arguments => seen.addLetters flag (letter :: letters)) =
          fun _ => .error (.unknownFlag flag) := by
        funext seen
        rw [Arguments.addLetters.eq_def]
        split
        · next heq => cases heq
        · next heq => cases heq; exact absurd rfl hletter
        · rfl
      exact hread ▸ error _

lemma addAll (arguments : List String) : Unhindered switch fun seen => seen.addAll arguments := by
  -- a setting may take the next argument as well, so that the rest is shorter by two
  induction hlength : arguments.length using Nat.strongRecOn generalizing arguments with
  | _ length ih =>
  subst hlength
  cases arguments with
  | nil => exact ok
  | cons argument rest =>
    have hrest := ih rest.length (Nat.lt_succ_self _) rest rfl
    simp only [Arguments.addAll]
    cases Argument.read argument with
    | error reason => exact error reason
    | ok meaning =>
      cases meaning with
      | endOfFlags => exact addTraces rest
      | file => exact (addTrace argument).bind hrest
      | letters letters => exact (addLetters argument letters).bind hrest
      | switch name other => exact (addSwitch name other).bind hrest
      | setting name setting value =>
        cases value with
        | some value => exact (addSetting name setting value).bind hrest
        | none =>
          cases rest with
          | nil => exact error _
          | cons value rest =>
            exact (addSetting name setting value).bind
              (ih rest.length (Nat.lt_succ_of_lt (Nat.lt_succ_self _)) rest rfl)

end Unhindered

end Arguments

lemma Arguments.has_eq {seen : Arguments} {options : Options}
    (h : seen.toOptions = .ok options) (switch : Switch) :
    options.has switch = decide (switch ∈ seen.switches) := by
  unfold toOptions at h
  split at h
  · cases h
  · cases h
    cases switch <;> rfl

lemma Arguments.toOptions_after {seen : Arguments} {options : Options}
    (h : seen.toOptions = .ok options) (switch : Switch) :
    (seen.after switch).toOptions = .ok (options.turnOn switch) := by
  unfold toOptions at h ⊢
  split at h
  · cases h
  · next htraces =>
    cases h
    rw [if_neg (show ¬ (seen.after switch).traces.isEmpty from htraces)]
    cases switch <;> simp [after, Options.turnOn] <;> rfl

lemma Argument.read_flag (switch : Switch) :
    read switch.flag = .ok (.switch switch.flag switch) := by
  cases switch <;> rfl

lemma Options.parse_flag {arguments : List String} {options : Options}
    (hparse : parse arguments = .ok options) (switch : Switch) (hoff : options.has switch = false) :
    parse (switch.flag :: arguments) = .ok (options.turnOn switch) := by
  cases hread : Arguments.addAll {} arguments with
  | error error => rw [parse, hread] at hparse; cases hparse
  | ok seen =>
    rw [parse, hread] at hparse
    have hnot : switch ∉ seen.switches := by
      rw [Arguments.has_eq hparse] at hoff
      exact of_decide_eq_false hoff
    obtain ⟨-, hread'⟩ := Arguments.Unhindered.addAll arguments hread hnot
    have hadd : Arguments.addAll {} (switch.flag :: arguments) = .ok (seen.after switch) := by
      rw [Arguments.addAll, Argument.read_flag]
      exact hread'
    rw [parse, hadd]
    exact Arguments.toOptions_after hparse switch

end CommandLine

end BlockHeap
