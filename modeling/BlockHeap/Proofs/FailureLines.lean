import BlockHeap.CommandLine.Run
import BlockHeap.Proofs.Checking
import BlockHeap.Proofs.Demands

/-!
# Lines about failures

A trace that failed has a line of its own in the output, with the texts of all causes
(`CommandLine.failedLine`).  Three kinds of such lines would tell of damage done by the heap
(`CommandLine.ReportsDamage`).  They can be told apart from all others by their texts, whatever
numbers and names are in them: the second letter of the text, and the first one after the number of
a line, are enough.
-/

namespace BlockHeap

namespace CommandLine

/-- The line about a failure with the texts of its causes. -/
def failedLine (chain : List String) : String := "  FAILED: " ++ ": ".intercalate chain

/-- The line says that a payload was overwritten, that a check found the heap broken, or that the
heap was inconsistent at the end of a trace. -/
inductive ReportsDamage : String → Prop where
  | corrupted (line id : Nat) : ReportsDamage (failedLine (ReplayError.corrupted line id).chain)
  | inconsistent (line : Nat) (violations : List Violation) :
      ReportsDamage (failedLine (ReplayError.inconsistent line violations).chain)
  | afterReplay (records : String) :
      ReportsDamage (failedLine ["heap inconsistent after replay: [" ++ records ++ "]"])

/-- The line is one about a failure, or looks like one. -/
def LooksFailed (line : String) : Prop := "  FAILED: ".toList <+: line.toList

instance : DecidablePred LooksFailed := fun _ => inferInstanceAs (Decidable (_ <+: _))

lemma looksFailed_failedLine (chain : List String) : LooksFailed (failedLine chain) := by
  simp [LooksFailed, failedLine]

/-! ## Telling the texts apart -/

/-- The second letter of the text about a failure. -/
def secondLetter (line : String) : Option Char := line.toList[11]?

/-- The first letter after the number of the line in the text about a failure in a replay. -/
def subjectLetter (line : String) : Option Char :=
  ((line.toList.drop 10).dropWhile (· ≠ ':'))[2]?

/-- The first letter of what an error says about the operation or the heap. -/
def letterOf : ReplayError → Char
  | .unknownId _ _ | .duplicateId _ _ => 'b'
  | .allocate _ _ _ => 'a'
  | .resize _ _ _ => 'r'
  | .corrupted _ _ => 'p'
  | .inconsistent _ _ => 'h'

lemma dropWhile_toDigits (n : Nat) (rest : List Char) :
    (Nat.toDigits 10 n ++ rest).dropWhile (fun c => !decide (c = ':')) =
      rest.dropWhile fun c => !decide (c = ':') := by
  refine List.dropWhile_append_of_pos fun c hc => ?_
  have hdigit := Nat.isDigit_of_mem_toDigits (by decide) (by decide) hc
  have hne : c ≠ ':' := by
    rintro rfl
    cases hdigit
  simp [hne]

/-- All errors of replays have the number of a line, and what is after it tells them apart. -/
lemma letters_chain (error : ReplayError) :
    secondLetter (failedLine error.chain) = some 'i' ∧
      subjectLetter (failedLine error.chain) = some (letterOf error) := by
  have htext (text : String) : toString text = text := rfl
  cases error <;>
    simp [secondLetter, subjectLetter, failedLine, ReplayError.chain, ReplayError.message, htext,
      dropWhile_toDigits, letterOf]

/-- Damage shows in the letters. -/
lemma ReportsDamage.letters {line : String} (h : ReportsDamage line) :
    secondLetter line = some 'e' ∨
      secondLetter line = some 'i' ∧
        (subjectLetter line = some 'p' ∨ subjectLetter line = some 'h') := by
  cases h with
  | corrupted line id =>
    obtain ⟨hsecond, hsubject⟩ := letters_chain (.corrupted line id)
    exact .inr ⟨hsecond, .inl hsubject⟩
  | inconsistent line violations =>
    obtain ⟨hsecond, hsubject⟩ := letters_chain (.inconsistent line violations)
    exact .inr ⟨hsecond, .inr hsubject⟩
  | afterReplay records =>
    left
    simp [secondLetter, failedLine]

lemma not_reportsDamage_loading (name : String) (error : LoadError) :
    ¬ ReportsDamage (failedLine (("loading " ++ name) :: error.chain)) := by
  intro h
  have hletter : secondLetter (failedLine (("loading " ++ name) :: error.chain)) = some 'o' := by
    simp [secondLetter, failedLine]
  rcases h.letters with h | ⟨h, -⟩ <;> rw [hletter] at h <;> cases h

lemma not_reportsDamage_chain {error : ReplayError} (herror : error.IsConflict ∨ error.IsRefusal) :
    ¬ ReportsDamage (failedLine error.chain) := by
  intro h
  -- the second letter is that of a number, so it is the subject that has to differ
  obtain ⟨hsecond, hsubject⟩ := letters_chain error
  rcases h.letters with h | ⟨-, h⟩
  · rw [hsecond] at h
    cases h
  · rw [hsubject] at h
    cases error with
    | unknownId | duplicateId | allocate | resize => rcases h with h | h <;> cases h
    | corrupted | inconsistent => exact herror.elim id id

/-! ## Lines about anything else -/

lemma LooksFailed.head {line : String} (h : LooksFailed line) : line.toList.head? = some ' ' := by
  obtain ⟨rest, hline⟩ := h
  rw [← hline]
  rfl

/-- A heading looks like a failure exactly if the name does that it is made of. -/
lemma looksFailed_heading {name : String} : LooksFailed (name ++ ":") ↔ LooksFailed name := by
  rw [LooksFailed, String.toList_append]
  refine List.prefix_concat_iff.trans (or_iff_right ?_)
  intro h
  have hlast := congrArg List.getLast? h
  rw [List.getLast?_append] at hlast
  cases hlast

/-- A number stands where a failure would be announced. -/
lemma not_looksFailed_summary (summary : Summary) : ¬ LooksFailed ("  " ++ summary.text) := by
  intro h
  obtain ⟨c, digits, hdigits⟩ : ∃ c digits, Nat.toDigits 10 summary.ops = c :: digits :=
    List.exists_cons_of_ne_nil Nat.toDigits_ne_nil
  have hc : c.isDigit :=
    Nat.isDigit_of_mem_toDigits (by decide) (by decide) (hdigits ▸ List.mem_cons_self)
  have hletter : some 'F' = some c := by
    have htext : ("  " ++ summary.text).toList[2]? = some c := by
      simp [Summary.text, hdigits]
    obtain ⟨rest, hline⟩ := h
    rw [← htext, ← hline]
    rfl
  cases hletter
  cases hc

lemma head_of_describe {m : Memory} {block : Nat} {line : String}
    (h : Block.describe m block = .ok line) : line.toList.head? = some '0' := by
  have hhex (n : Nat) (rest : String) : (Text.hex n ++ rest).toList.head? = some '0' := by
    simp [Text.hex]
  unfold Block.describe at h
  obtain ⟨start, -, h⟩ := bind_eq_ok_iff.1 h
  split at h
  · cases h
    exact hhex ..
  split at h
  · cases h
    exact hhex ..
  dsimp only at h
  split at h <;> obtain ⟨footer, -, h⟩ := bind_eq_ok_iff.1 h <;> cases footer <;> cases h <;>
    simp only [String.append_assoc] <;> exact hhex ..

lemma not_looksFailed_of_mem_listing {h : Heap} {visited : List Nat} {listing : List String}
    (hlisting : h.listing visited = .ok listing) : ∀ line ∈ listing, ¬ LooksFailed line := by
  unfold Heap.listing at hlisting
  obtain ⟨lines, hlines, hlisting⟩ := bind_eq_ok_iff.1 hlisting
  cases hlisting
  have hhead : ∀ line ∈ lines, line.toList.head? = some '0' := by
    have hpairs := mapM_eq_ok_iff.1 hlines
    clear hlines hlisting
    induction hpairs with
    | nil => exact nofun
    | cons hdescribe _ ih => exact List.forall_mem_cons.2 ⟨head_of_describe hdescribe, ih⟩
  refine List.forall_mem_cons.2 ⟨fun hfailed => ?_, fun line hline hfailed => ?_⟩
  · have hspace := hfailed.head
    simp at hspace
  · have hspace := hfailed.head
    rw [hhead line hline] at hspace
    cases hspace

lemma not_looksFailed_of_inspect {h : Heap} {verbose : Bool} {inspection : Inspection}
    (hinspect : h.inspect verbose = .ok inspection) :
    ∀ line ∈ inspection.listing, ¬ LooksFailed line := by
  unfold Heap.inspect at hinspect
  obtain ⟨prologue, -, hinspect⟩ := bind_eq_ok_iff.1 hinspect
  obtain ⟨arena, -, hinspect⟩ := bind_eq_ok_iff.1 hinspect
  obtain ⟨lists, -, hinspect⟩ := bind_eq_ok_iff.1 hinspect
  obtain ⟨_, -, hinspect⟩ := bind_eq_ok_iff.1 hinspect
  obtain ⟨_, -, hinspect⟩ := bind_eq_ok_iff.1 hinspect
  obtain ⟨_, -, hinspect⟩ := bind_eq_ok_iff.1 hinspect
  cases verbose with
  | false =>
    cases hinspect
    exact nofun
  | true =>
    obtain ⟨listing, hlisting, hinspect⟩ := bind_eq_ok_iff.1 hinspect
    cases hinspect
    exact not_looksFailed_of_mem_listing hlisting

end CommandLine

end BlockHeap
