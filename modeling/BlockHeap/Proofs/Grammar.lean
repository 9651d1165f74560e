import BlockHeap.Proofs.Lexemes
import BlockHeap.Trace.Parser
import Mathlib.Data.List.Forall2
import Mathlib.Data.List.ReduceOption
import Mathlib.Data.List.TakeWhile

/-!
# The grammar of traces

`Operation.Spells` and `Trace.LineReads` are the grammar: which fields spell which operation, and
what a line has to look like to hold an operation or none.  A text is a trace if each of its lines
is of this form, and then its operations are those of its lines in order, each with the number of
its line (`Trace.numbered`).  The reader accepts nothing else, and it refuses a text at the first
line that is not of this form.  So whatever is rendered in any of the ways that the grammar leaves
open reads back as what it was (`Trace.parses_its_grammar`).
-/

namespace BlockHeap

open Text (Numeral Spaced Splits)

namespace Operation

/-- The fields of a line that asks for an operation. -/
inductive Spells : List (List Char) → Operation → Prop where
  | allocate {f g : List Char} {id size : Nat} (hid : Numeral f id) (hsize : Numeral g size) :
      Spells [['a'], f, g] (.allocate id size)
  | release {f : List Char} {id : Nat} (hid : Numeral f id) : Spells [['f'], f] (.release id)
  | resize {f g : List Char} {id size : Nat} (hid : Numeral f id) (hsize : Numeral g size) :
      Spells [['r'], f, g] (.resize id size)
  | zeroedAllocate {f g h : List Char} {id count size : Nat} (hid : Numeral f id)
      (hcount : Numeral g count) (hsize : Numeral h size) :
      Spells [['c'], f, g, h] (.zeroedAllocate id count size)

lemma takeOperand_eq_ok_iff {operand : Operand} {fields rest : List (List Char)} {n : Nat} :
    takeOperand operand fields = .ok (n, rest) ↔ ∃ f, fields = f :: rest ∧ Numeral f n := by
  cases fields with
  | nil => exact iff_of_false nofun (by rintro ⟨f, hf, -⟩; cases hf)
  | cons f fields =>
    simp only [takeOperand, List.cons.injEq]
    cases hf : Text.numeral f with
    | error error =>
      refine iff_of_false nofun ?_
      rintro ⟨g, ⟨rfl, -⟩, hg⟩
      rw [Text.numeral_eq_ok_iff.2 hg] at hf
      cases hf
    | ok m =>
      constructor
      · intro h
        obtain ⟨rfl, rfl⟩ := Prod.mk.inj (Except.ok.inj h)
        exact ⟨f, ⟨rfl, rfl⟩, Text.numeral_eq_ok_iff.1 hf⟩
      · rintro ⟨g, ⟨rfl, rfl⟩, hg⟩
        rw [Text.numeral_eq_ok_iff.2 hg] at hf
        obtain rfl := Except.ok.inj hf
        rfl

lemma takeOperand_cons {operand : Operand} {f : List Char} {n : Nat} (hf : Numeral f n)
    (rest : List (List Char)) : takeOperand operand (f :: rest) = .ok (n, rest) :=
  takeOperand_eq_ok_iff.2 ⟨f, rfl, hf⟩

lemma spells_of_takeKind {kind f : List Char} {id : Nat} {fields : List (List Char)}
    {op : Operation} (hid : Numeral f id) (h : takeKind kind id fields = .ok (op, [])) :
    Spells (kind :: f :: fields) op := by
  unfold takeKind at h
  split at h
  · obtain ⟨⟨size, rest⟩, hsize, hend⟩ := bind_eq_ok_iff.1 h
    obtain ⟨g, rfl, hg⟩ := takeOperand_eq_ok_iff.1 hsize
    obtain ⟨rfl, rfl⟩ := Prod.mk.inj (Except.ok.inj hend)
    exact .allocate hid hg
  · obtain ⟨rfl, rfl⟩ := Prod.mk.inj (Except.ok.inj h)
    exact .release hid
  · obtain ⟨⟨size, rest⟩, hsize, hend⟩ := bind_eq_ok_iff.1 h
    obtain ⟨g, rfl, hg⟩ := takeOperand_eq_ok_iff.1 hsize
    obtain ⟨rfl, rfl⟩ := Prod.mk.inj (Except.ok.inj hend)
    exact .resize hid hg
  · obtain ⟨⟨count, rest⟩, hcount, hmore⟩ := bind_eq_ok_iff.1 h
    obtain ⟨g, rfl, hg⟩ := takeOperand_eq_ok_iff.1 hcount
    obtain ⟨⟨size, rest'⟩, hsize, hend⟩ := bind_eq_ok_iff.1 hmore
    obtain ⟨g', rfl, hg'⟩ := takeOperand_eq_ok_iff.1 hsize
    obtain ⟨rfl, rfl⟩ := Prod.mk.inj (Except.ok.inj hend)
    exact .zeroedAllocate hid hg hg'
  · cases h

lemma ofFields_of_spells {fields : List (List Char)} {op : Operation} (h : Spells fields op) :
    ofFields fields = .ok (some op) := by
  cases h with
  | allocate hid hsize =>
    refine bind_eq_ok_iff.2 ⟨_, takeOperand_cons hid _,
      bind_eq_ok_iff.2 ⟨(.allocate _ _, []), ?_, rfl⟩⟩
    exact bind_eq_ok_iff.2 ⟨_, takeOperand_cons hsize _, rfl⟩
  | release hid => exact bind_eq_ok_iff.2 ⟨_, takeOperand_cons hid _, rfl⟩
  | resize hid hsize =>
    refine bind_eq_ok_iff.2 ⟨_, takeOperand_cons hid _,
      bind_eq_ok_iff.2 ⟨(.resize _ _, []), ?_, rfl⟩⟩
    exact bind_eq_ok_iff.2 ⟨_, takeOperand_cons hsize _, rfl⟩
  | zeroedAllocate hid hcount hsize =>
    refine bind_eq_ok_iff.2 ⟨_, takeOperand_cons hid _,
      bind_eq_ok_iff.2 ⟨(.zeroedAllocate _ _ _, []), ?_, rfl⟩⟩
    refine bind_eq_ok_iff.2 ⟨_, takeOperand_cons hcount _, ?_⟩
    exact bind_eq_ok_iff.2 ⟨_, takeOperand_cons hsize _, rfl⟩

lemma ofFields_eq_ok_iff {fields : List (List Char)} {op? : Option Operation} :
    ofFields fields = .ok op? ↔
      (fields = [] ∧ op? = none) ∨ ∃ op, op? = some op ∧ Spells fields op := by
  constructor
  · intro h
    cases fields with
    | nil => exact .inl ⟨rfl, (Except.ok.inj h).symm⟩
    | cons kind fields =>
      obtain ⟨⟨id, fields'⟩, hid, hmore⟩ := bind_eq_ok_iff.1 h
      obtain ⟨f, rfl, hf⟩ := takeOperand_eq_ok_iff.1 hid
      obtain ⟨⟨op, rest⟩, hkind, hend⟩ := bind_eq_ok_iff.1 hmore
      cases rest with
      | nil => exact .inr ⟨op, (Except.ok.inj hend).symm, spells_of_takeKind hf hkind⟩
      | cons extra rest => cases hend
  · rintro (⟨rfl, rfl⟩ | ⟨op, rfl, hspells⟩)
    · rfl
    · exact ofFields_of_spells hspells

/-- The words of an operation, with its numbers in decimal. -/
def words : Operation → List (List Char)
  | allocate id size => [['a'], Nat.toDigits 10 id, Nat.toDigits 10 size]
  | release id => [['f'], Nat.toDigits 10 id]
  | resize id size => [['r'], Nat.toDigits 10 id, Nat.toDigits 10 size]
  | zeroedAllocate id count size =>
    [['c'], Nat.toDigits 10 id, Nat.toDigits 10 count, Nat.toDigits 10 size]

lemma words_graphic (op : Operation) {w : List Char} (hw : w ∈ op.words) :
    w ≠ [] ∧ ∀ c ∈ w, '#'.toNat < c.toNat ∧ c.toNat < 0x7F := by
  have hdigits (n : Nat) : Nat.toDigits 10 n ≠ [] ∧
      ∀ c ∈ Nat.toDigits 10 n, '#'.toNat < c.toNat ∧ c.toNat < 0x7F := by
    refine ⟨Nat.toDigits_ne_nil, fun c hc => ?_⟩
    obtain ⟨hlo, hhi⟩ :=
      Char.isDigit_iff_toNat.1 (Nat.isDigit_of_mem_toDigits (by decide) (by decide) hc)
    exact ⟨Nat.lt_of_lt_of_le (by decide) hlo, Nat.lt_of_le_of_lt hhi (by decide)⟩
  have hletter {c : Char} (hc : '#'.toNat < c.toNat ∧ c.toNat < 0x7F) :
      [c] ≠ [] ∧ ∀ x ∈ [c], '#'.toNat < x.toNat ∧ x.toNat < 0x7F :=
    ⟨List.cons_ne_nil c [], List.forall_mem_singleton.2 hc⟩
  cases op <;> simp only [words, List.mem_cons, List.not_mem_nil, or_false] at hw
  case allocate | resize =>
    rcases hw with rfl | rfl | rfl
    exacts [hletter (by decide), hdigits _, hdigits _]
  case release =>
    rcases hw with rfl | rfl
    exacts [hletter (by decide), hdigits _]
  case zeroedAllocate =>
    rcases hw with rfl | rfl | rfl | rfl
    exacts [hletter (by decide), hdigits _, hdigits _, hdigits _]

/-- The words of an operation with a single blank between them. -/
def line (op : Operation) : List Char := [' '].intercalate op.words

lemma spaced_line (op : Operation) : Spaced op.words op.line := by
  refine Text.spaced_intercalate fun w hw => ?_
  obtain ⟨hne, hword⟩ := op.words_graphic hw
  refine ⟨hne, fun c hc => ?_⟩
  obtain ⟨hlo, hhi⟩ := hword c hc
  exact Text.isBlank_of_graphic (Nat.lt_trans (by decide) hlo) hhi

lemma mem_line {op : Operation} {c : Char} (hc : c ∈ op.line) : c = ' ' ∨ '#'.toNat < c.toNat := by
  have hmem {ws : List (List Char)} (h : c ∈ [' '].intercalate ws) : c = ' ' ∨ ∃ w ∈ ws, c ∈ w := by
    induction ws with
    | nil => cases h
    | cons w ws ih =>
      cases ws with
      | nil =>
        rw [List.intercalate_singleton] at h
        exact .inr ⟨w, List.mem_cons_self, h⟩
      | cons w' ws =>
        rw [List.intercalate_cons_cons, List.mem_append, List.mem_append] at h
        rcases h with (h | h) | h
        · exact .inr ⟨w, List.mem_cons_self, h⟩
        · exact .inl (List.mem_singleton.1 h)
        · obtain hblank | ⟨v, hv, hc⟩ := ih h
          · exact .inl hblank
          · exact .inr ⟨v, List.mem_cons_of_mem w hv, hc⟩
  obtain hblank | ⟨w, hw, hc⟩ := hmem hc
  · exact .inl hblank
  · exact .inr ((op.words_graphic hw).2 c hc).1

/-- The numbers of the operation are machine numbers. -/
def Representable : Operation → Prop
  | allocate id size | resize id size => id < Checked.bound ∧ size < Checked.bound
  | release id => id < Checked.bound
  | zeroedAllocate id count size =>
    id < Checked.bound ∧ count < Checked.bound ∧ size < Checked.bound

instance : DecidablePred Representable
  | allocate id size | resize id size =>
    inferInstanceAs (Decidable (id < Checked.bound ∧ size < Checked.bound))
  | release id => inferInstanceAs (Decidable (id < Checked.bound))
  | zeroedAllocate id count size =>
    inferInstanceAs (Decidable (id < Checked.bound ∧ count < Checked.bound ∧ size < Checked.bound))

lemma Representable.spells {op : Operation} (h : op.Representable) : Spells op.words op := by
  cases op with
  | allocate id size => exact .allocate (Text.numeral_toDigits h.1) (Text.numeral_toDigits h.2)
  | release id => exact .release (Text.numeral_toDigits h)
  | resize id size => exact .resize (Text.numeral_toDigits h.1) (Text.numeral_toDigits h.2)
  | zeroedAllocate id count size =>
    exact .zeroedAllocate (Text.numeral_toDigits h.1) (Text.numeral_toDigits h.2.1)
      (Text.numeral_toDigits h.2.2)

end Operation

namespace Trace

/-! ## Lines -/

/-- A line with fields in front of the first number sign, and a comment from there on, if there is a
number sign. -/
inductive LineHas (fields : List (List Char)) : List Char → Prop where
  | mk {body comment : List Char} (hbody : '#' ∉ body) (hcomment : ∀ c ∈ comment.head?, c = '#')
      (hfields : Spaced fields body) : LineHas fields (body ++ comment)

/-- A line, and the operation that it asks for, if there is one. -/
inductive LineReads (line : List Char) : Option Operation → Prop where
  | none (hline : LineHas [] line) : LineReads line none
  | some {fields : List (List Char)} {op : Operation} (hline : LineHas fields line)
      (hspells : op.Spells fields) : LineReads line (some op)

/-- A line that holds the words of an operation, or of none, with blanks and comments at will. -/
inductive LineRenders (line : List Char) : Option Operation → Prop where
  | none (hline : LineHas [] line) : LineRenders line none
  | some {op : Operation} (hop : op.Representable) (hline : LineHas op.words line) :
      LineRenders line (some op)

lemma takeWhile_append {body comment : List Char} (hbody : '#' ∉ body)
    (hcomment : ∀ c ∈ comment.head?, c = '#') : (body ++ comment).takeWhile (· ≠ '#') = body := by
  have hkeep : ∀ c ∈ body, decide (c ≠ '#') = true := by
    intro c hc
    exact decide_eq_true fun h => hbody (h ▸ hc)
  rw [List.takeWhile_append_of_pos hkeep]
  cases comment with
  | nil => exact List.append_nil body
  | cons c comment =>
    obtain rfl := hcomment c rfl
    exact List.append_nil body

lemma lineHas_iff {fields : List (List Char)} {line : List Char} :
    LineHas fields line ↔ Text.fields (line.takeWhile (· ≠ '#')) = fields := by
  rw [Text.fields_eq_iff]
  constructor
  · rintro ⟨hbody, hcomment, hfields⟩
    rwa [takeWhile_append hbody hcomment]
  · intro h
    have hmk : LineHas fields (line.takeWhile (· ≠ '#') ++ line.dropWhile (· ≠ '#')) := by
      refine .mk (fun hmem => ?_) (fun c hc => ?_) h
      · exact absurd (List.mem_takeWhile_imp hmem) (by decide)
      · have hstop := List.head?_dropWhile_not (· ≠ '#') line
        rw [Option.mem_def.1 hc] at hstop
        simpa using hstop
    rwa [List.takeWhile_append_dropWhile] at hmk

lemma ofLine_eq_ok_iff {line : List Char} {op? : Option Operation} :
    Operation.ofLine line = .ok op? ↔ LineReads line op? := by
  rw [Operation.ofLine, Operation.ofFields_eq_ok_iff, ← lineHas_iff]
  constructor
  · rintro (⟨hline, rfl⟩ | ⟨op, rfl, hspells⟩)
    · exact .none hline
    · exact .some (lineHas_iff.2 rfl) hspells
  · rintro (hline | ⟨hline, hspells⟩)
    · exact .inl ⟨hline, rfl⟩
    · rw [lineHas_iff] at hline
      exact .inr ⟨_, rfl, hline.symm ▸ hspells⟩

lemma LineRenders.reads {line : List Char} {op? : Option Operation} (h : LineRenders line op?) :
    LineReads line op? := by
  cases h with
  | none hline => exact .none hline
  | some hop hline => exact .some hline hop.spells

/-! ## Texts -/

/-- The operations of lines, each with the number of its line, counted from `start`. -/
def numbered (start : Nat) (ops : List (Option Operation)) : List (Nat × Operation) :=
  (ops.zipIdx start).filterMap fun (op?, n) => op?.map (n, ·)

lemma numbered_none (start : Nat) (ops : List (Option Operation)) :
    numbered start (none :: ops) = numbered (start + 1) ops := rfl

lemma numbered_some (start : Nat) (op : Operation) (ops : List (Option Operation)) :
    numbered start (some op :: ops) = (start, op) :: numbered (start + 1) ops := rfl

lemma map_snd_numbered (start : Nat) (ops : List (Option Operation)) :
    (numbered start ops).map Prod.snd = ops.reduceOption := by
  induction ops generalizing start with
  | nil => rfl
  | cons op? ops ih =>
    cases op? with
    | none => rw [numbered_none, ih, List.reduceOption_cons_of_none]
    | some op => rw [numbered_some, List.map_cons, ih, List.reduceOption_cons_of_some]

lemma parseLines_cons (n : Nat) (line : List Char) (ls : List (List Char)) :
    parseLines n (line :: ls) =
      match Operation.ofLine line with
      | .error reason => .error ⟨n, reason⟩
      | .ok none => parseLines (n + 1) ls
      | .ok (some op) => (parseLines (n + 1) ls).map ((n, op) :: ·) := by
  rw [parseLines]
  cases Operation.ofLine line with
  | error reason => rfl
  | ok op? =>
    cases op? with
    | none => rfl
    | some op => cases parseLines (n + 1) ls <;> rfl

section

variable {start n : Nat} {line : List Char} {ls : List (List Char)} {op : Operation}
variable {ops : List (Nat × Operation)}

lemma parseLines_of_none (hline : LineReads line none) :
    parseLines start (line :: ls) = parseLines (start + 1) ls := by
  rw [parseLines_cons, ofLine_eq_ok_iff.2 hline]

lemma parseLines_of_some (hline : LineReads line (some op)) :
    parseLines start (line :: ls) =
      (parseLines (start + 1) ls).map ((start, op) :: ·) := by
  rw [parseLines_cons, ofLine_eq_ok_iff.2 hline]

lemma parseLines_of_not_reads (hline : ∀ op?, ¬ LineReads line op?) :
    ∃ reason, parseLines start (line :: ls) = .error ⟨start, reason⟩ := by
  cases hread : Operation.ofLine line with
  | error reason =>
    exact ⟨reason, by rw [parseLines_cons, hread]⟩
  | ok op? => exact absurd (ofLine_eq_ok_iff.1 hread) (hline op?)

lemma parseLines_of_reads {read : List (Option Operation)} (h : List.Forall₂ LineReads ls read) :
    parseLines start ls = .ok (numbered start read) := by
  induction h generalizing start with
  | nil => rfl
  | @cons line op? ls read hline _ ih =>
    cases op? with
    | none => rw [parseLines_of_none hline, ih, numbered_none]
    | some op =>
      rw [parseLines_of_some hline, ih, numbered_some]
      rfl

/-- Reading stops at the first line that is not of this form. -/
lemma parseLines_of_first (start : Nat) {before after : List (List Char)}
    (hbefore : ∀ line ∈ before, ∃ op?, LineReads line op?) (hline : ∀ op?, ¬ LineReads line op?) :
    ∃ reason, parseLines start (before ++ line :: after) =
      .error ⟨start + before.length, reason⟩ := by
  induction before generalizing start with
  | nil => exact parseLines_of_not_reads hline
  | cons x before ih =>
    obtain ⟨⟨op?, hx⟩, hbefore⟩ := List.forall_mem_cons.1 hbefore
    obtain ⟨reason, hreason⟩ := ih (start + 1) hbefore
    have hn : start + (x :: before).length = start + 1 + before.length := by
      rw [List.length_cons]
      omega
    refine ⟨reason, ?_⟩
    rw [hn, List.cons_append]
    cases op? with
    | none => rw [parseLines_of_none hx, hreason]
    | some op =>
      rw [parseLines_of_some hx, hreason]
      rfl

end

/-- Either all lines are of this form, or there is a first one that is not. -/
lemma reads_or_first (ls : List (List Char)) :
    (∃ read, List.Forall₂ LineReads ls read) ∨
      ∃ before bad after, ls = before ++ bad :: after ∧
        (∀ line ∈ before, ∃ op?, LineReads line op?) ∧ ∀ op?, ¬ LineReads bad op? := by
  induction ls with
  | nil => exact .inl ⟨[], .nil⟩
  | cons line ls ih =>
    by_cases hline : ∃ op?, LineReads line op?
    · obtain ⟨op?, hop⟩ := hline
      rcases ih with ⟨read, hread⟩ | ⟨before, bad, after, rfl, hbefore, hbad⟩
      · exact .inl ⟨op? :: read, .cons hop hread⟩
      · exact .inr ⟨line :: before, bad, after, rfl,
          List.forall_mem_cons.2 ⟨⟨op?, hop⟩, hbefore⟩, hbad⟩
    · exact .inr ⟨[], line, ls, rfl, nofun, not_exists.1 hline⟩

section

variable {text : String} {ls : List (List Char)}

lemma parse_of_reads {read : List (Option Operation)} (hsplits : Splits ls text.toList)
    (hread : List.Forall₂ LineReads ls read) : parse text = .ok ⟨numbered 1 read⟩ := by
  rw [parse, hsplits.lines_eq, parseLines_of_reads hread]
  rfl

lemma parse_of_first {before after : List (List Char)} {bad : List Char}
    (hsplits : Splits (before ++ bad :: after) text.toList)
    (hbefore : ∀ line ∈ before, ∃ op?, LineReads line op?) (hbad : ∀ op?, ¬ LineReads bad op?) :
    ∃ reason, parse text = .error ⟨before.length + 1, reason⟩ := by
  obtain ⟨reason, hreason⟩ := parseLines_of_first 1 hbefore hbad
  refine ⟨reason, ?_⟩
  rw [parse, hsplits.lines_eq, hreason, Nat.add_comm]
  rfl

end

lemma parse_cases (text : String) :
    (∃ ls read, Splits ls text.toList ∧ List.Forall₂ LineReads ls read ∧
      parse text = .ok ⟨numbered 1 read⟩) ∨
    ∃ before bad after reason, Splits (before ++ bad :: after) text.toList ∧
      (∀ line ∈ before, ∃ op?, LineReads line op?) ∧ (∀ op?, ¬ LineReads bad op?) ∧
      parse text = .error ⟨before.length + 1, reason⟩ := by
  have hlines := Text.splits_lines text.toList
  rcases reads_or_first (Text.lines text.toList) with
    ⟨read, hread⟩ | ⟨before, bad, after, hls, hbefore, hbad⟩
  · exact .inl ⟨_, read, hlines, hread, parse_of_reads hlines hread⟩
  · rw [hls] at hlines
    obtain ⟨reason, hparse⟩ := parse_of_first hlines hbefore hbad
    exact .inr ⟨before, bad, after, reason, hlines, hbefore, hbad, hparse⟩

/-- **Traces parse as their grammar says.**  A text is a trace exactly if each of its lines is empty
or asks for an operation, apart from blanks and a comment; the operations are then those of the
lines in order, with the numbers of the lines counted from one over all of them.  Any other text is
refused with the number of the first line that is neither.  And operations that were rendered in
decimal, one on a line, with blanks, empty lines and comments at will, come back as they were. -/
theorem parses_its_grammar (text : String) :
    (∀ trace, parse text = .ok trace ↔ ∃ ls read, Splits ls text.toList ∧
      List.Forall₂ LineReads ls read ∧ trace.ops = numbered 1 read) ∧
    (∀ n, (∃ reason, parse text = .error ⟨n, reason⟩) ↔
      ∃ before bad after, Splits (before ++ bad :: after) text.toList ∧ n = before.length + 1 ∧
        (∀ line ∈ before, ∃ op?, LineReads line op?) ∧ ∀ op?, ¬ LineReads bad op?) ∧
    (∀ ls rendered, Splits ls text.toList → List.Forall₂ LineRenders ls rendered →
      ∃ trace, parse text = .ok trace ∧ trace.ops.map Prod.snd = rendered.reduceOption) := by
  refine ⟨fun trace => ⟨fun h => ?_, ?_⟩, fun n => ⟨?_, ?_⟩, ?_⟩
  · obtain ⟨ls, read, hsplits, hread, hparse⟩ | ⟨_, _, _, _, -, -, -, hparse⟩ := parse_cases text
    · obtain rfl := Except.ok.inj (hparse.symm.trans h)
      exact ⟨ls, read, hsplits, hread, rfl⟩
    · cases hparse.symm.trans h
  · rintro ⟨ls, read, hsplits, hread, hops⟩
    rw [parse_of_reads hsplits hread, ← hops]
  · rintro ⟨reason, h⟩
    obtain ⟨_, _, -, -, hparse⟩ | ⟨before, bad, after, reason', hsplits, hbefore, hbad, hparse⟩ :=
      parse_cases text
    · cases hparse.symm.trans h
    · obtain ⟨hn, -⟩ := ParseError.mk.inj (Except.error.inj (hparse.symm.trans h))
      exact ⟨before, bad, after, hsplits, hn.symm, hbefore, hbad⟩
  · rintro ⟨before, bad, after, hsplits, rfl, hbefore, hbad⟩
    exact parse_of_first hsplits hbefore hbad
  · intro ls rendered hsplits hrendered
    refine ⟨_, parse_of_reads hsplits (hrendered.imp fun _ _ => LineRenders.reads), ?_⟩
    exact map_snd_numbered 1 rendered

/-- Two operations with a comment line between them, with tabs and with both ends of lines. -/
theorem parses_its_grammar_around_a_comment :
    ∃ trace, parse "a 0 16 # first\r\n# a comment\n\tf  0" = .ok trace ∧
      trace.ops.map Prod.snd = [.allocate 0 16, .release 0] := by
  have hsplits : Splits ["a 0 16 # first".toList, "# a comment".toList, "\tf  0".toList]
      "a 0 16 # first\r\n# a comment\n\tf  0".toList := Text.lines_eq_iff.1 (by decide)
  have hallocate : LineRenders "a 0 16 # first".toList (some (.allocate 0 16)) :=
    .some (by decide) (lineHas_iff.2 (by decide))
  have hcomment : LineRenders "# a comment".toList none := .none (lineHas_iff.2 (by decide))
  have hrelease : LineRenders "\tf  0".toList (some (.release 0)) :=
    .some (by decide) (lineHas_iff.2 (by decide))
  have hrendered := List.Forall₂.cons hallocate (.cons hcomment (.cons hrelease .nil))
  exact (parses_its_grammar _).2.2 _ _ hsplits hrendered

/-! ## The plain text of operations -/

/-- The operations one on a line, with neither comments nor blanks to spare. -/
def plain (ops : List Operation) : List Char := ops.flatMap fun op => op.line ++ ['\n']

lemma splits_plain (ops : List Operation) : Splits (ops.map Operation.line) (plain ops) := by
  induction ops with
  | nil => exact .nil
  | cons op ops ih =>
    have hline : '\n' ∉ op.line := fun h => absurd (Operation.mem_line h) (by decide)
    have hreturn : op.line.getLast? ≠ some '\r' :=
      fun h => absurd (Operation.mem_line (List.mem_of_getLast? h)) (by decide)
    rw [List.map_cons, plain, List.flatMap_cons, List.append_assoc]
    exact .lf hline hreturn ih

lemma lineRenders_line {op : Operation} (hop : op.Representable) :
    LineRenders op.line (some op) := by
  have hbody : '#' ∉ op.line := fun h => absurd (Operation.mem_line h) (by decide)
  have hline : LineHas op.words (op.line ++ []) := .mk hbody nofun op.spaced_line
  rw [List.append_nil] at hline
  exact .some hop hline

/-- **Every list of operations has a text.**  Its plain text reads back as the operations, with the
numbers from one on as the numbers of their lines. -/
theorem parse_plain {ops : List Operation} (hops : ∀ op ∈ ops, op.Representable) :
    parse (String.ofList (plain ops)) = .ok ⟨numbered 1 (ops.map some)⟩ := by
  have hrenders : List.Forall₂ LineRenders (ops.map Operation.line) (ops.map some) := by
    rw [List.forall₂_map_left_iff, List.forall₂_map_right_iff, List.forall₂_same]
    exact fun op hop => lineRenders_line (hops op hop)
  have hsplits : Splits (ops.map Operation.line) (String.ofList (plain ops)).toList := by
    rw [String.toList_ofList]
    exact splits_plain ops
  exact parse_of_reads hsplits (hrenders.imp fun _ _ => LineRenders.reads)

end Trace

end BlockHeap
