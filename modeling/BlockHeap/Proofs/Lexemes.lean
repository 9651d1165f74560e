import BlockHeap.Text.Blank
import BlockHeap.Text.Numeral
import Mathlib.Tactic.Lemma

/-!
# Lines, fields and numerals

What the readers of text make of their input is stated here without them.  `Text.Splits` says how
lines and their ends make up a text, `Text.Spaced` how fields and the blanks between them make up a
line, and `Text.Numeral` how digits make up a number.  Each reader finds the one way to read its
input in this sense (`Text.lines_eq_iff`, `Text.fields_eq_iff`), or the value of a numeral if there
is one (`Text.numeral_eq_ok_iff`).
-/

namespace BlockHeap

namespace Text

/-! ## Numerals -/

/-- An optional plus sign and one or more decimal digits, with a value that is a machine number.
Leading zeros are allowed. -/
inductive Numeral : List Char → Nat → Prop where
  | plain {ds : List Char} (hne : ds ≠ []) (hdigits : ∀ c ∈ ds, c.isDigit = true)
      (hlt : Nat.ofDigitChars 10 ds 0 < Checked.bound) : Numeral ds (Nat.ofDigitChars 10 ds 0)
  | signed {ds : List Char} (hne : ds ≠ []) (hdigits : ∀ c ∈ ds, c.isDigit = true)
      (hlt : Nat.ofDigitChars 10 ds 0 < Checked.bound) :
      Numeral ('+' :: ds) (Nat.ofDigitChars 10 ds 0)

lemma le_ofDigitChars (cs : List Char) (value : Nat) : value ≤ Nat.ofDigitChars 10 cs value := by
  induction cs generalizing value with
  | nil => exact Nat.le_of_eq Nat.ofDigitChars_nil.symm
  | cons c cs ih =>
    rw [Nat.ofDigitChars_cons]
    exact Nat.le_trans (by omega) (ih _)

/-- Reading digits comes to their value.  Values only grow, so it is enough to look at the last one
to see that all are machine numbers. -/
lemma digits_eq_ok_iff {cs : List Char} {value n : Nat} (hvalue : value < Checked.bound) :
    digits value cs = .ok n ↔ (∀ c ∈ cs, c.isDigit = true) ∧
      Nat.ofDigitChars 10 cs value < Checked.bound ∧ n = Nat.ofDigitChars 10 cs value := by
  induction cs generalizing value with
  | nil =>
    rw [digits, Nat.ofDigitChars_nil]
    constructor
    · intro h
      exact ⟨nofun, hvalue, (Except.ok.inj h).symm⟩
    · rintro ⟨-, -, rfl⟩
      rfl
  | cons c cs ih =>
    have hstep : 10 * value + (c.toNat - '0'.toNat) = value * 10 + (c.toNat - '0'.toNat) := by
      rw [Nat.mul_comm]
    rw [Nat.ofDigitChars_cons, hstep]
    simp only [digits]
    have hle := le_ofDigitChars cs (value * 10 + (c.toNat - '0'.toNat))
    split
    · next hdigit =>
      split
      · next hlt => rw [ih hlt, List.forall_mem_cons, and_iff_right hdigit]
      · next hge =>
        refine iff_of_false nofun ?_
        rintro ⟨-, hlt, -⟩
        exact hge (Nat.lt_of_le_of_lt hle hlt)
    · next hno =>
      refine iff_of_false nofun ?_
      rintro ⟨hdigits, -⟩
      exact hno (hdigits c List.mem_cons_self)

lemma numeral_eq_ok_iff {field : List Char} {n : Nat} :
    numeral field = .ok n ↔ Numeral field n := by
  have hzero : 0 < Checked.bound := by decide
  constructor
  · intro h
    unfold numeral at h
    split at h
    · cases h
    · cases h
    · next rest hne =>
      obtain ⟨hdigits, hlt, rfl⟩ := (digits_eq_ok_iff hzero).1 h
      exact .signed hne hdigits hlt
    · next hne hplus hsigned =>
      obtain ⟨hdigits, hlt, rfl⟩ := (digits_eq_ok_iff hzero).1 h
      exact .plain hne hdigits hlt
  · intro h
    have hplus : ¬ '+'.isDigit = true := by decide
    cases h with
    | plain hne hdigits hlt =>
      unfold numeral
      split
      · exact absurd rfl hne
      · exact absurd (hdigits '+' (by simp)) hplus
      · exact absurd (hdigits '+' (by simp)) hplus
      · exact (digits_eq_ok_iff hzero).2 ⟨hdigits, hlt, rfl⟩
    | signed hne hdigits hlt =>
      unfold numeral
      split
      · next heq => cases heq
      · next heq => exact absurd (List.cons.inj heq).2 hne
      · next heq =>
        obtain ⟨-, rfl⟩ := List.cons.inj heq
        exact (digits_eq_ok_iff hzero).2 ⟨hdigits, hlt, rfl⟩
      · next _ hsigned => exact absurd rfl (hsigned _)

/-- The decimal digits of a machine number are a numeral for it. -/
lemma numeral_toDigits {n : Nat} (hn : n < Checked.bound) : Numeral (Nat.toDigits 10 n) n := by
  have hvalue : Nat.ofDigitChars 10 (Nat.toDigits 10 n) 0 = n := Nat.ofDigitChars_ten_toDigits
  have hdigits : ∀ c ∈ Nat.toDigits 10 n, c.isDigit = true :=
    fun c hc => Nat.isDigit_of_mem_toDigits (by decide) (by decide) hc
  have hnumeral := Numeral.plain Nat.toDigits_ne_nil hdigits (hvalue.symm ▸ hn)
  rwa [hvalue] at hnumeral

/-! ## Fields -/

/-- The fields, with blanks between them and perhaps before and after, make up the text. -/
inductive Spaced : List (List Char) → List Char → Prop where
  | blank {blanks : List Char} (hblank : ∀ c ∈ blanks, isBlank c = true) : Spaced [] blanks
  | field {blanks field rest : List Char} {fields : List (List Char)}
      (hblank : ∀ c ∈ blanks, isBlank c = true) (hne : field ≠ [])
      (hfield : ∀ c ∈ field, isBlank c = false)
      -- a field ends at a blank or with the text
      (hend : ∀ c ∈ rest.head?, isBlank c = true) (hrest : Spaced fields rest) :
      Spaced (field :: fields) (blanks ++ (field ++ rest))

lemma fields_cons_of_blank {c : Char} (hc : isBlank c = true) (text : List Char) :
    fields (c :: text) = fields text := by
  simp [fields, List.splitOnP_cons_eq_if_modifyHead, hc]

lemma fields_append_of_blank {blanks : List Char} (hblank : ∀ c ∈ blanks, isBlank c = true)
    (text : List Char) : fields (blanks ++ text) = fields text := by
  induction blanks with
  | nil => rfl
  | cons c blanks ih =>
    obtain ⟨hc, hblank⟩ := List.forall_mem_cons.1 hblank
    rw [List.cons_append, fields_cons_of_blank hc, ih hblank]

lemma fields_append_of_field {field rest : List Char} (hne : field ≠ [])
    (hfield : ∀ c ∈ field, isBlank c = false) (hend : ∀ c ∈ rest.head?, isBlank c = true) :
    fields (field ++ rest) = field :: fields rest := by
  have hkeep : (!field.isEmpty) = true := by simpa using hne
  cases rest with
  | nil => simp [fields, List.splitOnP_eq_singleton hfield, hkeep]
  | cons c rest =>
    have hc : isBlank c = true := hend c rfl
    rw [fields_cons_of_blank hc]
    unfold fields
    rw [List.splitOnP_append_cons_of_forall_mem hfield c hc, List.filter_cons, if_pos hkeep]

lemma Spaced.fields_eq {fs : List (List Char)} {text : List Char} (h : Spaced fs text) :
    fields text = fs := by
  induction h with
  | blank hblank =>
    have hfields := fields_append_of_blank hblank []
    rwa [List.append_nil] at hfields
  | field hblank hne hfield hend _ ih =>
    rw [fields_append_of_blank hblank, fields_append_of_field hne hfield hend, ih]

/-- A character in front of a text is a blank before its first field, belongs to that field, or is a
field of its own. -/
lemma Spaced.exists_cons {fs : List (List Char)} {text : List Char} (h : Spaced fs text)
    (c : Char) : ∃ fs', Spaced fs' (c :: text) := by
  cases hc : isBlank c with
  | true =>
    cases h with
    | blank hblank => exact ⟨_, .blank (List.forall_mem_cons.2 ⟨hc, hblank⟩)⟩
    | field hblank hne hfield hend hrest =>
      exact ⟨_, .field (List.forall_mem_cons.2 ⟨hc, hblank⟩) hne hfield hend hrest⟩
  | false =>
    by_cases hend : ∀ x ∈ text.head?, isBlank x = true
    · have hsingle : ∀ x ∈ [c], isBlank x = false := by simpa using hc
      have hspaced : Spaced ([c] :: fs) ([] ++ ([c] ++ text)) :=
        .field nofun (List.cons_ne_nil c []) hsingle hend h
      exact ⟨_, hspaced⟩
    · cases h with
      | blank hblank => exact absurd (fun x hx => hblank x (List.mem_of_mem_head? hx)) hend
      | @field blanks field rest fields hblank hne hfield hrestEnd hrest =>
        cases blanks with
        | nil =>
          have hspaced : Spaced ((c :: field) :: fields) ([] ++ (c :: field ++ rest)) :=
            .field nofun (List.cons_ne_nil c field) (List.forall_mem_cons.2 ⟨hc, hfield⟩) hrestEnd
              hrest
          exact ⟨_, hspaced⟩
        | cons b blanks =>
          refine absurd (fun x hx => ?_) hend
          obtain rfl := Option.some.inj hx
          exact hblank b List.mem_cons_self

lemma spaced_fields (text : List Char) : Spaced (fields text) text := by
  have hexists : ∃ fs, Spaced fs text := by
    induction text with
    | nil => exact ⟨[], .blank nofun⟩
    | cons c text ih =>
      obtain ⟨fs, h⟩ := ih
      exact h.exists_cons c
  obtain ⟨fs, h⟩ := hexists
  rwa [h.fields_eq]

lemma fields_eq_iff {fs : List (List Char)} {text : List Char} :
    fields text = fs ↔ Spaced fs text := by
  constructor
  · rintro rfl
    exact spaced_fields text
  · exact Spaced.fields_eq

lemma spaced_intercalate {fs : List (List Char)}
    (h : ∀ f ∈ fs, f ≠ [] ∧ ∀ c ∈ f, isBlank c = false) : Spaced fs ([' '].intercalate fs) := by
  rw [← fields_eq_iff]
  induction fs with
  | nil => rfl
  | cons f fs ih =>
    obtain ⟨⟨hne, hf⟩, hfs⟩ := List.forall_mem_cons.1 h
    cases fs with
    | nil =>
      have hfields : fields (f ++ []) = f :: fields [] := fields_append_of_field hne hf nofun
      rw [List.append_nil] at hfields
      rw [List.intercalate_singleton, hfields]
      rfl
    | cons f' fs =>
      have hend : ∀ c ∈ ([' '] ++ [' '].intercalate (f' :: fs)).head?, isBlank c = true := by
        rintro c ⟨⟩
        rfl
      rw [List.intercalate_cons_cons, List.append_assoc, fields_append_of_field hne hf hend,
        fields_append_of_blank (by simp [isBlank]), ih hfs]

lemma isBlank_of_graphic {c : Char} (hlo : 0x20 < c.toNat) (hhi : c.toNat < 0x7F) :
    isBlank c = false := by
  simp only [isBlank, Bool.or_eq_false_iff, Bool.and_eq_false_iff, decide_eq_false_iff_not,
    beq_eq_false_iff_ne]
  omega

/-! ## Lines -/

/-- The lines, each with a line feed behind it, or with a carriage return and a line feed, make up
the text.  The last line may do without, unless it is empty. -/
inductive Splits : List (List Char) → List Char → Prop where
  | nil : Splits [] []
  | last {line : List Char} (hne : line ≠ []) (hline : '\n' ∉ line) : Splits [line] line
  | lf {line rest : List Char} {lines : List (List Char)} (hline : '\n' ∉ line)
      -- a carriage return before the line feed would belong to the end of the line
      (hreturn : line.getLast? ≠ some '\r') (hrest : Splits lines rest) :
      Splits (line :: lines) (line ++ '\n' :: rest)
  | crlf {line rest : List Char} {lines : List (List Char)} (hline : '\n' ∉ line)
      (hrest : Splits lines rest) : Splits (line :: lines) (line ++ '\r' :: '\n' :: rest)

lemma lines_cons {c : Char} {text : List Char} (hc : c ≠ '\n')
    (hreturn : c = '\r' → text.head? ≠ some '\n') :
    lines (c :: text) = consLine c (lines text) := by
  apply lines.eq_4
  · exact hc
  · rintro rest rfl rfl
    exact hreturn rfl rfl

lemma lines_of_last {line : List Char} (hne : line ≠ []) (hline : '\n' ∉ line) :
    lines line = [line] := by
  induction line with
  | nil => exact absurd rfl hne
  | cons c line ih =>
    have hc := List.ne_of_not_mem_cons hline
    replace hline := List.not_mem_of_not_mem_cons hline
    rw [lines_cons (Ne.symm hc) fun _ hhead => hline (List.mem_of_mem_head? hhead)]
    cases line with
    | nil => rfl
    | cons x line => rw [ih (List.cons_ne_nil x line) hline, consLine]

lemma lines_of_lf {line rest : List Char} (hline : '\n' ∉ line)
    (hreturn : line.getLast? ≠ some '\r') : lines (line ++ '\n' :: rest) = line :: lines rest := by
  induction line with
  | nil => rfl
  | cons c line ih =>
    have hc := List.ne_of_not_mem_cons hline
    replace hline := List.not_mem_of_not_mem_cons hline
    cases line with
    | nil =>
      rw [List.cons_append, lines_cons (Ne.symm hc) fun h => absurd (congrArg some h) hreturn]
      rfl
    | cons x line =>
      have hx : x ≠ '\n' := fun h => hline (h ▸ List.mem_cons_self)
      have hhead : (x :: line ++ '\n' :: rest).head? ≠ some '\n' := fun h => hx (Option.some.inj h)
      rw [List.cons_append, lines_cons (Ne.symm hc) fun _ => hhead, ih hline hreturn, consLine]

lemma lines_of_crlf {line rest : List Char} (hline : '\n' ∉ line) :
    lines (line ++ '\r' :: '\n' :: rest) = line :: lines rest := by
  induction line with
  | nil => rfl
  | cons c line ih =>
    have hc := List.ne_of_not_mem_cons hline
    replace hline := List.not_mem_of_not_mem_cons hline
    have hhead : (line ++ '\r' :: '\n' :: rest).head? ≠ some '\n' := by
      cases line with
      | nil => exact fun h => absurd (Option.some.inj h) (by decide)
      | cons x line => exact fun h => hline (Option.some.inj h ▸ List.mem_cons_self)
    rw [List.cons_append, lines_cons (Ne.symm hc) fun _ => hhead, ih hline, consLine]

lemma Splits.lines_eq {ls : List (List Char)} {text : List Char} (h : Splits ls text) :
    lines text = ls := by
  induction h with
  | nil => rfl
  | last hne hline => exact lines_of_last hne hline
  | lf hline hreturn _ ih => rw [lines_of_lf hline hreturn, ih]
  | crlf hline _ ih => rw [lines_of_crlf hline, ih]

/-- A character in front of a text that does not end a line belongs to its first line. -/
lemma Splits.consLine {ls : List (List Char)} {text : List Char} (h : Splits ls text) {c : Char}
    (hc : c ≠ '\n') (hreturn : c = '\r' → text.head? ≠ some '\n') :
    Splits (Text.consLine c ls) (c :: text) := by
  have hmem {line : List Char} (hline : '\n' ∉ line) : '\n' ∉ c :: line := by
    simpa [Ne.symm hc] using hline
  cases h with
  | nil => exact .last (List.cons_ne_nil c []) (hmem List.not_mem_nil)
  | last hne hline => exact .last (List.cons_ne_nil c text) (hmem hline)
  | @lf line rest lines hline hlast hrest =>
    refine Splits.lf (hmem hline) ?_ hrest
    cases line with
    | nil => exact fun h => hreturn (Option.some.inj h) rfl
    | cons x line => exact hlast
  | crlf hline hrest => exact Splits.crlf (hmem hline) hrest

lemma splits_lines (text : List Char) : Splits (lines text) text := by
  fun_induction lines text with
  | case1 => exact .nil
  | case2 rest ih =>
    have hsplits : Splits ([] :: lines rest) ([] ++ '\n' :: rest) := .lf List.not_mem_nil nofun ih
    exact hsplits
  | case3 rest ih =>
    have hsplits : Splits ([] :: lines rest) ([] ++ '\r' :: '\n' :: rest) :=
      .crlf List.not_mem_nil ih
    exact hsplits
  | case4 c rest hc hreturn ih =>
    refine ih.consLine hc ?_
    intro hr hhead
    obtain ⟨tail, rfl⟩ := List.head?_eq_some_iff.1 hhead
    exact hreturn tail hr rfl

lemma lines_eq_iff {ls : List (List Char)} {text : List Char} :
    lines text = ls ↔ Splits ls text := by
  constructor
  · rintro rfl
    exact splits_lines text
  · exact Splits.lines_eq

end Text

end BlockHeap
