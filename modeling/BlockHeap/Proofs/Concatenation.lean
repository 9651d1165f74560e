import BlockHeap.Proofs.Grammar

/-!
# Texts one after the other

If every line of a text has its end, the lines of another text that is put behind it are lines of
both (`Text.lines_append`).  A reader that counts lines goes on counting there, so all that the
second text comes to, operations and errors alike, it comes to with its lines that much further
down (`Trace.parseLines_add`).  `Trace.parse_append` puts the two together.
-/

namespace BlockHeap

namespace Text

variable {ls ls' : List (List Char)} {text text' : List Char}

/-- Every line has its end: the text is empty or its last character is a line feed. -/
def Ended (text : List Char) : Prop := ∀ c ∈ text.getLast?, c = '\n'

instance : DecidablePred Ended := fun text =>
  decidable_of_iff (text.getLast?.all (· = '\n') = true) (by simp [Ended, Option.all_eq_true])

lemma Ended.of_append {before rest : List Char} (h : Ended (before ++ '\n' :: rest)) :
    Ended rest := by
  intro c hc
  apply h c
  rw [List.getLast?_append, List.getLast?_cons, Option.mem_def.1 hc]
  rfl

lemma not_ended_of_last {line : List Char} (hne : line ≠ []) (hline : '\n' ∉ line) :
    ¬ Ended line := by
  intro h
  have hlast := h _ (List.getLast?_eq_some_getLast hne)
  exact hline (hlast ▸ List.getLast_mem hne)

lemma Splits.append (h : Splits ls text) (hended : Ended text) (h' : Splits ls' text') :
    Splits (ls ++ ls') (text ++ text') := by
  induction h with
  | nil => exact h'
  | last hne hline => exact absurd hended (not_ended_of_last hne hline)
  | @lf line rest lines hline hreturn _ ih =>
    rw [List.cons_append, List.append_assoc, List.cons_append]
    exact .lf hline hreturn (ih hended.of_append)
  | @crlf line rest lines hline _ ih =>
    rw [List.append_cons] at hended
    rw [List.cons_append, List.append_assoc, List.cons_append, List.cons_append]
    exact .crlf hline (ih hended.of_append)

lemma lines_append (hended : Ended text) (text' : List Char) :
    lines (text ++ text') = lines text ++ lines text' :=
  ((splits_lines text).append hended (splits_lines text')).lines_eq

lemma Splits.length_eq (h : Splits ls text) (hended : Ended text) :
    ls.length = text.count '\n' := by
  induction h with
  | nil => rfl
  | last hne hline => exact absurd hended (not_ended_of_last hne hline)
  | @lf line rest lines hline _ _ ih =>
    rw [List.length_cons, ih hended.of_append, List.count_append, List.count_eq_zero.2 hline,
      List.count_cons_self, Nat.zero_add]
  | @crlf line rest lines hline _ ih =>
    rw [List.append_cons] at hended
    rw [List.length_cons, ih hended.of_append, List.count_append, List.count_eq_zero.2 hline,
      List.count_cons_of_ne (by decide), List.count_cons_self, Nat.zero_add]

end Text

/-- The same error so many lines further down. -/
def ParseError.below (k : Nat) (error : ParseError) : ParseError := ⟨k + error.line, error.reason⟩

namespace Trace

/-- The same operations so many lines further down. -/
def below (k : Nat) (ops : List (Nat × Operation)) : List (Nat × Operation) :=
  ops.map fun (n, op) => (k + n, op)

/-- Reading lines further down. -/
lemma parseLines_add (k n : Nat) (ls : List (List Char)) :
    parseLines (k + n) ls = ((parseLines n ls).map (below k)).mapError (ParseError.below k) := by
  induction ls generalizing n with
  | nil => rfl
  | cons line ls ih =>
    rw [parseLines_cons, parseLines_cons, Nat.add_assoc, ih]
    cases Operation.ofLine line with
    | error reason => rfl
    | ok op? =>
      cases op? with
      | none => rfl
      | some op => cases parseLines (n + 1) ls <;> rfl

lemma parseLines_append (n : Nat) (ls ls' : List (List Char)) :
    parseLines n (ls ++ ls') =
      parseLines n ls >>= fun ops => (parseLines (n + ls.length) ls').map (ops ++ ·) := by
  induction ls generalizing n with
  | nil =>
    change parseLines n ls' = (parseLines n ls').map ([] ++ ·)
    cases parseLines n ls' <;> rfl
  | cons line ls ih =>
    rw [List.cons_append, List.length_cons, Nat.add_comm ls.length, ← Nat.add_assoc,
      parseLines_cons, parseLines_cons, ih]
    cases Operation.ofLine line with
    | error reason => rfl
    | ok op? =>
      cases op? with
      | none => rfl
      | some op =>
        cases parseLines (n + 1) ls with
        | error error => rfl
        | ok ops => cases parseLines (n + 1 + ls.length) ls' <;> rfl

section

variable {t₁ : String}

/-- Reading two texts is reading the first, and then the second further down. -/
lemma parse_append_eq (hended : Text.Ended t₁.toList) (t₂ : String) :
    parse (t₁ ++ t₂) = parse t₁ >>= fun trace =>
      ((parse t₂).map fun trace' =>
        ⟨trace.ops ++ below (Text.lines t₁.toList).length trace'.ops⟩).mapError
          (ParseError.below (Text.lines t₁.toList).length) := by
  rw [parse, String.toList_append, Text.lines_append hended, parseLines_append, Nat.add_comm 1,
    parseLines_add, parse, parse]
  cases parseLines 1 (Text.lines t₁.toList) with
  | error error => rfl
  | ok ops => cases parseLines 1 (Text.lines t₂.toList) <;> rfl

/-- **Reading is line by line.**  Take a text of `k` lines, all of which have their end, and any
text behind it.  If the first is no trace, its error is that of both.  If it is, the error of the second,
if there is one, is that of both, with `k` added to its line; and if both are traces then both
together are the operations of the first and then those of the second, with `k` added to each of the
latter's lines. -/
theorem parse_append (hended : Text.Ended t₁.toList) (t₂ : String) :
    ∃ k, (Text.lines t₁.toList).length = k ∧ t₁.toList.count '\n' = k ∧
      (∀ error, parse t₁ = .error error → parse (t₁ ++ t₂) = .error error) ∧
      ∀ trace₁, parse t₁ = .ok trace₁ →
        (∀ j reason, parse t₂ = .error ⟨j, reason⟩ →
          parse (t₁ ++ t₂) = .error ⟨k + j, reason⟩) ∧
        ∀ trace₂, parse t₂ = .ok trace₂ →
          parse (t₁ ++ t₂) = .ok ⟨trace₁.ops ++ trace₂.ops.map fun (n, op) => (k + n, op)⟩ := by
  refine ⟨_, rfl, ((Text.splits_lines _).length_eq hended).symm, ?_, ?_⟩
  · intro error herror
    rw [parse_append_eq hended, herror]
    rfl
  · intro trace₁ htrace₁
    rw [parse_append_eq hended, htrace₁]
    refine ⟨?_, ?_⟩
    · intro j reason herror
      rw [herror]
      rfl
    · intro trace₂ htrace₂
      rw [htrace₂]
      rfl

/-- Behind two lines, one of them a comment, the third line of a text is the fifth. -/
theorem parse_append_behind_a_comment :
    parse ("a 0 16\r\n# x\n" ++ "\n\nf 0\r") = .ok ⟨[(1, .allocate 0 16), (5, .release 0)]⟩ ∧
    parse ("a 0 16\r\n# x\n" ++ "f 0 7") = .error ⟨3, .unexpectedField ['7']⟩ ∧
    parse ("a 0\n" ++ "f 0 7") = .error ⟨1, .missing .size⟩ := by
  have hfirst : parse "a 0 16\r\n# x\n" = .ok ⟨[(1, .allocate 0 16)]⟩ := by decide +kernel
  have hended : Text.Ended "a 0 16\r\n# x\n".toList := by decide
  have hbad : parse "a 0\n" = .error ⟨1, .missing .size⟩ := by decide +kernel
  have hended' : Text.Ended "a 0\n".toList := by decide
  obtain ⟨k, hk, -, -, hbehind⟩ := parse_append hended "\n\nf 0\r"
  obtain ⟨k', hk', -, -, hbehind'⟩ := parse_append hended "f 0 7"
  obtain rfl : k = 2 := hk.symm.trans (by decide)
  obtain rfl : k' = 2 := hk'.symm.trans (by decide)
  obtain ⟨-, -, -, hsame, -⟩ := parse_append hended' "f 0 7"
  exact ⟨(hbehind _ hfirst).2 ⟨[(3, .release 0)]⟩ (by decide +kernel),
    (hbehind' _ hfirst).1 1 _ (by decide +kernel), hsame _ hbad⟩

end

end Trace

end BlockHeap
