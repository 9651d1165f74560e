import BlockHeap.Memory
import Mathlib.Tactic.Common
import Mathlib.Tactic.IntervalCases

/-!
# Writes to a memory and what they leave alone

Every operation of a heap is a short run of word writes and now and then a run of bytes.  This
file fixes the one vocabulary in which their effect is stated: `ChangedOnly touched m m'` says
that `m'` is `m` except at the offsets with `touched`.  The relation composes, so the frame of an
operation is read off the frames of its writes, and `ChangedOnly.wordAt` turns it into equality of
the words that no write has met.

`writeWord_eq` and `readWord_eq` are the total forms of the two word accesses: inside the memory
they succeed, and `setWord` is what a write leaves behind.
-/

namespace BlockHeap

@[simp] lemma Fault.ok_bind {α β : Type} (a : α) (f : α → Except Fault β) :
    (Except.ok a >>= f) = f a :=
  rfl

@[simp] lemma Fault.pure_eq {α : Type} (a : α) : (pure a : Except Fault α) = .ok a :=
  rfl

@[simp] lemma Fault.map_eq {α β : Type} (f : α → β) (a : α) :
    f <$> (Except.ok a : Except Fault α) = .ok (f a) :=
  rfl

@[simp] lemma Fault.map_ok {α β : Type} (f : α → β) (a : α) :
    (Except.ok a : Except Fault α).map f = .ok (f a) :=
  rfl

lemma Checked.add_eq {a b : Nat} (h : a + b < bound) : add a b = .ok (a + b) := if_pos h

lemma Checked.sub_eq {a b : Nat} (h : b ≤ a) : sub a b = .ok (a - b) := if_pos h

lemma Checked.count_eq {n : Nat} (h : n < bound) : count n = .ok n := if_pos h

lemma Checked.count_of_le {n : Nat} (h : bound ≤ n) : count n = .error .overflow :=
  if_neg (Nat.not_lt.2 h)

namespace Memory

/-- Past the end there are zeros. -/
lemma byte_of_size_le {m : Memory} {pos : Nat} (h : m.size ≤ pos) : m.byte pos = 0 :=
  dif_neg (Nat.not_lt.2 h)

/-! ## Words -/

/-- The memory with a word written at `pos`. -/
def setWord (m : Memory) (pos : Nat) (word : UInt64) : Memory :=
  m.overwrite pos wordSize (byteOfWord word)

@[simp] lemma size_setWord (m : Memory) (pos : Nat) (word : UInt64) :
    (m.setWord pos word).size = m.size :=
  size_overwrite ..

lemma readWord_eq {m : Memory} {pos : Nat} (h : pos + 8 ≤ m.size) :
    m.readWord pos = .ok (m.wordAt pos) :=
  if_pos h

lemma writeWord_eq {m : Memory} {pos : Nat} (word : UInt64) (h : pos + 8 ≤ m.size) :
    m.writeWord pos word = .ok (m.setWord pos word) :=
  if_pos h

lemma wordAt_setWord {m : Memory} {pos : Nat} (word : UInt64) (h : pos + 8 ≤ m.size) :
    (m.setWord pos word).wordAt pos = word :=
  wordAt_overwrite_word m word h

/-- The bytes of a word are those that it was read from. -/
lemma byteOfWord_wordAt (m : Memory) (pos : Nat) {i : Nat} (hi : i < 8) :
    byteOfWord (m.wordAt pos) i = m.byte (pos + i) := by
  have hlt : ∀ k, (m.byte (pos + k)).toNat < 256 := fun k => (m.byte (pos + k)).toNat_lt
  have h₀ := hlt 0
  have h₁ := hlt 1
  have h₂ := hlt 2
  have h₃ := hlt 3
  have h₄ := hlt 4
  have h₅ := hlt 5
  have h₆ := hlt 6
  have h₇ := hlt 7
  apply UInt8.toNat_inj.1
  rw [toNat_byteOfWord _ hi, toNat_wordAt, Nat.shiftRight_eq_div_pow]
  interval_cases i <;> simp only [Nat.add_zero, Nat.reduceMul, Nat.reducePow] at * <;> omega

/-- Memories with the same word, one of them further up, have the same bytes there. -/
lemma byte_add_eq_of_wordAt {m m' : Memory} {k start pos : Nat}
    (h : m'.wordAt (start + k) = m.wordAt start) (hlo : start ≤ pos) (hhi : pos < start + 8) :
    m'.byte (pos + k) = m.byte pos := by
  have hi : pos - start < 8 := by omega
  have hbyte := congrArg (byteOfWord · (pos - start)) h
  simp only [byteOfWord_wordAt _ _ hi] at hbyte
  rwa [show start + k + (pos - start) = pos + k by omega, Nat.add_sub_cancel' hlo] at hbyte

/-- Memories with the same word in one place have the same bytes there. -/
lemma byte_eq_of_wordAt {m m' : Memory} {start pos : Nat}
    (h : m'.wordAt start = m.wordAt start) (hlo : start ≤ pos) (hhi : pos < start + 8) :
    m'.byte pos = m.byte pos :=
  byte_add_eq_of_wordAt (k := 0) h hlo hhi

/-! ## Frames -/

/-- The memory `m'` is as long as `m` and has the same bytes, except at the offsets with `touched`.
-/
structure ChangedOnly (touched : Nat → Prop) (m m' : Memory) : Prop where
  size : m'.size = m.size
  byte : ∀ pos, ¬ touched pos → m'.byte pos = m.byte pos

namespace ChangedOnly

variable {touched touched' : Nat → Prop} {m m' m'' : Memory}

lemma refl (touched : Nat → Prop) (m : Memory) : ChangedOnly touched m m := ⟨rfl, fun _ _ => rfl⟩

lemma trans (h : ChangedOnly touched m m') (h' : ChangedOnly touched m' m'') :
    ChangedOnly touched m m'' :=
  ⟨h'.size.trans h.size, fun pos hpos => (h'.byte pos hpos).trans (h.byte pos hpos)⟩

lemma mono (h : ChangedOnly touched m m') (hsub : ∀ pos, touched pos → touched' pos) :
    ChangedOnly touched' m m' :=
  ⟨h.size, fun pos hpos => h.byte pos fun ht => hpos (hsub pos ht)⟩

/-- A word of which no byte is touched is the old one. -/
lemma wordAt (h : ChangedOnly touched m m') {pos : Nat}
    (hpos : ∀ i < 8, ¬ touched (pos + i)) : m'.wordAt pos = m.wordAt pos :=
  wordAt_congr fun i hi => h.byte _ (hpos i hi)

end ChangedOnly

lemma overwrite_changedOnly (m : Memory) (start count : Nat) (f : Nat → UInt8) :
    ChangedOnly (fun pos => start ≤ pos ∧ pos < start + count) m (m.overwrite start count f) := by
  refine ⟨size_overwrite .., ?_⟩
  intro pos hpos
  rw [byte_overwrite, if_neg]
  exact fun h => hpos ⟨h.1, h.2.1⟩

lemma setWord_changedOnly (m : Memory) (pos : Nat) (word : UInt64) :
    ChangedOnly (fun q => pos ≤ q ∧ q < pos + 8) m (m.setWord pos word) :=
  overwrite_changedOnly ..

/-- The same write to two memories keeps the difference between them. -/
lemma ChangedOnly.setWord {touched : Nat → Prop} {m m' : Memory} (h : ChangedOnly touched m m')
    (pos : Nat) (word : UInt64) :
    ChangedOnly touched (m.setWord pos word) (m'.setWord pos word) := by
  refine ⟨by simpa using h.size, fun q hq => ?_⟩
  rw [Memory.setWord, Memory.setWord, byte_overwrite, byte_overwrite, h.size, h.byte q hq]

/-- A write leaves every word alone that has no byte in common with it. -/
lemma wordAt_setWord_of_disjoint (m : Memory) {pos q : Nat} (word : UInt64)
    (h : q + 8 ≤ pos ∨ pos + 8 ≤ q) : (m.setWord pos word).wordAt q = m.wordAt q :=
  (setWord_changedOnly m pos word).wordAt fun i hi => by omega

end Memory

end BlockHeap
