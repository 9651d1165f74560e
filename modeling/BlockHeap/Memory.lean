import BlockHeap.Fault

/-!
# Memory

A memory is a finite run of bytes that is read and written either byte-wise or in little-endian
words of eight bytes.  Everything that changes bytes goes through `Memory.overwrite`, so the one
law `byte_overwrite` says what every write leaves behind; `wordAt` is a function of eight
bytes, and `wordAt_overwrite_word` and `wordAt_congr` are the two halves of reading back.

Reads and writes of words fault outside the memory; `word?` answers `none` there, for callers that
have to survive any content.
-/

namespace BlockHeap

/-- A run of bytes, addressed from zero. -/
structure Memory where
  bytes : ByteArray

namespace Memory

/-- The width of a word in bytes. -/
def wordSize : Nat := 8

/-- The memory without any byte. -/
def empty : Memory := ⟨ByteArray.empty⟩

/-- The number of bytes. -/
def size (m : Memory) : Nat := m.bytes.size

/-- The byte at an offset; zero past the end. -/
def byte (m : Memory) (pos : Nat) : UInt8 :=
  if h : pos < m.bytes.size then m.bytes[pos] else 0

/-! ## Bytes -/

/-- Sets the bytes at `start + i`, `start + i + 1`, … to `f i`, `f (i + 1)`, …, `count` of them. -/
def setBytes (bytes : ByteArray) (start : Nat) (f : Nat → UInt8) : Nat → Nat → ByteArray
  | _, 0 => bytes
  | i, count + 1 => setBytes (bytes.set! (start + i) (f i)) start f (i + 1) count

/-- The memory with `f 0`, `f 1`, …, `f (count - 1)` written from `start` on.  What would fall
past the end is dropped. -/
def overwrite (m : Memory) (start count : Nat) (f : Nat → UInt8) : Memory :=
  ⟨setBytes m.bytes start f 0 count⟩

/-- The bytes from `start` up to, but not including, `stop`. -/
def slice (m : Memory) (start stop : Nat) : ByteArray :=
  m.bytes.extract start stop

/-- Whether `f i`, `f (i + 1)`, … are the bytes at `start + i`, `start + i + 1`, …, `count` of
them. -/
def agreesFrom (m : Memory) (start : Nat) (f : Nat → UInt8) : Nat → Nat → Bool
  | _, 0 => true
  | i, count + 1 => m.byte (start + i) == f i && agreesFrom m start f (i + 1) count

/-- Whether the bytes from `start` on are `f 0`, `f 1`, …, `f (count - 1)`. -/
def agrees (m : Memory) (start count : Nat) (f : Nat → UInt8) : Bool :=
  m.agreesFrom start f 0 count

/-- Appends zero bytes. -/
def pushZeros (bytes : ByteArray) : Nat → ByteArray
  | 0 => bytes
  | count + 1 => pushZeros (bytes.push 0) count

/-- The number of bytes in a page. -/
def pageSize : Nat := 4096

/-- A page of zero bytes. -/
def zeroPage : ByteArray := pushZeros .empty pageSize

/-- Appends pages of zero bytes. -/
def pushPages (bytes : ByteArray) : Nat → ByteArray
  | 0 => bytes
  | count + 1 => pushPages (bytes ++ zeroPage) count

/-- The memory with `count` zero bytes added at the top, page by page as far as that goes. -/
def extend (m : Memory) (count : Nat) : Memory :=
  ⟨pushZeros (pushPages m.bytes (count / pageSize)) (count % pageSize)⟩

/-! ## Words -/

/-- The little-endian word in the eight bytes from `pos` on. -/
def wordAt (m : Memory) (pos : Nat) : UInt64 :=
  (m.byte pos).toUInt64 +
    256 * ((m.byte (pos + 1)).toUInt64 +
      256 * ((m.byte (pos + 2)).toUInt64 +
        256 * ((m.byte (pos + 3)).toUInt64 +
          256 * ((m.byte (pos + 4)).toUInt64 +
            256 * ((m.byte (pos + 5)).toUInt64 +
              256 * ((m.byte (pos + 6)).toUInt64 +
                256 * (m.byte (pos + 7)).toUInt64))))))

/-- Byte `i` of a word, the least significant first. -/
def byteOfWord (word : UInt64) (i : Nat) : UInt8 :=
  (word >>> (8 * i).toUInt64).toUInt8

/-- The word at `pos`, if it lies inside the memory. -/
def word? (m : Memory) (pos : Nat) : Option UInt64 :=
  if pos + wordSize ≤ m.size then some (m.wordAt pos) else none

/-- The word at `pos`; a fault outside the memory. -/
def readWord (m : Memory) (pos : Nat) : Except Fault UInt64 :=
  if pos + wordSize ≤ m.size then .ok (m.wordAt pos) else .error .outOfBounds

/-- Writes a word at `pos`; a fault outside the memory. -/
def writeWord (m : Memory) (pos : Nat) (word : UInt64) : Except Fault Memory :=
  if pos + wordSize ≤ m.size then .ok (m.overwrite pos wordSize (byteOfWord word))
  else .error .outOfBounds

/-! ## Laws of bytes -/

/-- Setting a byte keeps the size. -/
theorem size_set! (bytes : ByteArray) (i : Nat) (b : UInt8) :
    (bytes.set! i b).size = bytes.size := by
  cases bytes; simp [ByteArray.set!, ByteArray.size]

theorem byte_eq_getD (m : Memory) (pos : Nat) : m.byte pos = m.bytes.data.getD pos 0 := by
  unfold byte
  split
  · next h => simp [ByteArray.getElem_eq_getElem_data, Array.getD, ByteArray.size_data, h]
  · next h => simp [Array.getD, ByteArray.size_data, h]

theorem size_setBytes (bytes : ByteArray) (start : Nat) (f : Nat → UInt8) (i count : Nat) :
    (setBytes bytes start f i count).size = bytes.size := by
  induction count generalizing bytes i with
  | zero => rfl
  | succ count ih => rw [setBytes, ih, size_set!]

theorem getD_setBytes (bytes : ByteArray) (start : Nat) (f : Nat → UInt8) (i count pos : Nat) :
    (setBytes bytes start f i count).data.getD pos 0 =
      if start + i ≤ pos ∧ pos < start + i + count ∧ pos < bytes.size then f (pos - start)
      else bytes.data.getD pos 0 := by
  induction count generalizing bytes i with
  | zero => simp [setBytes]; omega
  | succ count ih =>
    rw [setBytes, ih, size_set!]
    by_cases hin : start + (i + 1) ≤ pos ∧ pos < start + (i + 1) + count ∧ pos < bytes.size
    · rw [if_pos hin, if_pos (by omega)]
    · rw [if_neg hin]
      have hdata : (bytes.set! (start + i) (f i)).data =
          bytes.data.setIfInBounds (start + i) (f i) := by
        cases bytes; rfl
      rw [hdata]
      by_cases hpos : pos = start + i ∧ pos < bytes.size
      · obtain ⟨rfl, hlt⟩ := hpos
        rw [if_pos (by omega)]
        simp [Array.getD_eq_getD_getElem?, Nat.not_le.mpr hlt]
      · rw [if_neg (by omega)]
        simp only [Array.getD_eq_getD_getElem?, Array.getElem?_setIfInBounds]
        split
        · next h =>
          have hout : ¬ pos < bytes.data.size := fun hlt => hpos ⟨h.symm, hlt⟩
          rw [h, if_neg hout, Array.getElem?_eq_none (Nat.le_of_not_lt hout)]
        · rfl

@[simp] theorem size_overwrite (m : Memory) (start count : Nat) (f : Nat → UInt8) :
    (m.overwrite start count f).size = m.size :=
  size_setBytes ..

/-- What a write leaves behind, byte by byte. -/
theorem byte_overwrite (m : Memory) (start count : Nat) (f : Nat → UInt8) (pos : Nat) :
    (m.overwrite start count f).byte pos =
      if start ≤ pos ∧ pos < start + count ∧ pos < m.size then f (pos - start) else m.byte pos := by
  rw [byte_eq_getD, byte_eq_getD]
  exact getD_setBytes ..

theorem size_pushZeros (bytes : ByteArray) (count : Nat) :
    (pushZeros bytes count).size = bytes.size + count := by
  induction count generalizing bytes with
  | zero => rfl
  | succ count ih => rw [pushZeros, ih, ByteArray.size_push, Nat.add_assoc, Nat.add_comm 1]

theorem getD_pushZeros (bytes : ByteArray) (count pos : Nat) :
    (pushZeros bytes count).data.getD pos 0 = bytes.data.getD pos 0 := by
  induction count generalizing bytes with
  | zero => rfl
  | succ count ih =>
    rw [pushZeros, ih]
    have hdata : (bytes.push 0).data = bytes.data.push 0 := by cases bytes; rfl
    simp only [hdata, Array.getD_eq_getD_getElem?, Array.getElem?_push]
    split
    · next h => rw [h, Array.getElem?_eq_none (Nat.le_refl _)]; rfl
    · rfl

theorem size_zeroPage : zeroPage.size = pageSize := by
  rw [zeroPage, size_pushZeros, ByteArray.size_empty, Nat.zero_add]

theorem getD_zeroPage (pos : Nat) : zeroPage.data.getD pos 0 = 0 := by
  rw [zeroPage, getD_pushZeros]
  rfl

theorem size_pushPages (bytes : ByteArray) (count : Nat) :
    (pushPages bytes count).size = bytes.size + count * pageSize := by
  induction count generalizing bytes with
  | zero => rw [pushPages, Nat.zero_mul, Nat.add_zero]
  | succ count ih => rw [pushPages, ih, ByteArray.size_append, size_zeroPage, Nat.succ_mul]; omega

theorem getD_pushPages (bytes : ByteArray) (count pos : Nat) :
    (pushPages bytes count).data.getD pos 0 = bytes.data.getD pos 0 := by
  induction count generalizing bytes with
  | zero => rfl
  | succ count ih =>
    rw [pushPages, ih, ByteArray.data_append]
    have hpage := getD_zeroPage (pos - bytes.data.size)
    simp only [Array.getD_eq_getD_getElem?] at hpage ⊢
    rw [Array.getElem?_append]
    split
    · rfl
    · next h => rw [hpage, Array.getElem?_eq_none (Nat.le_of_not_lt h)]; rfl

@[simp] theorem size_extend (m : Memory) (count : Nat) :
    (m.extend count).size = m.size + count := by
  have hdiv := Nat.div_add_mod count pageSize
  rw [Nat.mul_comm] at hdiv
  rw [size, extend, size_pushZeros, size_pushPages, Nat.add_assoc, hdiv]
  rfl

/-- New bytes are zero and old ones are kept. -/
theorem byte_extend (m : Memory) (count pos : Nat) : (m.extend count).byte pos = m.byte pos := by
  rw [byte_eq_getD, byte_eq_getD, extend, getD_pushZeros, getD_pushPages]

/-- A test for agreement looks at the bytes one by one. -/
theorem agreesFrom_iff (m : Memory) (start : Nat) (f : Nat → UInt8) (i count : Nat) :
    m.agreesFrom start f i count = true ↔
      ∀ k, i ≤ k → k < i + count → m.byte (start + k) = f k := by
  induction count generalizing i with
  | zero => simp only [agreesFrom, true_iff]; omega
  | succ count ih =>
    rw [agreesFrom, Bool.and_eq_true, beq_iff_eq, ih]
    constructor
    · rintro ⟨hi, hrest⟩ k hle hlt
      rcases Nat.eq_or_lt_of_le hle with rfl | hgt
      · exact hi
      · exact hrest k hgt (by omega)
    · intro h
      exact ⟨h i (Nat.le_refl i) (by omega), fun k hle hlt => h k (by omega) (by omega)⟩

theorem agrees_iff (m : Memory) (start count : Nat) (f : Nat → UInt8) :
    m.agrees start count f = true ↔ ∀ k < count, m.byte (start + k) = f k := by
  rw [agrees, agreesFrom_iff]
  constructor
  · intro h k hk
    exact h k (Nat.zero_le k) (by omega)
  · intro h k _ hk
    exact h k (by omega)

/-! ## Laws of words -/

theorem toNat_byteOfWord (word : UInt64) {i : Nat} (h : i < 8) :
    (byteOfWord word i).toNat = word.toNat >>> (8 * i) % 256 := by
  have : (8 * i).toUInt64.toNat % 64 = 8 * i := by
    simp [Nat.toUInt64]; omega
  rw [byteOfWord, UInt64.toNat_toUInt8, UInt64.toNat_shiftRight, this]

/-- The number a word stands for is the sum of its bytes, each at its place. -/
theorem toNat_wordAt (m : Memory) (pos : Nat) :
    (m.wordAt pos).toNat =
      (m.byte pos).toNat + 256 * ((m.byte (pos + 1)).toNat + 256 * ((m.byte (pos + 2)).toNat +
        256 * ((m.byte (pos + 3)).toNat + 256 * ((m.byte (pos + 4)).toNat +
          256 * ((m.byte (pos + 5)).toNat + 256 * ((m.byte (pos + 6)).toNat +
            256 * (m.byte (pos + 7)).toNat)))))) := by
  have h0 := (m.byte pos).toNat_lt
  have h1 := (m.byte (pos + 1)).toNat_lt
  have h2 := (m.byte (pos + 2)).toNat_lt
  have h3 := (m.byte (pos + 3)).toNat_lt
  have h4 := (m.byte (pos + 4)).toNat_lt
  have h5 := (m.byte (pos + 5)).toNat_lt
  have h6 := (m.byte (pos + 6)).toNat_lt
  have h7 := (m.byte (pos + 7)).toNat_lt
  simp only [wordAt, UInt64.toNat_add, UInt64.toNat_mul, UInt8.toNat_toUInt64,
    UInt64.reduceToNat] at *
  omega

/-- A word depends on its eight bytes only. -/
theorem wordAt_congr {m m' : Memory} {pos : Nat}
    (h : ∀ i < wordSize, m'.byte (pos + i) = m.byte (pos + i)) : m'.wordAt pos = m.wordAt pos := by
  have h0 := h 0 (by decide)
  simp only [wordAt, ← h 1 (by decide), ← h 2 (by decide), ← h 3 (by decide), ← h 4 (by decide),
    ← h 5 (by decide), ← h 6 (by decide), ← h 7 (by decide)]
  rw [Nat.add_zero] at h0
  rw [h0]

/-- A word that was written is read back. -/
theorem wordAt_overwrite_word (m : Memory) {pos : Nat} (word : UInt64)
    (h : pos + wordSize ≤ m.size) :
    (m.overwrite pos wordSize (byteOfWord word)).wordAt pos = word := by
  have hb : ∀ i, i < 8 →
      (m.overwrite pos wordSize (byteOfWord word)).byte (pos + i) = byteOfWord word i := by
    intro i hi
    rw [byte_overwrite, if_pos (by simp only [wordSize] at *; omega), Nat.add_sub_cancel_left]
  apply UInt64.toNat_inj.mp
  rw [toNat_wordAt, hb 1 (by decide), hb 2 (by decide), hb 3 (by decide), hb 4 (by decide),
    hb 5 (by decide), hb 6 (by decide), hb 7 (by decide)]
  have h0 := hb 0 (by decide)
  rw [Nat.add_zero] at h0
  rw [h0]
  simp only [toNat_byteOfWord word (show 0 < 8 by decide),
    toNat_byteOfWord word (show 1 < 8 by decide),
    toNat_byteOfWord word (show 2 < 8 by decide), toNat_byteOfWord word (show 3 < 8 by decide),
    toNat_byteOfWord word (show 4 < 8 by decide), toNat_byteOfWord word (show 5 < 8 by decide),
    toNat_byteOfWord word (show 6 < 8 by decide), toNat_byteOfWord word (show 7 < 8 by decide)]
  have hlt := word.toNat_lt
  omega

theorem readWord_eq_ok_iff {m : Memory} {pos : Nat} {word : UInt64} :
    m.readWord pos = .ok word ↔ pos + wordSize ≤ m.size ∧ word = m.wordAt pos := by
  unfold readWord
  split
  · simp [*, eq_comm]
  · simp [*]

end Memory

end BlockHeap
