import BlockHeap.Proofs.Contents
import BlockHeap.Proofs.Shifting

/-!
# Memories that differ in links only

Two heaps that follow one plan, the second of them `k` bytes further up, have the same tags and the
same layout, but links are offsets and differ by `k`.  `Memory.AlikeBut k stale m m'` says that the
bytes of `m'` are those of `m`, `k` bytes further up, except where `stale` says that something of a
link may stand.

Each operation keeps two heaps alike, if `stale` holds of the link words of all blocks that are free
before, afterwards or, when the arena grows, in between.  For tags are written alike
(`Memory.AlikeBut.stamped`), and all other bytes stay, or are copied, or are written by the program.
-/

namespace BlockHeap

/-- The bytes of the second memory are those of the first, `k` bytes further up, but for stale
ones. -/
structure Memory.AlikeBut (k : Nat) (stale : Nat → Prop) (m m' : Memory) : Prop where
  size : m'.size = m.size + k
  byte : ∀ pos, ¬ stale pos → m'.byte (pos + k) = m.byte pos

/-- What is stale after `n` bytes were copied from one place to another: there what was stale in the
original, and elsewhere what is stale anyway. -/
def copyStale (source target n : Nat) (stale elsewhere : Nat → Prop) (pos : Nat) : Prop :=
  if target ≤ pos ∧ pos < target + n then stale (source + (pos - target)) else elsewhere pos

lemma copyStale.mono {source target n pos : Nat} {stale stale' elsewhere elsewhere' : Nat → Prop}
    (h : copyStale source target n stale elsewhere pos)
    (hcopied : ∀ i < n, stale (source + i) → stale' (source + i))
    (helsewhere : ∀ pos, elsewhere pos → elsewhere' pos) :
    copyStale source target n stale' elsewhere' pos := by
  unfold copyStale at h ⊢
  split at h
  · next hin =>
    rw [if_pos hin]
    exact hcopied _ (by omega) h
  · next hout =>
    rw [if_neg hout]
    exact helsewhere pos h

section

variable {k pos start count : Nat} {stale stale' links links' : Nat → Prop}
variable {m m' m₁ m₁' : Memory} {b : BlockInfo} {blocks stamps : List BlockInfo}

/-! ## Blocks further up -/

lemma BlockInfo.atTags_shift (hoff : 8 ≤ b.offset) (hvalid : b.Valid) :
    (b.shift k).AtTags (pos + k) ↔ b.AtTags pos := by
  have := hvalid.2
  simp only [BlockInfo.AtTags, BlockInfo.offset_shift, BlockInfo.size_shift]
  omega

lemma BlockInfo.Tagged.byte_shift (h : b.Tagged m) (h' : (b.shift k).Tagged m')
    (hoff : 8 ≤ b.offset) (hvalid : b.Valid) (hpos : b.AtTags pos) :
    m'.byte (pos + k) = m.byte pos := by
  have hsize := hvalid.2
  obtain ⟨hheader, hfooter⟩ := h'
  rw [offset_shift, Nat.sub_add_comm hoff] at hheader
  rw [offset_shift, size_shift, Nat.add_right_comm, Nat.sub_add_comm (by omega)] at hfooter
  rcases hpos with ⟨hlo, hhi⟩ | ⟨hlo, hhi⟩
  · exact Memory.byte_add_eq_of_wordAt (hheader.trans h.1.symm) hlo (by omega)
  · exact Memory.byte_add_eq_of_wordAt (hfooter.trans h.2.symm) hlo (by omega)

lemma inFreeSlot_shift : InFreeSlot (shiftAll k blocks) (pos + k) ↔ InFreeSlot blocks pos := by
  unfold InFreeSlot shiftAll Link.InSlot
  simp only [List.mem_map, exists_exists_and_eq_and, BlockInfo.allocated_shift,
    BlockInfo.offset_shift]
  constructor <;> rintro ⟨x, hx, hfree, hlo, hhi⟩ <;> exact ⟨x, hx, hfree, by omega, by omega⟩

lemma inLinks_shift {blocks' : List BlockInfo} :
    InLinks (shiftAll k blocks) (shiftAll k blocks') (pos + k) ↔ InLinks blocks blocks' pos :=
  or_congr inFreeSlot_shift inFreeSlot_shift

/-! ## Writes -/

namespace Memory.AlikeBut

lemma mono (h : AlikeBut k stale m m') (hsub : ∀ pos, stale pos → stale' pos) :
    AlikeBut k stale' m m' :=
  ⟨h.size, fun pos hpos => h.byte pos fun hs => hpos (hsub pos hs)⟩

lemma extend (h : AlikeBut k stale m m') (n : Nat) :
    AlikeBut k stale (m.extend n) (m'.extend n) := by
  refine ⟨?_, fun pos hpos => ?_⟩
  · rw [size_extend, size_extend, h.size, Nat.add_right_comm]
  · rw [byte_extend, byte_extend, h.byte pos hpos]

/-- Runs of bytes are written in the same place.  Where they are the same nothing is stale. -/
lemma overwrite {f f' : Nat → UInt8} (h : AlikeBut k stale m m') (hin : start + count ≤ m.size)
    (hf : ∀ i < count, ¬ stale' (start + i) → f' i = f i)
    (hout : ∀ pos, ¬ (start ≤ pos ∧ pos < start + count) → stale pos → stale' pos) :
    AlikeBut k stale' (m.overwrite start count f) (m'.overwrite (start + k) count f') := by
  have hsize := h.size
  refine ⟨by rwa [size_overwrite, size_overwrite], fun pos hpos => ?_⟩
  rw [byte_overwrite, byte_overwrite]
  by_cases hwritten : start ≤ pos ∧ pos < start + count
  · rw [if_pos (by omega), if_pos (by omega), show pos + k - (start + k) = pos - start by omega]
    apply hf _ (by omega)
    rwa [Nat.add_sub_cancel' hwritten.1]
  · rw [if_neg (by omega), if_neg (by omega)]
    exact h.byte pos fun hs => hpos (hout pos hwritten hs)

lemma copy {source target n : Nat} (h : AlikeBut k stale m m') (hsource : source + n ≤ m.size)
    (htarget : target + n ≤ m.size) :
    AlikeBut k (copyStale source target n stale stale)
      (m.overwrite target n fun i => (m.slice source (source + n)).get! i)
      (m'.overwrite (target + k) n fun i => (m'.slice (source + k) (source + k + n)).get! i) := by
  have hsize := h.size
  refine h.overwrite htarget ?_ fun pos hpos hs => by rwa [copyStale, if_neg hpos]
  intro i hi hfresh
  rw [copyStale, if_pos (by omega), Nat.add_sub_cancel_left] at hfresh
  rw [get!_slice (by omega) (by omega), get!_slice (by omega) (by omega), Nat.add_right_comm]
  exact h.byte _ hfresh

lemma setWord (h : AlikeBut k stale m m') (word : UInt64) (hin : start + 8 ≤ m.size) :
    AlikeBut k stale (m.setWord start word) (m'.setWord (start + k) word) :=
  h.overwrite hin (fun _ _ _ => rfl) fun _ _ => id

section

variable (hlinks : ∀ pos, links pos → stale pos) (hlinks' : ∀ pos, links' (pos + k) → stale pos)

include hlinks hlinks'

lemma linked (h : AlikeBut k stale m m') (hframe : ChangedOnly links m m₁)
    (hframe' : ChangedOnly links' m' m₁') : AlikeBut k stale m₁ m₁' := by
  refine ⟨by rw [hframe'.size, hframe.size, h.size], fun pos hpos => ?_⟩
  rw [hframe'.byte _ fun hl => hpos (hlinks' pos hl), hframe.byte _ fun hl => hpos (hlinks pos hl)]
  exact h.byte pos hpos

/-- The tags of a block are written in the same place, and links as well. -/
lemma tagged (h : AlikeBut k stale m m') (hoff : 8 ≤ b.offset) (hvalid : b.Valid)
    (htagged : b.Tagged m₁) (htagged' : (b.shift k).Tagged m₁')
    (hframe : ChangedOnly (fun pos => b.AtTags pos ∨ links pos) m m₁)
    (hframe' : ChangedOnly (fun pos => (b.shift k).AtTags pos ∨ links' pos) m' m₁') :
    AlikeBut k stale m₁ m₁' := by
  refine ⟨by rw [hframe'.size, hframe.size, h.size], fun pos hpos => ?_⟩
  by_cases htag : b.AtTags pos
  · exact htagged.byte_shift htagged' hoff hvalid htag
  · have htag' : ¬ (b.shift k).AtTags (pos + k) := mt (BlockInfo.atTags_shift hoff hvalid).1 htag
    rw [hframe.byte pos (not_or.2 ⟨htag, fun hl => hpos (hlinks pos hl)⟩),
      hframe'.byte (pos + k) (not_or.2 ⟨htag', fun hl => hpos (hlinks' pos hl)⟩)]
    exact h.byte pos hpos

/-- **Tags and links.**  They are written in the same places. -/
lemma stamped (h : AlikeBut k stale m m') (hst : Stamped links stamps m m₁)
    (hst' : Stamped links' (shiftAll k stamps) m' m₁') : AlikeBut k stale m₁ m₁' := by
  induction hst generalizing m' with
  | nil hframe =>
    cases hst' with
    | nil hframe' => exact h.linked hlinks hlinks' hframe hframe'
  | cons hoff hvalid htagged hframe _ ih =>
    cases hst' with
    | cons _ _ htagged' hframe' hrest' =>
      exact ih (h.tagged hlinks hlinks' hoff hvalid htagged htagged' hframe hframe') hrest'

end

lemma of_laid {prologue prologue' : Nat} (h : AlikeBut k stale m m')
    (hlaid : Laid m prologue blocks) (hlaid' : Laid m' prologue' (shiftAll k blocks)) :
    AlikeBut k (fun pos => (¬ ∃ b ∈ blocks, b.AtTags pos) ∧ stale pos) m m' := by
  refine ⟨h.size, fun pos hpos => ?_⟩
  by_cases htags : ∃ b ∈ blocks, b.AtTags pos
  · obtain ⟨b, hb, htag⟩ := htags
    have hbounds := hlaid.bounds hb
    exact (hlaid.tagged b hb).byte_shift (hlaid'.tagged _ (List.mem_map_of_mem hb)) (by omega)
      (hlaid.valid b hb) htag
  · exact h.byte pos fun hs => hpos ⟨htags, hs⟩

end Memory.AlikeBut

end

/-- The arena grows by as much, and the epilogue moves as far. -/
lemma Memory.AlikeBut.stretched {h h' : Heap} {k n : Nat} {stale : Nat → Prop}
    (ha : AlikeBut k stale h.memory h'.memory) (hmin : 32 ≤ n) :
    AlikeBut k stale (h.stretched n) (h'.stretched n) := by
  have hword := (ha.extend n).setWord (Tag.of 0 true).raw
    (show h.memory.size + n - 8 + 8 ≤ _ by rw [size_extend]; omega)
  rwa [show h.memory.size + n - 8 + k = h'.memory.size + n - 8 by rw [ha.size]; omega] at hword

end BlockHeap
