import BlockHeap.Heap.Blocks
import BlockHeap.Proofs.Links
import BlockHeap.Proofs.Tags

/-!
# Layouts

The physical side of a heap is a list of blocks in address order.  `Tiles start blocks stop` says
that they follow one another without a gap from `start` to `stop`, and `Laid m prologue blocks` that
the memory is such a heap: prologue, blocks and epilogue fill it from the prologue on, and every
tag word is the one that belongs there.

Two lemmas carry all changes to a layout.  `Laid.of_changedOnly` says that tags survive whatever
happens inside payloads, and `Laid.replace` that some blocks can be exchanged for others of the same
extent by writing the tags of the new ones.  Splitting, joining, allocating and freeing are all
exchanges of this kind.
-/

namespace BlockHeap

namespace BlockInfo

/-- The tag at both ends of the block. -/
def tag (b : BlockInfo) : Tag := .of b.size b.allocated

/-- The size is one that a block can have. -/
def Valid (b : BlockInfo) : Prop := b.size % 8 = 0 ∧ 32 ≤ b.size

/-- Both tags of the block stand in the memory. -/
def Tagged (m : Memory) (b : BlockInfo) : Prop :=
  m.wordAt (b.offset - 8) = b.tag.raw ∧ m.wordAt (b.offset + b.size - 16) = b.tag.raw

/-- The offset lies in the block, tags included. -/
def Covers (b : BlockInfo) (pos : Nat) : Prop := b.offset - 8 ≤ pos ∧ pos < b.offset + b.size - 8

/-- The offset lies in a tag of the block. -/
def AtTags (b : BlockInfo) (pos : Nat) : Prop :=
  b.offset - 8 ≤ pos ∧ pos < b.offset ∨ b.offset + b.size - 16 ≤ pos ∧ pos < b.offset + b.size - 8

/-- The offset lies in the payload of the block. -/
def InPayload (b : BlockInfo) (pos : Nat) : Prop :=
  b.offset ≤ pos ∧ pos < b.offset + b.size - 16

/-- The first bytes of the block as an allocated one. -/
def front (b : BlockInfo) (n : Nat) : BlockInfo := ⟨b.offset, n, true⟩

/-- The bytes after the front as a free block. -/
def back (b : BlockInfo) (n : Nat) : BlockInfo := ⟨b.offset + n, b.size - n, false⟩

end BlockInfo

/-! ## Tilings -/

/-- The blocks follow one another from `start` to `stop`. -/
def Tiles : (start : Nat) → List BlockInfo → (stop : Nat) → Prop
  | start, [], stop => start = stop
  | start, b :: rest, stop => b.offset = start ∧ Tiles (start + b.size) rest stop

lemma tiles_append {start stop : Nat} {xs ys : List BlockInfo} :
    Tiles start (xs ++ ys) stop ↔ ∃ mid, Tiles start xs mid ∧ Tiles mid ys stop := by
  induction xs generalizing start with
  | nil => simp [Tiles]
  | cons b xs ih => simp only [List.cons_append, Tiles, ih]; aesop

namespace Tiles

variable {start stop : Nat} {blocks : List BlockInfo} {b b' : BlockInfo}

lemma le (h : Tiles start blocks stop) : start ≤ stop := by
  induction blocks generalizing start with
  | nil => exact Nat.le_of_eq h
  | cons b rest ih =>
    have := ih h.2
    omega

lemma bounds (h : Tiles start blocks stop) (hb : b ∈ blocks) :
    start ≤ b.offset ∧ b.offset + b.size ≤ stop := by
  induction blocks generalizing start with
  | nil => cases hb
  | cons c rest ih =>
    obtain ⟨hoff, hrest⟩ := h
    rcases List.mem_cons.1 hb with rfl | hb
    · exact ⟨Nat.le_of_eq hoff.symm, hoff ▸ hrest.le⟩
    · have := ih hrest hb
      omega

lemma unique {stop' : Nat} (h : Tiles start blocks stop) (h' : Tiles start blocks stop') :
    stop = stop' := by
  induction blocks generalizing start with
  | nil => exact h.symm.trans h'
  | cons b rest ih => exact ih h.2 h'.2

lemma eq_or_apart (h : Tiles start blocks stop) (hb : b ∈ blocks) (hb' : b' ∈ blocks) :
    b = b' ∨ b.offset + b.size ≤ b'.offset ∨ b'.offset + b'.size ≤ b.offset := by
  induction blocks generalizing start with
  | nil => cases hb
  | cons c rest ih =>
    obtain ⟨hoff, hrest⟩ := h
    rw [List.mem_cons] at hb hb'
    rcases hb with rfl | hb <;> rcases hb' with rfl | hb'
    · exact .inl rfl
    · exact .inr (.inl (hoff ▸ (hrest.bounds hb').1))
    · exact .inr (.inr (hoff ▸ (hrest.bounds hb).1))
    · exact ih hrest hb hb'

/-- Every offset in the extent lies in a block. -/
lemma exists_covers (h : Tiles start blocks stop) (hstart : 8 ≤ start) {pos : Nat}
    (hlo : start - 8 ≤ pos) (hhi : pos < stop - 8) : ∃ b ∈ blocks, b.Covers pos := by
  induction blocks generalizing start with
  | nil =>
    have : start = stop := h
    omega
  | cons c rest ih =>
    obtain ⟨hoff, hrest⟩ := h
    by_cases hin : pos < start + c.size - 8
    · exact ⟨c, List.mem_cons_self, by omega, by omega⟩
    · obtain ⟨b, hb, hcovers⟩ := ih hrest (by omega) (by omega)
      exact ⟨b, List.mem_cons_of_mem _ hb, hcovers⟩

lemma aligned (h : Tiles start blocks stop) (hsize : ∀ b ∈ blocks, b.Valid) (hstart : start % 8 = 0)
    (hb : b ∈ blocks) : b.offset % 8 = 0 := by
  induction blocks generalizing start with
  | nil => cases hb
  | cons c rest ih =>
    obtain ⟨hoff, hrest⟩ := h
    have hc := (hsize c List.mem_cons_self).1
    rcases List.mem_cons.1 hb with rfl | hb
    · omega
    · exact ih hrest (fun d hd => hsize d (List.mem_cons_of_mem _ hd)) (by omega) hb

end Tiles

/-! ## Memories laid out as blocks -/

/-- From the prologue on, the memory is prologue, blocks and epilogue with all tags in place.  The
padding word and the header of the prologue stand before it, the epilogue is the last word, and the
memory is small enough for all offsets to be machine numbers. -/
structure Laid (m : Memory) (prologue : Nat) (blocks : List BlockInfo) : Prop where
  prologue_aligned : prologue % 8 = 0
  prologue_room : 16 ≤ prologue
  prologue_header : m.wordAt (prologue - 8) = (Tag.of 16 true).raw
  prologue_footer : m.wordAt prologue = (Tag.of 16 true).raw
  tiles : Tiles (prologue + 16) blocks m.size
  valid : ∀ b ∈ blocks, b.Valid
  tagged : ∀ b ∈ blocks, b.Tagged m
  epilogue : m.wordAt (m.size - 8) = (Tag.of 0 true).raw
  small : m.size < Arena.reservable

namespace Laid

variable {m m' : Memory} {prologue : Nat} {blocks pre mid mid' post : List BlockInfo}
variable {b b' : BlockInfo}

lemma size_lt (h : Laid m prologue blocks) : m.size + 8 < Checked.bound := by
  have := h.small
  unfold Arena.reservable at this
  unfold Checked.bound
  omega

lemma bounds (h : Laid m prologue blocks) (hb : b ∈ blocks) :
    32 ≤ b.offset ∧ prologue + 16 ≤ b.offset ∧ b.offset + b.size ≤ m.size ∧ 32 ≤ b.size := by
  have h₁ := h.tiles.bounds hb
  have h₂ := h.prologue_room
  have h₃ := (h.valid b hb).2
  omega

lemma aligned (h : Laid m prologue blocks) (hb : b ∈ blocks) : b.offset % 8 = 0 :=
  h.tiles.aligned h.valid (by have := h.prologue_aligned; omega) hb

lemma eq_or_apart (h : Laid m prologue blocks) (hb : b ∈ blocks) (hb' : b' ∈ blocks) :
    b = b' ∨ b.offset + b.size ≤ b'.offset ∨ b'.offset + b'.size ≤ b.offset :=
  h.tiles.eq_or_apart hb hb'

lemma eq_of_offset (h : Laid m prologue blocks) (hb : b ∈ blocks) (hb' : b' ∈ blocks)
    (hoff : b.offset = b'.offset) : b = b' := by
  have h₁ := (h.valid b hb).2
  have h₂ := (h.valid b' hb').2
  exact (h.eq_or_apart hb hb').resolve_right (by omega)

lemma before {x : BlockInfo} (h : Laid m prologue (pre ++ b :: post)) (hx : x ∈ pre) :
    x.offset + x.size ≤ b.offset ∧ 32 ≤ x.size := by
  obtain ⟨lo, hpre, hoff, -⟩ := tiles_append.1 h.tiles
  exact ⟨hoff ▸ (hpre.bounds hx).2, (h.valid x (by simp [hx])).2⟩

lemma after {x : BlockInfo} (h : Laid m prologue (pre ++ b :: post)) (hx : x ∈ post) :
    b.offset + b.size ≤ x.offset ∧ 32 ≤ x.size := by
  obtain ⟨lo, -, hoff, hpost⟩ := tiles_append.1 h.tiles
  exact ⟨hoff ▸ (hpost.bounds hx).1, (h.valid x (by simp [hx])).2⟩

/-- What is before a block and what is after it. -/
lemma tiles_exchange (h : Laid m prologue (pre ++ b :: post)) :
    Tiles (prologue + 16) pre b.offset ∧ Tiles (b.offset + b.size) post m.size := by
  obtain ⟨lo, hpre, rfl, hpost⟩ := tiles_append.1 h.tiles
  exact ⟨hpre, hpost⟩

/-- The blocks on either side of a block are all the other ones. -/
lemma mem_sides_iff {x : BlockInfo} (h : Laid m prologue (pre ++ b :: post)) :
    x ∈ pre ++ post ↔ x ∈ pre ++ b :: post ∧ x ∉ [b] := by
  have hpre : b ∉ pre := by
    intro hb
    have := h.before hb
    omega
  have hpost : b ∉ post := by
    intro hb
    have := h.after hb
    omega
  have hsides : x ∈ pre ++ post → x ≠ b := by
    rintro hx rfl
    exact (List.mem_append.1 hx).elim hpre hpost
  simp only [List.mem_append, List.mem_cons, List.not_mem_nil, or_false] at hsides ⊢
  tauto

lemma header_eq (h : Laid m prologue blocks) (hb : b ∈ blocks) :
    Block.header m b.offset = .ok b.tag := by
  have hbounds := h.bounds hb
  rw [Block.header_eq (by omega) (by omega), (h.tagged b hb).1]

lemma header_top (h : Laid m prologue blocks) :
    Block.header m m.size = .ok (.of 0 true) := by
  have := h.prologue_room
  have := h.tiles.le
  rw [Block.header_eq (by omega) (Nat.le_refl _), h.epilogue]

/-! ### Changes inside payloads -/

/-- Tags survive every change inside payloads. -/
lemma of_changedOnly {touched : Nat → Prop} (h : Laid m prologue blocks)
    (hm : Memory.ChangedOnly touched m m')
    (hin : ∀ pos, touched pos → ∃ b ∈ blocks, b.InPayload pos) : Laid m' prologue blocks := by
  have hpro := h.prologue_room
  have hle := h.tiles.le
  -- a word stays if it is apart from all payloads
  have hkeep : ∀ pos, (∀ b ∈ blocks, pos + 8 ≤ b.offset ∨ b.offset + b.size - 16 ≤ pos) →
      m'.wordAt pos = m.wordAt pos := by
    intro pos hpos
    apply hm.wordAt
    intro i hi ht
    obtain ⟨b, hb, hlo, hhi⟩ := hin _ ht
    have := hpos b hb
    omega
  refine ⟨h.prologue_aligned, hpro, ?_, ?_, hm.size ▸ h.tiles, h.valid, ?_, ?_, hm.size ▸ h.small⟩
  · refine (hkeep _ ?_).trans h.prologue_header
    intro b hb
    have := h.bounds hb
    omega
  · refine (hkeep _ ?_).trans h.prologue_footer
    intro b hb
    have := h.bounds hb
    omega
  · intro b hb
    have h₁ := h.bounds hb
    constructor
    · refine (hkeep _ ?_).trans (h.tagged b hb).1
      intro c hc
      have h₂ := h.bounds hc
      rcases h.eq_or_apart hb hc with rfl | hapart <;> omega
    · refine (hkeep _ ?_).trans (h.tagged b hb).2
      intro c hc
      have h₂ := h.bounds hc
      rcases h.eq_or_apart hb hc with rfl | hapart <;> omega
  · rw [hm.size]
    refine (hkeep _ ?_).trans h.epilogue
    intro b hb
    have := h.bounds hb
    omega

/-! ### Exchanging blocks -/

/-- **Exchanging blocks.**  If only the extent of some blocks is written to, and others that fill
the same extent find their tags there, then those have taken their place. -/
lemma replace {lo hi : Nat} (h : Laid m prologue (pre ++ (mid ++ post)))
    (hpre : Tiles (prologue + 16) pre lo) (hmid : Tiles lo mid' hi) (hpost : Tiles hi post m.size)
    (hm : Memory.ChangedOnly (fun pos => lo - 8 ≤ pos ∧ pos < hi - 8) m m')
    (hvalid : ∀ b ∈ mid', b.Valid) (htags : ∀ b ∈ mid', b.Tagged m') :
    Laid m' prologue (pre ++ (mid' ++ post)) := by
  have hpro := h.prologue_room
  have hlo := hpre.le
  have hhi := hpost.le
  have hlohi := hmid.le
  have hkeep : ∀ pos, pos + 8 ≤ lo - 8 ∨ hi - 8 ≤ pos → m'.wordAt pos = m.wordAt pos := by
    intro pos hpos
    apply hm.wordAt
    intro i hi
    omega
  refine ⟨h.prologue_aligned, hpro, ?_, ?_, ?_, ?_, ?_, ?_, hm.size ▸ h.small⟩
  · rw [hkeep _ (by omega), h.prologue_header]
  · rw [hkeep _ (by omega), h.prologue_footer]
  · rw [hm.size, tiles_append]
    exact ⟨lo, hpre, tiles_append.2 ⟨hi, hmid, hpost⟩⟩
  · intro b hb
    simp only [List.mem_append] at hb
    rcases hb with hb | hb | hb
    · exact h.valid b (by simp [hb])
    · exact hvalid b hb
    · exact h.valid b (by simp [hb])
  · intro b hb
    simp only [List.mem_append] at hb
    rcases hb with hb | hb | hb
    · have hold := h.tagged b (by simp [hb])
      have h₁ := h.bounds (b := b) (by simp [hb])
      have h₂ := hpre.bounds hb
      exact ⟨(hkeep _ (by omega)).trans hold.1, (hkeep _ (by omega)).trans hold.2⟩
    · exact htags b hb
    · have hold := h.tagged b (by simp [hb])
      have h₁ := h.bounds (b := b) (by simp [hb])
      have h₂ := hpost.bounds hb
      exact ⟨(hkeep _ (by omega)).trans hold.1, (hkeep _ (by omega)).trans hold.2⟩
  · rw [hm.size, hkeep _ (by omega), h.epilogue]

end Laid

/-! ## Writing the tags of a block -/

namespace BlockInfo

variable {m m' : Memory} {b b' : BlockInfo}

lemma ne_of_free_of_allocated (hfree : b.allocated = false) (hall : b'.allocated = true) :
    b ≠ b' := by
  rintro rfl
  exact Bool.false_ne_true (hfree.symm.trans hall)

lemma Valid.back {n : Nat} (h : b.Valid) (haligned : n % 8 = 0) (hsplit : 32 ≤ b.size - n) :
    (b.back n).Valid := by
  have := h.1
  refine ⟨?_, hsplit⟩
  show (b.size - n) % 8 = 0
  omega

lemma back_end {n : Nat} (hle : n ≤ b.size) :
    (b.back n).offset + (b.back n).size = b.offset + b.size := by
  simp only [BlockInfo.back]
  omega

lemma size_tag (hvalid : b.Valid) (hlt : b.size < Checked.bound) : b.tag.size = b.size :=
  Tag.size_of _ hvalid.1 hlt

lemma AtTags.covers {pos : Nat} (h : b.AtTags pos) (hvalid : b.Valid) : b.Covers pos := by
  have := hvalid.2
  unfold AtTags at h
  unfold Covers
  omega

lemma setTags_changedOnly (m : Memory) (hoff : 8 ≤ b.offset) (hvalid : b.Valid) :
    Memory.ChangedOnly b.AtTags m (Block.setTags m b.offset b.size b.tag) := by
  apply (Block.setTags_changedOnly ..).mono
  intro pos hpos
  have := hvalid.2
  unfold AtTags
  omega

lemma tagged_setTags (hoff : 8 ≤ b.offset) (hvalid : b.Valid)
    (hin : b.offset + b.size ≤ m.size + 8) :
    b.Tagged (Block.setTags m b.offset b.size b.tag) := by
  have := hvalid.2
  exact ⟨Block.header_setTags _ hoff (by omega) hin, Block.footer_setTags _ (by omega) hin⟩

/-- The tags of a block stay when only another one is written to. -/
lemma Tagged.of_changedOnly (h : b.Tagged m) (hm : Memory.ChangedOnly b'.Covers m m')
    (hoff : 8 ≤ b.offset) (hvalid : b.Valid)
    (hapart : b.offset + b.size ≤ b'.offset ∨ b'.offset + b'.size ≤ b.offset) : b.Tagged m' := by
  have hsize := hvalid.2
  constructor
  · refine (hm.wordAt ?_).trans h.1
    intro i hi ht
    unfold Covers at ht
    omega
  · refine (hm.wordAt ?_).trans h.2
    intro i hi ht
    unfold Covers at ht
    omega

/-- Memories that hold the tags of a block have the same bytes there. -/
lemma Tagged.byte_eq {pos : Nat} (h : b.Tagged m) (h' : b.Tagged m') (hvalid : b.Valid)
    (hpos : b.AtTags pos) : m'.byte pos = m.byte pos := by
  have hsize := hvalid.2
  rcases hpos with ⟨hlo, hhi⟩ | ⟨hlo, hhi⟩
  · exact Memory.byte_eq_of_wordAt (h'.1.trans h.1.symm) hlo (by omega)
  · exact Memory.byte_eq_of_wordAt (h'.2.trans h.2.symm) hlo (by omega)

end BlockInfo

end BlockHeap
