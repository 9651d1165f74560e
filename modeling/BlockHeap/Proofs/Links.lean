import BlockHeap.FreeLists
import BlockHeap.Proofs.Words
import Mathlib.Data.List.Perm.Subperm
import Mathlib.Logic.Function.Basic

/-!
# Free lists as sequences

The free lists of a heap are threaded through its memory.  `Link.Chain m prev nodes next` says that
`nodes` are linked both ways in `m`, with `prev` before the first and `next` after the last of
them; it splits at every seam (`Link.chain_append`), so that taking a node out and putting one in
front are statements about two shorter chains.

`FreeLists.Represents lists m queues` says that heads and links stand for one duplicate-free
sequence for each class, the two-word link slots of all nodes being inside the memory and apart
from one another.  The two main results are the refinements `FreeLists.insertHead_represents` and
`FreeLists.remove_represents`: putting a block in front of a class and taking one out at any
position succeed, do just that to the sequences, and touch no byte outside the link slots of the
block and of its neighbours on the list.
-/

namespace BlockHeap

namespace Link

/-! ## Slots -/

/-- The offset lies in the two link words of a node. -/
def InSlot (node pos : Nat) : Prop := node ≤ pos ∧ pos < node + 16

/-- The link words of two nodes have no byte in common. -/
def Apart (x y : Nat) : Prop := x + 16 ≤ y ∨ y + 16 ≤ x

lemma Apart.symm {x y : Nat} (h : Apart x y) : Apart y x := Or.symm h

lemma Apart.ne {x y : Nat} (h : Apart x y) : x ≠ y := by
  unfold Apart at h
  omega

lemma Apart.not_inSlot {x y pos : Nat} (h : Apart x y) (hx : InSlot x pos) : ¬ InSlot y pos := by
  unfold Apart InSlot at *
  omega

lemma decode_encode {link : Option Nat} (h : ∀ x ∈ link, 0 < x ∧ x < Checked.bound) :
    decode (encode link) = link := by
  cases link with
  | none => exact decode_encode_none
  | some x => exact decode_encode_some (h x rfl).1 (h x rfl).2

/-! ## Chains -/

/-- The nodes are linked both ways, after `prev` and before `next`. -/
def Chain (m : Memory) : (prev : Option Nat) → (nodes : List Nat) → (next : Option Nat) → Prop
  | _, [], _ => True
  | prev, x :: rest, next =>
    m.wordAt x = encode (rest.head?.or next) ∧ m.wordAt (x + 8) = encode prev ∧
      Chain m (some x) rest next

lemma chain_append {m : Memory} {prev next : Option Nat} {xs ys : List Nat} :
    Chain m prev (xs ++ ys) next ↔
      Chain m prev xs (ys.head?.or next) ∧ Chain m (xs.getLast?.or prev) ys next := by
  induction xs generalizing prev with
  | nil => simp [Chain]
  | cons x xs ih =>
    have hlast : (x :: xs).getLast?.or prev = xs.getLast?.or (some x) := by
      cases h : xs.getLast? <;> simp [List.getLast?_cons, h]
    simp only [List.cons_append, Chain, ih, hlast, List.head?_append, Option.or_assoc, and_assoc]

lemma Chain.congr {m m' : Memory} {prev next : Option Nat} {nodes : List Nat}
    (h : Chain m prev nodes next)
    (hwords : ∀ x ∈ nodes, m'.wordAt x = m.wordAt x ∧ m'.wordAt (x + 8) = m.wordAt (x + 8)) :
    Chain m' prev nodes next := by
  induction nodes generalizing prev with
  | nil => trivial
  | cons x rest ih =>
    obtain ⟨hnext, hprev, hrest⟩ := h
    obtain ⟨hx, hx8⟩ := hwords x List.mem_cons_self
    exact ⟨hx.trans hnext, hx8.trans hprev,
      ih hrest fun y hy => hwords y (List.mem_cons_of_mem _ hy)⟩

/-- A chain survives every change outside the slots of its nodes. -/
lemma Chain.of_changedOnly {m m' : Memory} {touched : Nat → Prop} {prev next : Option Nat}
    {nodes : List Nat} (h : Chain m prev nodes next) (hm : Memory.ChangedOnly touched m m')
    (hout : ∀ x ∈ nodes, ∀ pos, InSlot x pos → ¬ touched pos) : Chain m' prev nodes next :=
  h.congr fun x hx =>
    ⟨hm.wordAt fun i hi => hout x hx _ ⟨by omega, by omega⟩,
      hm.wordAt fun i hi => hout x hx _ ⟨by omega, by omega⟩⟩

/-- A chain leaves no choice for the words of its nodes. -/
lemma Chain.wordAt_eq {m m' : Memory} {prev next : Option Nat} {nodes : List Nat}
    (h : Chain m prev nodes next) (h' : Chain m' prev nodes next) :
    ∀ x ∈ nodes, m'.wordAt x = m.wordAt x ∧ m'.wordAt (x + 8) = m.wordAt (x + 8) := by
  induction nodes generalizing prev with
  | nil => nofun
  | cons y rest ih =>
    obtain ⟨hnext, hprev, hrest⟩ := h
    obtain ⟨hnext', hprev', hrest'⟩ := h'
    exact List.forall_mem_cons.2
      ⟨⟨hnext'.trans hnext.symm, hprev'.trans hprev.symm⟩, ih hrest hrest'⟩

/-! ## Setting single links -/

/-- The memory with the forward link of a node, if there is one, set. -/
def putNext (m : Memory) (node? : Option Nat) (next : Option Nat) : Memory :=
  node?.elim m fun x => m.setWord x (encode next)

/-- The memory with the backward link of a node, if there is one, set. -/
def putPrev (m : Memory) (node? : Option Nat) (prev : Option Nat) : Memory :=
  node?.elim m fun x => m.setWord (x + 8) (encode prev)

@[simp] lemma size_putNext (m : Memory) (node? next : Option Nat) :
    (putNext m node? next).size = m.size := by
  cases node? <;> simp [putNext]

@[simp] lemma size_putPrev (m : Memory) (node? prev : Option Nat) :
    (putPrev m node? prev).size = m.size := by
  cases node? <;> simp [putPrev]

lemma putNext_changedOnly (m : Memory) (node? next : Option Nat) :
    Memory.ChangedOnly (fun pos => ∃ x ∈ node?, InSlot x pos) m (putNext m node? next) := by
  cases node? with
  | none => exact .refl _ _
  | some x =>
    refine (Memory.setWord_changedOnly m x _).mono fun pos hpos => ⟨x, rfl, ?_⟩
    exact ⟨hpos.1, by omega⟩

lemma putPrev_changedOnly (m : Memory) (node? prev : Option Nat) :
    Memory.ChangedOnly (fun pos => ∃ x ∈ node?, InSlot x pos) m (putPrev m node? prev) := by
  cases node? with
  | none => exact .refl _ _
  | some x =>
    refine (Memory.setWord_changedOnly m (x + 8) _).mono fun pos hpos => ⟨x, rfl, ?_⟩
    exact ⟨by omega, by omega⟩

/-- The memory with both links of a node set. -/
def putLinks (m : Memory) (node : Nat) (prev next : Option Nat) : Memory :=
  (m.setWord node (encode next)).setWord (node + 8) (encode prev)

lemma putLinks_changedOnly (m : Memory) (node : Nat) (prev next : Option Nat) :
    Memory.ChangedOnly (InSlot node) m (putLinks m node prev next) := by
  have hnext := Memory.setWord_changedOnly m node (encode next)
  have hprev := Memory.setWord_changedOnly (m.setWord node (encode next)) (node + 8) (encode prev)
  apply (hnext.mono _).trans (hprev.mono _)
  · rintro pos ⟨hlo, hhi⟩
    exact ⟨hlo, by omega⟩
  · rintro pos ⟨hlo, hhi⟩
    exact ⟨by omega, by omega⟩

lemma wordAt_putLinks {m : Memory} {node : Nat} (prev next : Option Nat)
    (hnode : node + 16 ≤ m.size) :
    (putLinks m node prev next).wordAt node = encode next ∧
      (putLinks m node prev next).wordAt (node + 8) = encode prev := by
  constructor
  · rw [putLinks, Memory.wordAt_setWord_of_disjoint _ _ (by omega),
      Memory.wordAt_setWord _ (by omega)]
  · rw [putLinks, Memory.wordAt_setWord _ (by simpa using hnode)]

lemma setPrevOf_eq {m : Memory} {node? : Option Nat} (prev : Option Nat)
    (hin : ∀ x ∈ node?, x + 16 ≤ m.size) (hm : m.size < Checked.bound) :
    setPrevOf m node? prev = .ok (putPrev m node? prev) := by
  cases node? with
  | none => rfl
  | some x =>
    have hx := hin x rfl
    simp only [setPrevOf, setPrev, Memory.wordSize,
      Checked.add_eq (show x + 8 < Checked.bound by omega), Fault.ok_bind]
    exact Memory.writeWord_eq _ (by omega)

/-- Setting the forward link of its last node leads a chain elsewhere. -/
lemma Chain.putNext {m : Memory} {prev next : Option Nat} {nodes : List Nat}
    (h : Chain m prev nodes next) (next' : Option Nat) (hapart : nodes.Pairwise Apart)
    (hin : ∀ x ∈ nodes, x + 16 ≤ m.size) :
    Chain (putNext m nodes.getLast? next') prev nodes next' := by
  rcases List.eq_nil_or_concat nodes with rfl | ⟨xs, p, rfl⟩
  · trivial
  · rw [List.concat_eq_append] at h hapart hin ⊢
    rw [List.getLast?_concat]
    rw [chain_append] at h ⊢
    obtain ⟨hxs, -, hback, -⟩ := h
    have hp := hin p (by simp)
    refine ⟨hxs.of_changedOnly (putNext_changedOnly m (some p) next') ?_, ?_, ?_, trivial⟩
    · rintro x hx pos hpos ⟨y, hy, hslot⟩
      cases hy
      exact ((List.pairwise_append.1 hapart).2.2 x hx p (by simp)).not_inSlot hpos hslot
    · exact Memory.wordAt_setWord _ (by omega)
    · exact (Memory.wordAt_setWord_of_disjoint _ _ (by omega)).trans hback

/-- Setting the backward link of its first node hangs a chain in elsewhere. -/
lemma Chain.putPrev {m : Memory} {prev next : Option Nat} {nodes : List Nat}
    (h : Chain m prev nodes next) (prev' : Option Nat) (hapart : nodes.Pairwise Apart)
    (hin : ∀ x ∈ nodes, x + 16 ≤ m.size) :
    Chain (putPrev m nodes.head? prev') prev' nodes next := by
  cases nodes with
  | nil => trivial
  | cons y ys =>
    obtain ⟨hnext, -, hys⟩ := h
    have hy := hin y List.mem_cons_self
    refine ⟨?_, Memory.wordAt_setWord _ (by omega),
      hys.of_changedOnly (putPrev_changedOnly m (some y) prev') ?_⟩
    · exact (Memory.wordAt_setWord_of_disjoint _ _ (by omega)).trans hnext
    · rintro x hx pos hpos ⟨z, hz, hslot⟩
      cases hz
      exact ((List.pairwise_cons.1 hapart).1 x hx).symm.not_inSlot hpos hslot

/-- A node with a slot of its own can be put in front of a chain. -/
lemma Chain.push {m : Memory} {block : Nat} {nodes : List Nat} (h : Chain m none nodes none)
    (hblock : block + 16 ≤ m.size) (hnew : ∀ x ∈ nodes, Apart block x)
    (hapart : nodes.Pairwise Apart) (hin : ∀ x ∈ nodes, x + 16 ≤ m.size) :
    Chain (Link.putPrev (putLinks m block none nodes.head?) nodes.head? (some block)) none
      (block :: nodes) none := by
  have hown := putLinks_changedOnly m block none nodes.head?
  have hold := putPrev_changedOnly (putLinks m block none nodes.head?) nodes.head? (some block)
  -- the write to the old first node does not reach the new one
  have hkeep : ∀ pos, block ≤ pos → pos + 8 ≤ block + 16 →
      (Link.putPrev (putLinks m block none nodes.head?) nodes.head? (some block)).wordAt pos =
        (putLinks m block none nodes.head?).wordAt pos := by
    intro pos hlo hhi
    apply hold.wordAt
    rintro i hi ⟨x, hx, hslot⟩
    have := hnew x (List.mem_of_mem_head? hx)
    unfold InSlot Apart at *
    omega
  obtain ⟨hnext, hprev⟩ := wordAt_putLinks none nodes.head? hblock
  refine ⟨?_, ?_, ?_⟩
  · rw [hkeep _ (by omega) (by omega), hnext, Option.or_none]
  · rw [hkeep _ (by omega) (by omega), hprev]
  · have h₁ : Chain (putLinks m block none nodes.head?) none nodes none :=
      h.of_changedOnly hown fun x hx pos hpos => (hnew x hx).symm.not_inSlot hpos
    apply h₁.putPrev _ hapart
    intro x hx
    rw [hown.size]
    exact hin x hx

/-- A node can be taken out of a chain wherever it stands. -/
lemma Chain.unlink {m : Memory} {block : Nat} {xs ys : List Nat}
    (h : Chain m none (xs ++ block :: ys) none) (hapart : (xs ++ block :: ys).Pairwise Apart)
    (hin : ∀ x ∈ xs ++ block :: ys, x + 16 ≤ m.size) :
    Chain (Link.putPrev (Link.putNext m xs.getLast? ys.head?) ys.head? xs.getLast?) none
      (xs ++ ys) none := by
  obtain ⟨hxs, hys, hcross⟩ := List.pairwise_append.1 hapart
  have hback := putNext_changedOnly m xs.getLast? ys.head?
  have hfore := putPrev_changedOnly (Link.putNext m xs.getLast? ys.head?) ys.head? xs.getLast?
  rw [chain_append] at h
  obtain ⟨hchainXs, -, -, hchainYs⟩ := h
  rw [chain_append, Option.or_none, Option.or_none]
  have hxs₁ : Chain (Link.putNext m xs.getLast? ys.head?) none xs ys.head? :=
    hchainXs.putNext _ hxs fun x hx => hin x (by simp [hx])
  have hys₁ : Chain (Link.putNext m xs.getLast? ys.head?) (some block) ys none := by
    apply hchainYs.of_changedOnly hback
    rintro y hy pos hpos ⟨x, hx, hpos'⟩
    have := hcross x (List.mem_of_getLast? hx) y (List.mem_cons_of_mem _ hy)
    exact this.symm.not_inSlot hpos hpos'
  constructor
  · apply hxs₁.of_changedOnly hfore
    rintro x hx pos hpos ⟨y, hy, hpos'⟩
    have := hcross x hx y (List.mem_cons_of_mem _ (List.mem_of_mem_head? hy))
    exact this.not_inSlot hpos hpos'
  · apply hys₁.putPrev _ (List.pairwise_cons.1 hys).2
    intro y hy
    rw [size_putNext]
    exact hin y (by simp [hy])

end Link

namespace FreeLists

/-! ## The sequences of a memory -/

/-- Heads and links stand for one sequence of nodes for each class.  The nodes of a class are linked
both ways, with nothing at either end; none is at offset zero, the link words of different nodes are
apart, and no node is in two classes, nor in one of them twice. -/
structure Represents (lists : FreeLists) (m : Memory) (queues : SizeClass → List Nat) : Prop where
  head : ∀ c, lists.head c = (queues c).head?
  chain : ∀ c, Link.Chain m none (queues c) none
  slot : ∀ c, ∀ x ∈ queues c, 0 < x ∧ x + 16 ≤ m.size
  apart : ∀ c d, ∀ x ∈ queues c, ∀ y ∈ queues d, c = d ∧ x = y ∨ Link.Apart x y
  nodup : ∀ c, (queues c).Nodup

lemma represents_empty (m : Memory) : Represents empty m fun _ => [] where
  head c := by simp [empty, head]
  chain _ := trivial
  slot _ _ hx := absurd hx List.not_mem_nil
  apart _ _ _ hx := absurd hx List.not_mem_nil
  nodup _ := List.nodup_nil

namespace Represents

variable {lists : FreeLists} {m m' : Memory} {queues : SizeClass → List Nat}

lemma pairwise_apart (h : Represents lists m queues) (c : SizeClass) :
    (queues c).Pairwise Link.Apart :=
  (h.nodup c).imp_of_mem fun hx hy hne => (h.apart c c _ hx _ hy).resolve_left fun he => hne he.2

lemma length_le (h : Represents lists m queues) (c : SizeClass) : (queues c).length ≤ m.size := by
  have hsub : queues c ⊆ List.range m.size := by
    intro x hx
    have := h.slot c x hx
    exact List.mem_range.2 (by omega)
  simpa using (List.subperm_of_subset (h.nodup c) hsub).length_le

/-- The sequences survive as long as their nodes keep their link words and no byte is dropped. -/
lemma congr (h : Represents lists m queues) (hsize : m.size ≤ m'.size)
    (hbyte : ∀ c, ∀ x ∈ queues c, ∀ pos, Link.InSlot x pos → m'.byte pos = m.byte pos) :
    Represents lists m' queues where
  head := h.head
  chain c := by
    apply (h.chain c).congr
    intro x hx
    constructor
    · apply Memory.wordAt_congr
      intro i (hi : i < 8)
      exact hbyte c x hx _ ⟨by omega, by omega⟩
    · apply Memory.wordAt_congr
      intro i (hi : i < 8)
      exact hbyte c x hx _ ⟨by omega, by omega⟩
  slot c x hx := ⟨(h.slot c x hx).1, Nat.le_trans (h.slot c x hx).2 hsize⟩
  apart := h.apart
  nodup := h.nodup

lemma of_changedOnly {touched : Nat → Prop} (h : Represents lists m queues)
    (hm : Memory.ChangedOnly touched m m')
    (hout : ∀ c, ∀ x ∈ queues c, ∀ pos, Link.InSlot x pos → ¬ touched pos) :
    Represents lists m' queues :=
  h.congr (Nat.le_of_eq hm.size.symm) fun c x hx pos hpos => hm.byte pos (hout c x hx pos hpos)

lemma lists_eq {lists' : FreeLists} (h : Represents lists m queues)
    (h' : Represents lists' m' queues) : lists' = lists := by
  obtain ⟨heads⟩ := lists
  obtain ⟨heads'⟩ := lists'
  refine congrArg FreeLists.mk (Vector.ext fun i hi => ?_)
  exact (h'.head ⟨i, hi⟩).trans (h.head ⟨i, hi⟩).symm

lemma byte_eq {lists' : FreeLists} {c : SizeClass} {x pos : Nat} (h : Represents lists m queues)
    (h' : Represents lists' m' queues) (hx : x ∈ queues c) (hpos : Link.InSlot x pos) :
    m'.byte pos = m.byte pos := by
  obtain ⟨hlo, hhi⟩ := hpos
  obtain ⟨hnext, hprev⟩ := (h.chain c).wordAt_eq (h'.chain c) x hx
  by_cases hfirst : pos < x + 8
  · exact Memory.byte_eq_of_wordAt hnext hlo hfirst
  · exact Memory.byte_eq_of_wordAt hprev (Nat.le_of_not_lt hfirst) (by omega)

lemma chain_of_ne {touched : Nat → Prop} {c cls : SizeClass} (h : Represents lists m queues)
    (hne : c ≠ cls) (hm : Memory.ChangedOnly touched m m')
    (hin : ∀ pos, touched pos → ∃ x ∈ queues cls, Link.InSlot x pos) :
    Link.Chain m' none (queues c) none := by
  apply (h.chain c).of_changedOnly hm
  intro x hx pos hpos ht
  obtain ⟨y, hy, hpos'⟩ := hin pos ht
  have := (h.apart c cls x hx y hy).resolve_left fun he => hne he.1
  exact this.not_inSlot hpos hpos'

end Represents

variable {lists : FreeLists} {m : Memory} {queues : SizeClass → List Nat}

/-! ## Putting in front -/

lemma mem_update_cons {cls c : SizeClass} {block x : Nat} :
    x ∈ Function.update queues cls (block :: queues cls) c ↔
      c = cls ∧ x = block ∨ x ∈ queues c := by
  rcases eq_or_ne c cls with rfl | hne
  · simp
  · simp [hne]

lemma insertHead_eq (lists : FreeLists) {m : Memory} (cls : SizeClass) {block : Nat}
    (hblock : block + 16 ≤ m.size) (hhead : ∀ x ∈ lists.head cls, x + 16 ≤ m.size)
    (hm : m.size < Checked.bound) :
    lists.insertHead m cls block =
      .ok (lists.setHead cls (some block),
        Link.putPrev (Link.putLinks m block none (lists.head cls)) (lists.head cls)
          (some block)) := by
  simp only [insertHead, Link.setNext, Link.setPrev, Memory.wordSize]
  rw [Memory.writeWord_eq _ (by omega), Fault.ok_bind, Checked.add_eq (by omega), Fault.ok_bind,
    Memory.writeWord_eq _ (by rw [Memory.size_setWord]; omega), Fault.ok_bind,
    Link.setPrevOf_eq _ (by simpa using hhead) (by simpa using hm), Fault.ok_bind]
  rfl

/-- **Putting in front.**  A node with a slot of its own becomes the first of its class, and
nothing else happens to the sequences. -/
lemma insertHead_represents (h : Represents lists m queues) (cls : SizeClass) {block : Nat}
    (hpos : 0 < block) (hblock : block + 16 ≤ m.size) (hm : m.size < Checked.bound)
    (hnew : ∀ c, ∀ x ∈ queues c, Link.Apart block x) :
    ∃ lists' m', lists.insertHead m cls block = .ok (lists', m') ∧
      Represents lists' m' (Function.update queues cls (block :: queues cls)) ∧
      Memory.ChangedOnly
        (fun pos => Link.InSlot block pos ∨ ∃ x ∈ (queues cls).head?, Link.InSlot x pos) m m' := by
  have hhead : ∀ x ∈ lists.head cls, x + 16 ≤ m.size := by
    intro x hx
    exact (h.slot cls x (List.mem_of_mem_head? (h.head cls ▸ hx))).2
  have hinsert := insertHead_eq lists cls hblock hhead hm
  rw [h.head cls] at hinsert
  have hown := Link.putLinks_changedOnly m block none (queues cls).head?
  have hold := Link.putPrev_changedOnly (Link.putLinks m block none (queues cls).head?)
    (queues cls).head? (some block)
  refine ⟨_, _, hinsert, ⟨?_, ?_, ?_, ?_, ?_⟩,
    (hown.mono fun _ => Or.inl).trans (hold.mono fun _ => Or.inr)⟩
  · intro c
    rw [head_setHead]
    rcases eq_or_ne c cls with rfl | hne
    · simp
    · simp [hne, hne.symm, h.head c]
  · intro c
    rcases eq_or_ne c cls with rfl | hne
    · rw [Function.update_self]
      exact (h.chain c).push hblock (hnew c) (h.pairwise_apart c) fun x hx => (h.slot c x hx).2
    · rw [Function.update_of_ne hne]
      have h₁ := h.of_changedOnly hown fun c x hx pos hin => (hnew c x hx).symm.not_inSlot hin
      apply h₁.chain_of_ne hne hold
      rintro pos ⟨x, hx, hin⟩
      exact ⟨x, List.mem_of_mem_head? hx, hin⟩
  · intro c x hx
    rw [Link.size_putPrev, hown.size]
    rcases mem_update_cons.1 hx with ⟨-, rfl⟩ | hx
    · exact ⟨hpos, hblock⟩
    · exact h.slot c x hx
  · intro c d x hx y hy
    rw [mem_update_cons] at hx hy
    rcases hx with ⟨rfl, rfl⟩ | hx <;> rcases hy with ⟨rfl, rfl⟩ | hy
    · exact .inl ⟨rfl, rfl⟩
    · exact .inr (hnew d y hy)
    · exact .inr (hnew c x hx).symm
    · exact h.apart c d x hx y hy
  · intro c
    rcases eq_or_ne c cls with rfl | hne
    · rw [Function.update_self]
      exact List.nodup_cons.2 ⟨fun hx => (hnew c block hx).ne rfl, h.nodup c⟩
    · rw [Function.update_of_ne hne]
      exact h.nodup c

/-! ## Taking out -/

/-- The neighbours of a node, read off its own links. -/
lemma neighbours_eq (h : Represents lists m queues) {cls : SizeClass} {xs ys : List Nat}
    {block : Nat} (hq : queues cls = xs ++ block :: ys) (hm : m.size < Checked.bound) :
    Link.prev m block = .ok xs.getLast? ∧ Link.next m block = .ok ys.head? := by
  have hslot : ∀ x ∈ xs ++ block :: ys, 0 < x ∧ x + 16 ≤ m.size := hq ▸ h.slot cls
  have hchain := h.chain cls
  rw [hq, Link.chain_append] at hchain
  obtain ⟨-, hnext, hprev, -⟩ := hchain
  rw [Option.or_none] at hnext hprev
  have hblock := hslot block (by simp)
  have hlast : ∀ x ∈ xs.getLast?, 0 < x ∧ x < Checked.bound := by
    intro x hx
    have := hslot x (by simp [List.mem_of_getLast? hx])
    omega
  have hfirst : ∀ x ∈ ys.head?, 0 < x ∧ x < Checked.bound := by
    intro x hx
    have := hslot x (by simp [List.mem_of_mem_head? hx])
    omega
  constructor
  · rw [Link.prev, Memory.wordSize, Checked.add_eq (by omega), Fault.ok_bind,
      Memory.readWord_eq (by omega), Fault.ok_bind, hprev, Link.decode_encode hlast]
    rfl
  · rw [Link.next, Memory.readWord_eq (by omega), Fault.ok_bind, hnext, Link.decode_encode hfirst]
    rfl

lemma splice_eq (lists : FreeLists) {m : Memory} (cls : SizeClass) {prev next : Option Nat}
    (hprev : ∀ x ∈ prev, x + 16 ≤ m.size) (hnext : ∀ x ∈ next, x + 16 ≤ m.size)
    (hm : m.size < Checked.bound) :
    lists.splice m cls prev next =
      .ok (if prev.isNone then lists.setHead cls next else lists,
        Link.putPrev (Link.putNext m prev next) next prev) := by
  cases prev with
  | none =>
    rw [splice, Link.setPrevOf_eq _ hnext hm, Fault.ok_bind]
    rfl
  | some p =>
    have hp := hprev p rfl
    rw [splice, Link.setNext, Memory.writeWord_eq _ (by omega), Fault.ok_bind,
      Link.setPrevOf_eq _ (by simpa using hnext) (by simpa using hm), Fault.ok_bind]
    rfl

/-- **Taking out.**  A node leaves its class wherever it stands in it; the order of the others and
all other classes stay. -/
lemma remove_represents (h : Represents lists m queues) {cls : SizeClass} {xs ys : List Nat}
    {block : Nat} (hq : queues cls = xs ++ block :: ys) (hm : m.size < Checked.bound) :
    ∃ lists' m', lists.remove m cls block = .ok (lists', m') ∧
      Represents lists' m' (Function.update queues cls (xs ++ ys)) ∧
      Memory.ChangedOnly
        (fun pos => (∃ x ∈ xs.getLast?, Link.InSlot x pos) ∨ ∃ x ∈ ys.head?, Link.InSlot x pos)
        m m' := by
  have hslot : ∀ x ∈ xs ++ block :: ys, x + 16 ≤ m.size := by
    intro x hx
    exact (h.slot cls x (hq ▸ hx)).2
  have hlast : ∀ x ∈ xs.getLast?, x ∈ xs ++ block :: ys := by
    intro x hx
    simp [List.mem_of_getLast? hx]
  have hfirst : ∀ x ∈ ys.head?, x ∈ xs ++ block :: ys := by
    intro x hx
    simp [List.mem_of_mem_head? hx]
  have hsub : ∀ c, ∀ x ∈ Function.update queues cls (xs ++ ys) c, x ∈ queues c := by
    intro c x hx
    rcases eq_or_ne c cls with rfl | hne
    · rw [Function.update_self, List.mem_append] at hx
      rw [hq]
      rcases hx with hx | hx <;> simp [hx]
    · rwa [Function.update_of_ne hne] at hx
  obtain ⟨hprev, hnext⟩ := neighbours_eq h hq hm
  have hsplice := splice_eq lists cls (fun x hx => hslot x (hlast x hx))
    (fun x hx => hslot x (hfirst x hx)) hm
  have hall := ((Link.putNext_changedOnly m xs.getLast? ys.head?).mono fun _ => Or.inl).trans
    ((Link.putPrev_changedOnly _ ys.head? xs.getLast?).mono fun _ => Or.inr)
  refine ⟨_, _, by rw [remove, hprev, Fault.ok_bind, hnext, Fault.ok_bind, hsplice],
    ⟨?_, ?_, ?_, ?_, ?_⟩, hall⟩
  · intro c
    rcases eq_or_ne c cls with rfl | hne
    · rw [Function.update_self]
      cases xs with
      | nil => simp [head_setHead]
      | cons x xs => simp [h.head c, hq, List.getLast?_cons]
    · rw [Function.update_of_ne hne, ← h.head c]
      split
      · rw [head_setHead, if_neg hne.symm]
      · rfl
  · intro c
    rcases eq_or_ne c cls with rfl | hne
    · rw [Function.update_self]
      exact (hq ▸ h.chain c).unlink (hq ▸ h.pairwise_apart c) hslot
    · rw [Function.update_of_ne hne]
      apply h.chain_of_ne hne hall
      -- both nodes that are written to are in the class of the block
      rintro pos (⟨x, hx, hin⟩ | ⟨x, hx, hin⟩)
      · exact ⟨x, hq ▸ hlast x hx, hin⟩
      · exact ⟨x, hq ▸ hfirst x hx, hin⟩
  · intro c x hx
    rw [hall.size]
    exact h.slot c x (hsub c x hx)
  · intro c d x hx y hy
    exact h.apart c d x (hsub c x hx) y (hsub d y hy)
  · intro c
    rcases eq_or_ne c cls with rfl | hne
    · rw [Function.update_self]
      have hnodup : (xs ++ block :: ys).Nodup := hq ▸ h.nodup c
      exact hnodup.sublist ((List.sublist_cons_self _ _).append_left _)
    · rw [Function.update_of_ne hne]
      exact h.nodup c

end FreeLists

end BlockHeap
