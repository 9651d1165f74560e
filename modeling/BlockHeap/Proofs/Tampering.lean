import BlockHeap.Proofs.CleanLists
import BlockHeap.Proofs.Integrity
import BlockHeap.Proofs.Robustness
import BlockHeap.Proofs.Tilings

/-!
# No single tag and no single back link is forged unnoticed

A header that was overwritten sends the walk of the check to any place at all, where payload bytes
may have been made to look like blocks.  It is noticed all the same.  A clean check has seen blocks
that tile the arena, each with its size in its last word.  These footers are the old ones, and a
tiling is known by its footers, so the blocks are the old ones, and the block whose header was
overwritten has two tags that differ (`Heap.Orderly.eq_of_header`).  Overwritten footers are noticed
in the same way from the other end (`Heap.Orderly.eq_of_footer`).

The links that lead forward determine the nodes of a list, and the nodes determine the links that
lead back, so that no other back link passes (`Heap.Intact.eq_of_prev`).

No tag and no back link has a byte in common with a link that leads forward, so that the walks over
the lists still go to the free blocks, of which there are not too many to count.  Hence the check
has an answer, and it reports a violation in all these cases (`Session.Reachable.tampering_detected`).
-/

namespace BlockHeap

namespace Heap

variable {h h' : Heap} {blocks blocks' : List BlockInfo} {queues queues' : SizeClass → List Nat}
variable {free : SizeClass → List BlockInfo} {b x : BlockInfo} {word : UInt64}

/-- Every check of the heap comes to its end and reports a violation. -/
def Alarmed (h : Heap) : Prop :=
  ∀ verbose, ∃ inspection, (h.check verbose).outcome = .ok inspection ∧
    inspection.report.violations ≠ []

/-- A heap raises an alarm if its blocks or its lists are not in order. -/
lemma alarmed_of_false (hsmall : h.memory.size + 8 < Checked.bound) (hlo : 8 ≤ h.prologue)
    (hhi : h.prologue ≤ h.memory.size + 8)
    (hpaths : ∀ c, Link.Path h.memory (h.lists.head c) (queues c))
    (hcount : ((List.finRange SizeClass.count).map fun c => (queues c).length).sum < Checked.bound)
    (hfalse : ∀ blocks queues, h.Orderly blocks → h.Enlists queues → False) : h.Alarmed := by
  intro verbose
  have hclass : ∀ c, ∃ found, Link.surveyClass h.memory h.lists c = .ok found ∧
      found.Within (queues c).length := by
    intro c
    obtain ⟨found, hfound, hvisits⟩ := (hpaths c).exists_surveyClass
    exact ⟨found, hfound, hvisits.within hvisits.visited.length_le⟩
  obtain ⟨inspection, hinspect, -⟩ :=
    (exists_inspect verbose hsmall hlo hhi (exists_surveyLists hclass)).resolve_right
      fun hlarge => Nat.not_le.2 hcount hlarge.2
  refine ⟨inspection, (h.outcome_check verbose).trans hinspect, ?_⟩
  intro hclean
  obtain ⟨arena, lists, hprologue, harena, hlists, harenaClean, hlistsClean, -, -⟩ :=
    inspect_clean hinspect hclean
  obtain ⟨blocks, horderly, -⟩ :=
    exists_orderly_of_clean hprologue harena harenaClean (by omega)
  obtain ⟨queues, henlists, -⟩ := exists_enlists_of_clean hlists hlistsClean
  exact hfalse blocks queues horderly henlists

/-! ## Tags -/

/-- The prologue and the blocks, which are all that has a tag at both ends. -/
def tagged (h : Heap) (blocks : List BlockInfo) : List BlockInfo :=
  ⟨h.prologue, Block.prologueSize, true⟩ :: blocks

lemma Sound.orderly (hs : h.Sound blocks free) : h.Orderly blocks :=
  have hintact := hs.intact
  ⟨⟨hintact.tiles, hintact.shape, hintact.tags, hintact.coalesced, hintact.epilogue⟩,
    hintact.prologue, hintact.walk⟩

/-- The prologue tiles the arena together with the blocks. -/
lemma Orderly.tiles_tagged (horderly : h.Orderly blocks) :
    Tiles h.prologue (h.tagged blocks) h.memory.size :=
  ⟨rfl, horderly.tiles⟩

lemma Orderly.labelled_tagged (horderly : h.Orderly blocks) (hb : b ∈ h.tagged blocks) :
    b.Labelled h.memory := by
  rcases List.mem_cons.1 hb with rfl | hb
  · exact horderly.prologue
  · exact horderly.labelled b hb

lemma Orderly.bounds_tagged (horderly : h.Orderly blocks) (hb : b ∈ h.tagged blocks) :
    h.prologue ≤ b.offset ∧ b.offset + b.size ≤ h.memory.size ∧ 16 ≤ b.size := by
  obtain ⟨hlo, hhi⟩ := horderly.tiles_tagged.bounds hb
  refine ⟨hlo, hhi, ?_⟩
  rcases List.mem_cons.1 hb with rfl | hb
  · exact Nat.le_refl 16
  · have := (horderly.shape b hb).2.2
    omega

/-- Both tag words of a block are the same, and say its size and its state. -/
lemma Orderly.said_tagged (horderly : h.Orderly blocks) (hroom : 16 ≤ h.prologue)
    (hb : b ∈ h.tagged blocks) : 0 < b.size ∧ b.SaidAt h.memory (b.offset - 8) ∧
      h.memory.wordAt (b.offset + b.size - 16) = h.memory.wordAt (b.offset - 8) := by
  obtain ⟨hlo, hhi, hsize⟩ := horderly.bounds_tagged hb
  obtain ⟨tag, hheader, hfooter, hsaid⟩ := horderly.labelled_tagged hb
  rw [Block.header_eq (by omega) (by omega)] at hheader
  rw [Block.precedingTag_eq (by omega) hhi] at hfooter
  obtain rfl := Except.ok.inj hheader
  exact ⟨by omega, hsaid, congrArg Tag.raw (Except.ok.inj hfooter)⟩

/-- No header has a byte in common with a footer. -/
lemma Orderly.header_footer_apart (horderly : h.Orderly blocks) (hb : b ∈ h.tagged blocks)
    (hx : x ∈ h.tagged blocks) :
    b.offset ≤ x.offset + x.size - 16 ∨ x.offset + x.size ≤ b.offset := by
  obtain ⟨-, -, hsize⟩ := horderly.bounds_tagged hb
  obtain ⟨-, -, hsize'⟩ := horderly.bounds_tagged hx
  rcases horderly.tiles_tagged.eq_or_apart hb hx with rfl | hapart | hapart
  · omega
  · omega
  · omega

/-- If footers are as they were then the blocks are, too. -/
lemma Orderly.eq_of_footers (horderly : h.Orderly blocks) (horderly' : h'.Orderly blocks')
    (hroom : 16 ≤ h.prologue) (hprologue : h'.prologue = h.prologue)
    (hsize : h'.memory.size = h.memory.size)
    (hkept : ∀ x ∈ h.tagged blocks, h'.memory.wordAt (x.offset + x.size - 16) =
      h.memory.wordAt (x.offset + x.size - 16)) : h.tagged blocks = h'.tagged blocks' := by
  have htiles' : Tiles h.prologue (h'.tagged blocks') h.memory.size :=
    hprologue ▸ hsize ▸ horderly'.tiles_tagged
  refine horderly.tiles_tagged.eq_of_footers (m := h'.memory) htiles' ?_ ?_
  · intro x hx
    obtain ⟨hpos, hsaid, hfooter⟩ := horderly.said_tagged hroom hx
    exact ⟨hpos, by rwa [BlockInfo.SaidAt, hkept x hx, hfooter]⟩
  · intro x hx
    obtain ⟨hpos, hsaid, hfooter⟩ := horderly'.said_tagged (hprologue ▸ hroom) hx
    exact ⟨hpos, by rwa [BlockInfo.SaidAt, hfooter]⟩

/-- If headers are as they were then the blocks are, too. -/
lemma Orderly.eq_of_headers (horderly : h.Orderly blocks) (horderly' : h'.Orderly blocks')
    (hroom : 16 ≤ h.prologue) (hprologue : h'.prologue = h.prologue)
    (hsize : h'.memory.size = h.memory.size)
    (hkept : ∀ x ∈ h.tagged blocks,
      h'.memory.wordAt (x.offset - 8) = h.memory.wordAt (x.offset - 8)) :
    h.tagged blocks = h'.tagged blocks' := by
  have htiles' : Tiles h.prologue (h'.tagged blocks') h.memory.size :=
    hprologue ▸ hsize ▸ horderly'.tiles_tagged
  refine horderly.tiles_tagged.eq_of_headers (m := h'.memory) htiles' ?_ ?_
  · intro x hx
    obtain ⟨hpos, hsaid, -⟩ := horderly.said_tagged hroom hx
    exact ⟨hpos, by rwa [BlockInfo.SaidAt, hkept x hx]⟩
  · intro x hx
    obtain ⟨hpos, hsaid, -⟩ := horderly'.said_tagged (hprologue ▸ hroom) hx
    exact ⟨hpos, hsaid⟩

/-- **A forged header.**  Two heaps in order do not differ in one header alone. -/
lemma Orderly.eq_of_header (horderly : h.Orderly blocks) (horderly' : h'.Orderly blocks')
    (hroom : 16 ≤ h.prologue) (hprologue : h'.prologue = h.prologue)
    (hb : b ∈ h.tagged blocks) (hmemory : h'.memory = h.memory.setWord (b.offset - 8) word) :
    word = h.memory.wordAt (b.offset - 8) := by
  obtain ⟨hlo, hhi, hbsize⟩ := horderly.bounds_tagged hb
  have hkept : ∀ x ∈ h.tagged blocks, h'.memory.wordAt (x.offset + x.size - 16) =
      h.memory.wordAt (x.offset + x.size - 16) := by
    intro x hx
    have hapart := horderly.header_footer_apart hb hx
    obtain ⟨-, -, hxsize⟩ := horderly.bounds_tagged hx
    rw [hmemory]
    exact Memory.wordAt_setWord_of_disjoint _ word (by omega)
  have hsize : h'.memory.size = h.memory.size := by rw [hmemory, Memory.size_setWord]
  have heq := horderly.eq_of_footers horderly' hroom hprologue hsize hkept
  calc
    word = h'.memory.wordAt (b.offset - 8) := by
      rw [hmemory, Memory.wordAt_setWord word (by omega)]
    _ = h'.memory.wordAt (b.offset + b.size - 16) :=
      (horderly'.said_tagged (hprologue ▸ hroom) (heq ▸ hb)).2.2.symm
    _ = h.memory.wordAt (b.offset + b.size - 16) := hkept b hb
    _ = h.memory.wordAt (b.offset - 8) := (horderly.said_tagged hroom hb).2.2

/-- **A forged footer.**  Two heaps in order do not differ in one footer alone. -/
lemma Orderly.eq_of_footer (horderly : h.Orderly blocks) (horderly' : h'.Orderly blocks')
    (hroom : 16 ≤ h.prologue) (hprologue : h'.prologue = h.prologue)
    (hb : b ∈ h.tagged blocks)
    (hmemory : h'.memory = h.memory.setWord (b.offset + b.size - 16) word) :
    word = h.memory.wordAt (b.offset - 8) := by
  obtain ⟨hlo, hhi, hbsize⟩ := horderly.bounds_tagged hb
  have hkept : ∀ x ∈ h.tagged blocks,
      h'.memory.wordAt (x.offset - 8) = h.memory.wordAt (x.offset - 8) := by
    intro x hx
    have hapart := horderly.header_footer_apart hx hb
    obtain ⟨hxlo, -, -⟩ := horderly.bounds_tagged hx
    rw [hmemory]
    exact Memory.wordAt_setWord_of_disjoint _ word (by omega)
  have hsize : h'.memory.size = h.memory.size := by rw [hmemory, Memory.size_setWord]
  have heq := horderly.eq_of_headers horderly' hroom hprologue hsize hkept
  calc
    word = h'.memory.wordAt (b.offset + b.size - 16) := by
      rw [hmemory, Memory.wordAt_setWord word (by omega)]
    _ = h'.memory.wordAt (b.offset - 8) :=
      (horderly'.said_tagged (hprologue ▸ hroom) (heq ▸ hb)).2.2
    _ = h.memory.wordAt (b.offset - 8) := hkept b hb

end Heap

/-! ## Back links -/

namespace Link

variable {m : Memory} {prev cursor : Option Nat} {nodes queue before after : List Nat}
variable {pos x : Nat} {word word' : UInt64}

lemma decode_injective : Function.Injective decode := by
  intro word word' heq
  unfold decode at heq
  split at heq <;> split at heq <;> simp_all [UInt64.toNat_inj]

/-- A link that is not written to stays. -/
lemma at?_setWord_of_disjoint (m : Memory) (word : UInt64) (h : x + 8 ≤ pos ∨ pos + 8 ≤ x) :
    at? (m.setWord pos word) x = at? m x := by
  rw [at?, at?, Memory.word?, Memory.word?, Memory.size_setWord,
    Memory.wordAt_setWord_of_disjoint m word h]

/-- Nodes of which each links to the next are a path. -/
lemma path_of_next (hcursor : cursor = nodes.head?)
    (hnext : ∀ before x after, nodes = before ++ x :: after → at? m x = after.head?) :
    Path m cursor nodes := by
  induction nodes generalizing cursor with
  | nil =>
    subst hcursor
    exact .nil
  | cons x rest ih =>
    subst hcursor
    refine .cons (ih (hnext [] x rest rfl) ?_)
    rintro before y after rfl
    exact hnext (x :: before) y after rfl

/-- Every node points back to the one before it. -/
lemma Linked.back (h : Linked m prev cursor nodes) (hnodes : nodes = before ++ x :: after) :
    at? m (x + Memory.wordSize) = before.getLast?.or prev := by
  induction h generalizing before with
  | nil => simp at hnodes
  | cons hback hrest ih =>
    cases before with
    | nil =>
      obtain ⟨rfl, rfl⟩ := List.cons.inj hnodes
      exact hback
    | cons y before =>
      obtain ⟨rfl, hrest⟩ := List.cons.inj hnodes
      rw [ih hrest, List.getLast?_cons]
      cases before.getLast? <;> rfl

end Link

/-- A word that has no byte in common with a link that leads forward does not change where the lists
lead. -/
lemma Heap.Intact.path {h h' : Heap} {blocks : List BlockInfo} {queues : SizeClass → List Nat}
    {pos : Nat} {word : UInt64} (hintact : h.Intact blocks queues) (hlists : h'.lists = h.lists)
    (hmemory : h'.memory = h.memory.setWord pos word)
    (hapart : ∀ b ∈ blocks, b.allocated = false → b.offset + 8 ≤ pos ∨ pos + 8 ≤ b.offset)
    (c : SizeClass) : Link.Path h'.memory (h'.lists.head c) (queues c) := by
  rw [hlists, hintact.head, hmemory]
  apply Link.path_of_next rfl
  intro before x after hq
  obtain ⟨b, hb, rfl, hfree, -⟩ := (hintact.listed c x).1 (by simp [hq])
  rw [Link.at?_setWord_of_disjoint _ word (hapart b hb hfree)]
  exact Link.at?_of_next (hintact.links c before after b.offset hq).2

/-- **A forged back link.**  A heap with lists in order does not differ from one that is intact in
one back link alone. -/
lemma Heap.Intact.eq_of_prev {h h' : Heap} {blocks : List BlockInfo}
    {queues queues' : SizeClass → List Nat} {b : BlockInfo} {word : UInt64}
    (hintact : h.Intact blocks queues) (henlists : h'.Enlists queues')
    (hpaths : ∀ c, Link.Path h'.memory (h'.lists.head c) (queues c))
    (hb : b ∈ blocks) (hfree : b.allocated = false)
    (hmemory : h'.memory = h.memory.setWord (b.offset + 8) word) :
    word = h.memory.wordAt (b.offset + 8) := by
  have hbounds := hintact.tiles.bounds hb
  have hbsize := (hintact.shape b hb).2.2
  obtain ⟨before, after, hq⟩ := List.append_of_mem
    ((hintact.listed (SizeClass.ofSize b.size) b.offset).2 ⟨b, hb, rfl, hfree, rfl⟩)
  have hlinked := henlists.linked (SizeClass.ofSize b.size)
  have hback := hlinked.back ((hlinked.path.unique (hpaths _)).trans hq)
  rw [Option.or_none] at hback
  apply Link.decode_injective
  calc
    Link.decode word = Link.at? h'.memory (b.offset + 8) := by
      rw [hmemory, Link.at?_eq (by rw [Memory.size_setWord]; omega),
        Memory.wordAt_setWord word (by omega)]
    _ = before.getLast? := hback
    _ = Link.at? h.memory (b.offset + 8) :=
      (Link.at?_of_prev (hintact.links _ before after b.offset hq).1).symm
    _ = Link.decode (h.memory.wordAt (b.offset + 8)) := Link.at?_eq (by omega)

namespace Session

variable {arena : Arena} {s : Session} {blocks : List BlockInfo}
variable {free : SizeClass → List BlockInfo}

lemma memory_tampered (s : Session) (pos : Nat) (word : UInt64) :
    (s.tampered [(pos, word)]).memory = s.heap.memory.setWord pos word :=
  rfl

lemma prologue_tampered (s : Session) (words : List (Nat × UInt64)) :
    (s.tampered words).prologue = s.heap.prologue :=
  rfl

lemma lists_tampered (s : Session) (words : List (Nat × UInt64)) :
    (s.tampered words).lists = s.heap.lists :=
  rfl

/-- A session raises an alarm after one word was written to, which is no link that leads forward, if
its blocks or its lists are not in order then. -/
lemma Holds.alarmed (hh : Holds arena s blocks free) (pos : Nat) (word : UInt64)
    (hapart : ∀ b ∈ blocks, b.allocated = false → b.offset + 8 ≤ pos ∨ pos + 8 ≤ b.offset)
    (hfalse : ∀ blocks' queues', (s.tampered [(pos, word)]).Orderly blocks' →
      (s.tampered [(pos, word)]).Enlists queues' → False) : (s.tampered [(pos, word)]).Alarmed := by
  have hsmall := hh.sound.laid.size_lt
  have hroom := hh.sound.laid.prologue_room
  have hle := hh.sound.laid.tiles.le
  have hlen := hh.sound.laid.tiles.length_le hh.sound.laid.valid
  have hsize : (s.tampered [(pos, word)]).memory.size = s.heap.memory.size := by
    rw [memory_tampered, Memory.size_setWord]
  have hprologue := s.prologue_tampered [(pos, word)]
  refine Heap.alarmed_of_false (by rwa [hsize]) (by rw [hprologue]; omega)
    (by rw [hsize, hprologue]; omega)
    (hh.sound.intact.path (s.lists_tampered _) (s.memory_tampered pos word) hapart) ?_ hfalse
  have htotal : ((List.finRange SizeClass.count).flatMap free).length ≤ blocks.length :=
    (hh.sound.listed.length_flatMap hh.sound.laid).trans_le List.countP_le_length
  simp only [List.length_flatMap, List.length_map] at htotal ⊢
  omega

/-- **Forged tags and back links raise an alarm.**  Take the heap of any session, whatever stands in
the payloads.  If one tag of a block or of the prologue is overwritten with any other word, or the
back link of a free block, then every check of what is left reports a violation. -/
theorem Reachable.tampering_detected (hs : Reachable arena s) :
    ∃ blocks, s.heap.blocks = .ok blocks ∧
      (∀ b ∈ s.heap.tagged blocks, ∃ tag, Block.header s.heap.memory b.offset = .ok tag ∧
        Block.precedingTag s.heap.memory (b.offset + b.size) = .ok tag ∧
        tag.size = b.size ∧ tag.allocated = b.allocated ∧
        ∀ word ≠ tag.raw, (s.tampered [(b.offset - 8, word)]).Alarmed ∧
          (s.tampered [(b.offset + b.size - 16, word)]).Alarmed) ∧
      ∀ b ∈ blocks, b.allocated = false →
        ∃ link, s.heap.memory.readWord (b.offset + 8) = .ok link ∧
          ∀ word ≠ link, (s.tampered [(b.offset + 8, word)]).Alarmed := by
  obtain ⟨blocks, free, hh⟩ := hs.holds
  have horderly := hh.sound.orderly
  have hroom := hh.sound.laid.prologue_room
  refine ⟨blocks, hh.sound.blocks_eq, ?_, ?_⟩
  · intro b hb
    obtain ⟨tag, hheader, hfooter, hsaid⟩ := horderly.labelled_tagged hb
    refine ⟨tag, hheader, hfooter, hsaid.1, hsaid.2, ?_⟩
    obtain ⟨hlo, hhi, hsize⟩ := horderly.bounds_tagged hb
    rw [Block.header_eq (by omega) (by omega)] at hheader
    obtain rfl := Except.ok.inj hheader
    -- a tag stands apart from every link
    have hapart : ∀ x ∈ blocks, x.allocated = false →
        (x.offset + 8 ≤ b.offset - 8 ∨ b.offset ≤ x.offset) ∧
          (x.offset + 8 ≤ b.offset + b.size - 16 ∨ b.offset + b.size - 8 ≤ x.offset) := by
      intro x hx _
      have hxsize := (horderly.shape x hx).2.2
      rcases horderly.tiles_tagged.eq_or_apart hb (List.mem_cons_of_mem _ hx) with rfl | hxapart
      · omega
      · omega
    intro word hne
    constructor
    · refine hh.alarmed _ word (fun x hx hfree => ?_) ?_
      · have := (hapart x hx hfree).1
        omega
      · intro blocks' queues' horderly' _
        exact hne (horderly.eq_of_header horderly' hroom (s.prologue_tampered _) hb
          (s.memory_tampered _ word))
    · refine hh.alarmed _ word (fun x hx hfree => ?_) ?_
      · have := (hapart x hx hfree).2
        omega
      · intro blocks' queues' horderly' _
        exact hne (horderly.eq_of_footer horderly' hroom (s.prologue_tampered _) hb
          (s.memory_tampered _ word))
  · intro b hb hfree
    have hbounds := hh.sound.laid.bounds hb
    refine ⟨_, Memory.readWord_eq (by omega), ?_⟩
    intro word hne
    -- a link that leads forward stands before the back link of its block
    have hapart : ∀ x ∈ blocks, x.allocated = false →
        x.offset + 8 ≤ b.offset + 8 ∨ b.offset + 8 + 8 ≤ x.offset := by
      intro x hx _
      rcases hh.sound.laid.tiles.eq_or_apart hb hx with rfl | hxapart
      · exact .inl le_rfl
      · have := (horderly.shape x hx).2.2
        have := (horderly.shape b hb).2.2
        omega
    apply hh.alarmed _ word hapart
    intro blocks' queues' _ henlists'
    exact hne (hh.sound.intact.eq_of_prev henlists'
      (hh.sound.intact.path (s.lists_tampered _) (s.memory_tampered _ word) hapart) hb hfree
      (s.memory_tampered _ word))

/-- Forging the header of one block and the footer of the next makes one block of two.  Either half
of that forgery raises an alarm. -/
theorem Reachable.tampering_detected_half : ∃ s : Session, s.live = [⟨64⟩, ⟨32⟩] ∧
    (s.tampered [(24, 65)]).Alarmed ∧ (s.tampered [(80, 65)]).Alarmed := by
  obtain ⟨s, hs, hlive, hwalk⟩ := exists_small
  obtain ⟨blocks, hblocks, htags, -⟩ := Reachable.tampering_detected hs
  obtain rfl := Except.ok.inj (hblocks.symm.trans hwalk)
  have hne : ∀ tag : Tag, tag.size = 32 → (65 : UInt64) ≠ tag.raw := by
    rintro ⟨raw⟩ hsize rfl
    exact absurd hsize (by decide)
  obtain ⟨tag, -, -, hsize, -, hheader⟩ := htags ⟨32, 32, true⟩ (by simp [Heap.tagged])
  obtain ⟨tag', -, -, hsize', -, hfooter⟩ := htags ⟨64, 32, true⟩ (by simp [Heap.tagged])
  exact ⟨s, hlive, (hheader 65 (hne tag hsize)).1, (hfooter 65 (hne tag' hsize')).2⟩

end Session

end BlockHeap
