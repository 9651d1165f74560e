import BlockHeap.Proofs.CleanBlocks
import BlockHeap.Proofs.ListWalks

/-!
# What a clean check says of the lists

The check looks at the nodes of each list one by one, and compares how many there are with how many
free blocks it has met.  `Heap.Enlists h queues` is what it can see of the lists: from the head of
each class the links lead through a sequence of nodes to an end, each node points back to the one
before it, and the word in front of it reads as the tag of a free block of the class.

If nothing is reported then no offset is on the lists twice, there are as many nodes as free blocks,
and if all nodes are blocks, or all free blocks are nodes, then the nodes are the free blocks
(`Session.Reachable.lists_of_clean`).  This is all that equal counts give.  The bytes of a payload
can be made to look like a free block, and if a list leads through them instead of through a block,
then the counts agree and nothing is reported (`Session.Reachable.exists_clean_with_forged_node`).
-/

namespace BlockHeap

namespace Link

/-- From the cursor, behind the node `prev`, the links lead through the nodes to an end, and each
node points back to the one before it. -/
inductive Linked (m : Memory) : (prev cursor : Option Nat) → List Nat → Prop
  | nil {prev : Option Nat} : Linked m prev none []
  | cons {prev : Option Nat} {x : Nat} {rest : List Nat}
      (hback : at? m (x + Memory.wordSize) = prev)
      (hrest : Linked m (some x) (at? m x) rest) : Linked m prev (some x) (x :: rest)

/-- The word in front of the node, which lies in the memory with its links, reads as the tag of a
free block of the class. -/
def Seems (m : Memory) (cls : SizeClass) (x : Nat) : Prop :=
  ∃ tag, header? m x = some tag ∧ tag.allocated = false ∧ SizeClass.ofSize tag.size = cls

variable {m : Memory} {lists : FreeLists} {cls : SizeClass} {fuel x : Nat}
variable {prev prev' cursor : Option Nat} {nodes nodes' : List Nat} {found : Findings}

lemma Linked.path (h : Linked m prev cursor nodes) : Path m cursor nodes := by
  induction h with
  | nil => exact .nil
  | cons hback hrest ih => exact .cons ih

/-- The links back have no say in where a sequence leads. -/
lemma Linked.unique (h : Linked m prev cursor nodes) (h' : Linked m prev' cursor nodes') :
    nodes = nodes' :=
  h.path.unique h'.path

lemma Linked.nodup (h : Linked m prev cursor nodes) : nodes.Nodup :=
  h.path.nodup

/-- A node that seems to be of two classes is of one. -/
lemma Seems.unique {cls' : SizeClass} (h : Seems m cls x) (h' : Seems m cls' x) : cls = cls' := by
  obtain ⟨tag, htag, -, rfl⟩ := h
  obtain ⟨tag', htag', -, rfl⟩ := h'
  rw [Option.some.inj (htag.symm.trans htag')]

/-- **One node.**  If nothing is wrong with it then it is free, of the class, and points back. -/
lemma inspect_eq_nil_iff {header : Tag} : Link.inspect m cls prev x header = [] ↔
    header.allocated = false ∧ SizeClass.ofSize header.size = cls ∧
      at? m (x + Memory.wordSize) = prev := by
  simp only [Link.inspect, List.append_eq_nil_iff, ite_eq_left_iff,
    ite_eq_right_iff, List.cons_ne_nil, imp_false, not_not, Bool.not_eq_true, and_assoc]

/-- **The walk over a list.**  A clean walk has met a sequence of nodes that seem to be free blocks
of the class, and has counted them. -/
lemma survey_clean (hsurvey : Link.survey m cls fuel prev cursor = .ok found)
    (hclean : found.violations = []) :
    ∃ nodes, Linked m prev cursor nodes ∧ (∀ x ∈ nodes, Seems m cls x) ∧
      found.free = nodes.length := by
  induction fuel generalizing prev cursor found with
  | zero =>
    cases cursor with
    | none =>
      obtain rfl := Except.ok.inj hsurvey
      exact ⟨[], .nil, nofun, rfl⟩
    | some x => cases hsurvey
  | succ fuel ih =>
    cases cursor with
    | none =>
      obtain rfl := Except.ok.inj hsurvey
      exact ⟨[], .nil, nofun, rfl⟩
    | some x =>
      rw [Link.survey] at hsurvey
      cases hheader : header? m x with
      | none =>
        rw [hheader] at hsurvey
        obtain rfl := Except.ok.inj hsurvey
        cases hclean
      | some header =>
        rw [hheader] at hsurvey
        obtain ⟨rest, hrest, hsurvey⟩ := bind_eq_ok_iff.1 hsurvey
        obtain rfl := Except.ok.inj hsurvey
        obtain ⟨hhere, hrestClean⟩ := List.append_eq_nil_iff.1 hclean
        obtain ⟨hfree, hcls, hback⟩ := inspect_eq_nil_iff.1 hhere
        obtain ⟨nodes, hlinked, hseems, hcount⟩ := ih hrest hrestClean
        refine ⟨x :: nodes, .cons hback hlinked, ?_, ?_⟩
        · intro y hy
          rcases List.mem_cons.1 hy with rfl | hy
          · exact ⟨header, hheader, hfree, hcls⟩
          · exact hseems y hy
        · show 1 + rest.free = _
          rw [hcount, List.length_cons, Nat.add_comm]

lemma surveyClass_clean (hsurvey : Link.surveyClass m lists cls = .ok found)
    (hclean : found.violations = []) :
    ∃ nodes, Linked m none (lists.head cls) nodes ∧ (∀ x ∈ nodes, Seems m cls x) ∧
      found.free = nodes.length := by
  obtain ⟨cyclic, -, hsurvey⟩ := bind_eq_ok_iff.1 hsurvey
  cases cyclic with
  | true =>
    obtain rfl := Except.ok.inj hsurvey
    cases hclean
  | false => exact survey_clean hsurvey hclean

end Link

/-! ## All lists -/

/-- Walks that found nothing broken together found nothing broken apiece, and if each has counted a
list then they have counted the lists together. -/
lemma Findings.concat_clean {α β : Type} {walk : α → Except Fault Findings} {xs : List α}
    {found : List Findings} (hwalks : xs.mapM walk = .ok found)
    (hclean : (Findings.concat found).violations = []) :
    (∀ x ∈ xs, ∃ y, walk x = .ok y ∧ y.violations = []) ∧
      ∀ seen : α → List β, (∀ x ∈ xs, ∀ y, walk x = .ok y → y.free = (seen x).length) →
        (Findings.concat found).free = (xs.flatMap seen).length := by
  have hpairs := mapM_eq_ok_iff.1 hwalks
  clear hwalks
  induction hpairs with
  | nil => exact ⟨nofun, fun _ _ => rfl⟩
  | @cons x y xs ys hy _ ih =>
    obtain ⟨hyClean, hysClean⟩ := List.append_eq_nil_iff.1 hclean
    obtain ⟨hclean, hcount⟩ := ih hysClean
    refine ⟨List.forall_mem_cons.2 ⟨⟨y, hy, hyClean⟩, hclean⟩, ?_⟩
    intro seen hseen
    rw [List.flatMap_cons, List.length_append,
      ← hcount seen fun z hz => hseen z (List.mem_cons_of_mem _ hz),
      ← hseen x List.mem_cons_self y hy]
    rfl

/-- The sequences are what can be seen of the lists. -/
structure Heap.Enlists (h : Heap) (queues : SizeClass → List Nat) : Prop where
  linked : ∀ c, Link.Linked h.memory none (h.lists.head c) (queues c)
  seems : ∀ c, ∀ x ∈ queues c, Link.Seems h.memory c x

/-- All offsets of the sequences. -/
def offsetsOf (queues : SizeClass → List Nat) : List Nat :=
  (List.finRange SizeClass.count).flatMap queues

namespace Heap

variable {h : Heap} {queues : SizeClass → List Nat} {blocks : List BlockInfo} {found : Findings}
variable {x : Nat} {c : SizeClass} {b : BlockInfo}

lemma mem_offsetsOf : x ∈ offsetsOf queues ↔ ∃ c, x ∈ queues c := by
  simp [offsetsOf]

lemma Enlists.nodup (henlists : h.Enlists queues) : (offsetsOf queues).Nodup := by
  refine List.nodup_flatMap.2 ⟨fun c _ => (henlists.linked c).nodup, (List.nodup_finRange _).imp ?_⟩
  intro c d hne x hc hd
  exact hne ((henlists.seems c x hc).unique (henlists.seems d x hd))

/-- A block on a list is free, since its tag says so. -/
lemma Enlists.free_of_mem (henlists : h.Enlists queues) (horderly : h.Orderly blocks)
    (hb : b ∈ blocks) (hx : b.offset ∈ offsetsOf queues) : b.allocated = false := by
  obtain ⟨c, hx⟩ := mem_offsetsOf.1 hx
  obtain ⟨tag, hheader, hfree, -⟩ := henlists.seems c _ hx
  obtain ⟨tag', hheader', -, -, hall⟩ := horderly.labelled b hb
  obtain ⟨hin, htag⟩ := Link.header?_eq_some_iff.1 hheader
  have := Block.header_eq_ok_of_tagAt? hin.1 htag
  obtain rfl := Except.ok.inj (this.symm.trans hheader')
  exact hall.symm.trans hfree

lemma exists_enlists_of_clean (hsurvey : h.surveyLists = .ok found)
    (hclean : found.violations = []) :
    ∃ queues, h.Enlists queues ∧ found.free = (offsetsOf queues).length := by
  obtain ⟨walks, hwalks, hfound⟩ := bind_eq_ok_iff.1 hsurvey
  obtain rfl := Except.ok.inj hfound
  obtain ⟨hwalk, hcount⟩ := Findings.concat_clean (β := Nat) hwalks hclean
  have hclass : ∀ c, ∃ nodes, Link.Linked h.memory none (h.lists.head c) nodes ∧
      (∀ x ∈ nodes, Link.Seems h.memory c x) ∧
      ∀ y, Link.surveyClass h.memory h.lists c = .ok y → y.free = nodes.length := by
    intro c
    obtain ⟨y, hy, hyClean⟩ := hwalk c (List.mem_finRange c)
    obtain ⟨nodes, hlinked, hseems, hfree⟩ := Link.surveyClass_clean hy hyClean
    refine ⟨nodes, hlinked, hseems, ?_⟩
    intro z hz
    rw [← Except.ok.inj (hy.symm.trans hz), hfree]
  choose queues hlinked hseems hfree using hclass
  exact ⟨queues, ⟨hlinked, hseems⟩, hcount queues fun c _ => hfree c⟩

end Heap

/-- The offsets of the free blocks. -/
def freeOffsets (blocks : List BlockInfo) : List Nat :=
  (blocks.filter (!·.allocated)).map BlockInfo.offset

lemma mem_freeOffsets {blocks : List BlockInfo} {x : Nat} :
    x ∈ freeOffsets blocks ↔ ∃ b ∈ blocks, b.allocated = false ∧ b.offset = x := by
  simp [freeOffsets, and_assoc]

lemma length_freeOffsets (blocks : List BlockInfo) :
    (freeOffsets blocks).length = freeCount blocks := by
  rw [freeOffsets, List.length_map, freeCount, List.countP_eq_length_filter]

/-- Nodes and free blocks are the same if they are as many and one kind is among the other. -/
lemma Heap.Enlists.perm_freeOffsets {h : Heap} {queues : SizeClass → List Nat}
    {blocks : List BlockInfo} (henlists : h.Enlists queues) (horderly : h.Orderly blocks)
    (hcount : (offsetsOf queues).length = freeCount blocks)
    (hamong : (∀ x ∈ offsetsOf queues, ∃ b ∈ blocks, b.offset = x) ∨
      ∀ b ∈ blocks, b.allocated = false → b.offset ∈ offsetsOf queues) :
    (offsetsOf queues).Perm (freeOffsets blocks) := by
  rw [← length_freeOffsets] at hcount
  rcases hamong with hblocks | hlisted
  · refine (List.subperm_of_subset henlists.nodup ?_).perm_of_length_le (Nat.le_of_eq hcount.symm)
    intro x hx
    obtain ⟨b, hb, rfl⟩ := hblocks x hx
    exact mem_freeOffsets.2 ⟨b, hb, henlists.free_of_mem horderly hb hx, rfl⟩
  · have hnodup : (freeOffsets blocks).Nodup :=
      (horderly.tiles.nodup_offset fun b hb => (horderly.shape b hb).2).sublist
        (List.filter_sublist.map _)
    refine ((List.subperm_of_subset hnodup ?_).perm_of_length_le (Nat.le_of_eq hcount)).symm
    intro x hx
    obtain ⟨b, hb, hfree, rfl⟩ := mem_freeOffsets.1 hx
    exact hlisted b hb hfree

namespace Session

variable {arena : Arena} {s : Session} {verbose : Bool} {inspection : Inspection}

/-- **Clean checks have seen lists of free blocks, or of what seems to be free blocks.**  Take the
heap of any session and let any bytes of its arena be overwritten.  If the check of what is left
reports no violation, then no offset is on the lists twice, no allocated block is on a list, there
are as many nodes as free blocks, and if all nodes are blocks, or all free blocks are nodes, then
the nodes are the free blocks. -/
theorem Reachable.lists_of_clean (hs : Reachable arena s) {m : Memory}
    (hm : m.size = s.heap.memory.size)
    (hcheck : ((s.heap.put m s.heap.lists).check verbose).outcome = .ok inspection)
    (hclean : inspection.report.violations = []) :
    ∃ blocks queues, (s.heap.put m s.heap.lists).blocks = .ok blocks ∧
      (s.heap.put m s.heap.lists).Enlists queues ∧ (offsetsOf queues).Nodup ∧
      (∀ b ∈ blocks, b.offset ∈ offsetsOf queues → b.allocated = false) ∧
      (offsetsOf queues).length = (freeOffsets blocks).length ∧
      ((∀ x ∈ offsetsOf queues, ∃ b ∈ blocks, b.offset = x) ∨
          (∀ b ∈ blocks, b.allocated = false → b.offset ∈ offsetsOf queues) →
        (offsetsOf queues).Perm (freeOffsets blocks)) := by
  obtain ⟨_, _, hh⟩ := hs.holds
  have hsmall := hh.sound.laid.size_lt
  rw [Heap.outcome_check] at hcheck
  obtain ⟨arena, lists, hprologue, hblocks, hlists, harenaClean, hlistsClean, hfree, -⟩ :=
    Heap.inspect_clean hcheck hclean
  obtain ⟨blocks, horderly, -, hcountFree⟩ :=
    Heap.exists_orderly_of_clean hprologue hblocks harenaClean (show m.size < _ by omega)
  obtain ⟨queues, henlists, hcount⟩ := Heap.exists_enlists_of_clean hlists hlistsClean
  have hlength : (offsetsOf queues).length = freeCount blocks := by
    rw [← hcount, ← hfree, hcountFree]
  refine ⟨blocks, queues, horderly.walk, henlists, henlists.nodup, ?_, ?_, ?_⟩
  · intro b hb hx
    exact henlists.free_of_mem horderly hb hx
  · rw [hlength, length_freeOffsets]
  · exact henlists.perm_freeOffsets horderly hlength

/-- The list of the first class leads from block 72 to offset 40 and ends there; the others are
empty. -/
def LeadsAstray (h : Heap) : Prop :=
  (∀ c, h.lists.head c = if c.val = 0 then some 72 else none) ∧
    Link.at? h.memory 72 = some 40 ∧ Link.at? h.memory 80 = none ∧
    Link.at? h.memory 40 = none ∧ Link.at? h.memory 48 = some 72

instance (h : Heap) : Decidable (LeadsAstray h) := inferInstanceAs (Decidable (_ ∧ _))

lemma LeadsAstray.offsetsOf_eq {h : Heap} {queues : SizeClass → List Nat} (hlinks : LeadsAstray h)
    (henlists : h.Enlists queues) : offsetsOf queues = [72, 40] := by
  obtain ⟨hhead, hnext, hprev, hnext', hprev'⟩ := hlinks
  have hqueues : queues = fun c => if c.val = 0 then [72, 40] else [] := by
    funext c
    have hlinked := henlists.linked c
    rw [hhead c] at hlinked
    by_cases hc : c.val = 0
    · rw [if_pos hc] at hlinked ⊢
      have hastray : Link.Linked h.memory none (some 72) [72, 40] :=
        .cons hprev (hnext ▸ .cons hprev' (hnext' ▸ .nil))
      exact hlinked.unique hastray
    · rw [if_neg hc] at hlinked ⊢
      exact hlinked.unique (@Link.Linked.nil _ none)
  rw [hqueues]
  decide

/-- Behind the back of a heap with the free blocks 72 and 136, the payload of the live block 32 is
made to look like a free block at 40, and block 72 is linked to that one instead of block 136. -/
lemma exists_forged : ∃ h s, (Heap.withConfig ⟨136, 10, 1024⟩ 1024).outcome = .ok (.ok h) ∧
    Session.attempt ⟨h, []⟩ [.allocate 24, .allocate 16, .allocate 16, .allocate 16,
      .release (some ⟨136⟩), .release (some ⟨72⟩)] = some s ∧
    Reachable (.owned 1024 1024) s ∧
    ((s.tampered [(32, 32), (40, 0), (48, 72), (72, 40)]).check false).outcome =
      .ok ⟨⟨[], 4, 2, 2⟩, []⟩ ∧
    (s.tampered [(32, 32), (40, 0), (48, 72), (72, 40)]).blocks =
      .ok [⟨32, 40, true⟩, ⟨72, 32, false⟩, ⟨104, 32, true⟩, ⟨136, 32, false⟩] ∧
    LeadsAstray (s.tampered [(32, 32), (40, 0), (48, 72), (72, 40)]) := by
  obtain ⟨h, s, hmake, hattempt, hs, hcheck, hview⟩ := exists_tampered ⟨136, 10, 1024⟩ 1024
    [.allocate 24, .allocate 16, .allocate 16, .allocate 16, .release (some ⟨136⟩),
      .release (some ⟨72⟩)] [(32, 32), (40, 0), (48, 72), (72, 40)]
    (fun h => h.blocks.toOption.map fun blocks => (blocks, decide (LeadsAstray h)))
    ⟨⟨[], 4, 2, 2⟩, []⟩
    ([⟨32, 40, true⟩, ⟨72, 32, false⟩, ⟨104, 32, true⟩, ⟨136, 32, false⟩], true)
    (by decide +kernel)
  obtain ⟨blocks, hblocks, hview⟩ := Option.map_eq_some_iff.1 hview
  obtain ⟨rfl, hlinks⟩ := Prod.mk.inj hview
  exact ⟨h, s, hmake, hattempt, hs, hcheck, eq_ok_of_toOption hblocks, of_decide_eq_true hlinks⟩

/-- **A forged node passes the check.**  The walk over the blocks meets the free blocks 72 and 136,
the lists hold 72 and 40, and nothing is reported: a free block is on no list, and a node is no
block. -/
theorem Reachable.exists_clean_with_forged_node :
    ∃ (h : Heap) (s : Session) (blocks : List BlockInfo) (queues : SizeClass → List Nat),
      (Heap.withConfig ⟨136, 10, 1024⟩ 1024).outcome = .ok (.ok h) ∧
      Session.attempt ⟨h, []⟩ [.allocate 24, .allocate 16, .allocate 16, .allocate 16,
        .release (some ⟨136⟩), .release (some ⟨72⟩)] = some s ∧
      Reachable (.owned 1024 1024) s ∧
      ((s.tampered [(32, 32), (40, 0), (48, 72), (72, 40)]).check false).outcome =
        .ok ⟨⟨[], 4, 2, 2⟩, []⟩ ∧
      (s.tampered [(32, 32), (40, 0), (48, 72), (72, 40)]).blocks = .ok blocks ∧
      (s.tampered [(32, 32), (40, 0), (48, 72), (72, 40)]).Enlists queues ∧
      (⟨136, 32, false⟩ ∈ blocks ∧ 136 ∉ offsetsOf queues) ∧
      (40 ∈ offsetsOf queues ∧ ∀ b ∈ blocks, b.offset ≠ 40) := by
  obtain ⟨h, s, hmake, hattempt, hs, hcheck, hblocks, hlinks⟩ := exists_forged
  have hinspect := hcheck
  rw [Heap.outcome_check] at hinspect
  obtain ⟨-, lists, -, -, hlists, -, hclean, -, -⟩ := Heap.inspect_clean hinspect rfl
  obtain ⟨queues, henlists, -⟩ := Heap.exists_enlists_of_clean hlists hclean
  have hoffsets := hlinks.offsetsOf_eq henlists
  exact ⟨h, s, _, queues, hmake, hattempt, hs, hcheck, hblocks, henlists,
    ⟨by decide, by rw [hoffsets]; decide⟩, by rw [hoffsets]; decide, by decide⟩

/-- Where a forged node passes the check, there are still as many nodes as free blocks. -/
theorem Reachable.lists_of_clean_forged :
    ∃ (h : Heap) (queues : SizeClass → List Nat), h.Enlists queues ∧
      h.blocks = .ok [⟨32, 40, true⟩, ⟨72, 32, false⟩, ⟨104, 32, true⟩, ⟨136, 32, false⟩] ∧
      (offsetsOf queues).Nodup ∧ (offsetsOf queues).length = 2 := by
  obtain ⟨-, s, -, -, hs, hcheck, hblocks, -⟩ := exists_forged
  obtain ⟨blocks, queues, hwalk, henlists, hnodup, -, hlength, -⟩ :=
    Reachable.lists_of_clean hs (Memory.size_poked ..) hcheck rfl
  obtain rfl := Except.ok.inj (hwalk.symm.trans hblocks)
  exact ⟨_, queues, henlists, hwalk, hnodup, hlength⟩

end Session

end BlockHeap
