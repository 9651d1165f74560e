import BlockHeap.Proofs.Words
import BlockHeap.Trace.Replay
import Mathlib.Algebra.GroupWithZero.Nat
import Mathlib.Data.Finmap
import Mathlib.Order.Bounds.Basic

/-!
# What traces ask for

The meaning of a trace has nothing to do with heaps.  A `Demand` says which blocks are live and how
many bytes were asked for in each; an operation is allowed or not, by whether the number of its
block is free or in use, and turns one demand into another.

A replay does not compute demands but keeps a ledger.  `Ledger.Tallies` relates the two: the entries
of the ledger are those of the demand, and the numbers that it carries along are those which the
demand has anyway.  Both ways to change a ledger keep that up (`Ledger.Tallies.insert`,
`Ledger.Tallies.remove`).
-/

namespace BlockHeap

/-! ## Demands -/

/-- The live blocks, with the number of bytes that was asked for in each. -/
abbrev Demand := Finmap fun _ : Nat => Nat

namespace Demand

variable {M : Demand} {id size : Nat}

/-- The bytes that are asked for together. -/
def total (M : Demand) : Nat := (M.entries.map Sigma.snd).sum

/-- How many blocks are asked for that have any bytes. -/
def sized (M : Demand) : Nat := M.entries.countP fun entry => entry.2 ≠ 0

lemma total_insert (hid : id ∉ M) : total (M.insert id size) = size + M.total := by
  rw [total, total, Finmap.entries_insert_of_notMem hid, Multiset.map_cons, Multiset.sum_cons]

lemma insert_erase (hid : M.lookup id = some size) : (M.erase id).insert id size = M := by
  apply Finmap.ext_lookup
  intro x
  rcases eq_or_ne x id with rfl | hne
  · rw [Finmap.lookup_insert, hid]
  · rw [Finmap.lookup_insert_of_ne _ hne, Finmap.lookup_erase_ne hne]

/-- It does not matter whether an entry is taken out before it is overwritten. -/
lemma erase_insert : (M.erase id).insert id size = M.insert id size := by
  apply Finmap.ext_lookup
  intro x
  rcases eq_or_ne x id with rfl | hne
  · rw [Finmap.lookup_insert, Finmap.lookup_insert]
  · rw [Finmap.lookup_insert_of_ne _ hne, Finmap.lookup_insert_of_ne _ hne,
      Finmap.lookup_erase_ne hne]

lemma total_erase (hid : M.lookup id = some size) : size + total (M.erase id) = M.total := by
  rw [← total_insert Finmap.notMem_erase_self, insert_erase hid]

end Demand

namespace Operation

/-- Whether the number of the block is free or in use, as the operation needs it. -/
def Allowed (M : Demand) : Operation → Prop
  | allocate id _ | zeroedAllocate id _ _ => id ∉ M
  | release id | resize id _ => id ∈ M

/-- What is asked for after the operation. -/
def update (M : Demand) : Operation → Demand
  | allocate id size => M.insert id size
  | zeroedAllocate id count size => M.insert id (count * size)
  | release id => M.erase id
  | resize id size => M.insert id size

/-- How an operation that is not allowed fails. -/
def conflict (line : Nat) : Operation → ReplayError
  | allocate id _ | zeroedAllocate id _ _ => .duplicateId line id
  | release id | resize id _ => .unknownId line id

end Operation

/-- The error is about a number that is in use or not. -/
def ReplayError.IsConflict : ReplayError → Prop
  | unknownId _ _ | duplicateId _ _ => True
  | allocate _ _ _ | resize _ _ _ | corrupted _ _ | inconsistent _ _ => False

/-- The error is that the heap refused. -/
def ReplayError.IsRefusal : ReplayError → Prop
  | allocate _ _ _ | resize _ _ _ => True
  | unknownId _ _ | duplicateId _ _ | corrupted _ _ | inconsistent _ _ => False

lemma Operation.isConflict_conflict (line : Nat) (op : Operation) :
    (op.conflict line).IsConflict := by
  cases op <;> trivial

lemma ReplayError.IsRefusal.not_isConflict {error : ReplayError} (h : error.IsRefusal) :
    ¬ error.IsConflict := by
  cases error <;> first | exact not_false | exact h.elim

/-- What operations ask for in the end. -/
def Demand.after (ops : List (Nat × Operation)) : Demand :=
  ops.foldl (fun M entry => entry.2.update M) ∅

@[simp] lemma Demand.after_concat (ops : List (Nat × Operation)) (entry : Nat × Operation) :
    Demand.after (ops ++ [entry]) = entry.2.update (Demand.after ops) := by
  rw [after, after, List.foldl_append]
  rfl

/-- The sums of bytes that operations ask for on the way. -/
def Demand.totals (ops : List (Nat × Operation)) : Set Nat :=
  {n | ∃ xs, xs <+: ops ∧ (Demand.after xs).total = n}

lemma Demand.isGreatest_totals_nil : IsGreatest (Demand.totals []) 0 := by
  refine ⟨⟨[], List.prefix_refl _, rfl⟩, ?_⟩
  rintro n ⟨xs, hxs, rfl⟩
  obtain rfl := List.prefix_nil.1 hxs
  exact Nat.le_refl _

lemma Demand.totals_concat (ops : List (Nat × Operation)) (entry : Nat × Operation) :
    Demand.totals (ops ++ [entry]) =
      insert (Demand.after (ops ++ [entry])).total (Demand.totals ops) := by
  ext n
  constructor
  · rintro ⟨xs, hxs, rfl⟩
    rcases List.prefix_concat_iff.1 hxs with rfl | hxs
    · exact .inl rfl
    · exact .inr ⟨xs, hxs, rfl⟩
  · rintro (rfl | ⟨xs, hxs, rfl⟩)
    · exact ⟨_, List.prefix_refl _, rfl⟩
    · exact ⟨xs, hxs.trans (List.prefix_append ..), rfl⟩

namespace Trace

/-- What the trace asks for in the end. -/
def demand (trace : Trace) : Demand := Demand.after trace.ops

/-- The first operations of the trace. -/
def take (trace : Trace) (k : Nat) : Trace := ⟨trace.ops.take k⟩

end Trace

/-! ## Ledgers -/

/-- An entry that is found by what is unique to it can be filtered out. -/
lemma filter_ne_eq {α β : Type} [DecidableEq β] {f : α → β} {xs ys : List α} {x : α}
    (h : ((xs ++ x :: ys).map f).Nodup) :
    (xs ++ x :: ys).filter (fun y => f y ≠ f x) = xs ++ ys := by
  rw [List.map_append, List.map_cons, List.nodup_middle, ← List.map_append] at h
  have hnot := (List.nodup_cons.1 h).1
  rw [List.filter_append, List.filter_cons_of_neg (by simp), ← List.filter_append,
    List.filter_eq_self]
  intro y hy
  rw [decide_eq_true_eq]
  intro he
  exact hnot (he ▸ List.mem_map_of_mem hy)

namespace Ledger

/-- An entry of a ledger, as one of a demand. -/
def asked (entry : Nat × LiveBlock) : Σ _ : Nat, Nat := ⟨entry.1, entry.2.size⟩

/-- **The books are right.**  They list what is asked for, and the sums are what they should be. -/
structure Tallies (ledger : Ledger) (M : Demand) : Prop where
  entries : M.entries = ledger.live.map asked
  liveBytes : ledger.liveBytes = M.total
  total_le : M.total ≤ ledger.peakPayload

variable {ledger : Ledger} {M : Demand} {block : LiveBlock} {id : Nat}

lemma mem_of_find? (hid : ledger.find? id = some block) : (id, block) ∈ ledger.live := by
  obtain ⟨xs, ys, hlive, -⟩ := List.lookup_eq_some_iff.1 hid
  simp [hlive]

lemma tallies_empty : ({} : Ledger).Tallies ∅ := ⟨rfl, rfl, Nat.le_refl _⟩

namespace Tallies

lemma nodup (h : ledger.Tallies M) : (ledger.live.map Prod.fst).Nodup := by
  have hkeys := M.nodupKeys
  rw [h.entries, Multiset.coe_nodupKeys, List.NodupKeys, List.keys, List.map_map] at hkeys
  exact hkeys

lemma lookup_eq (h : ledger.Tallies M) (hid : ledger.find? id = some block) :
    M.lookup id = some block.size := by
  obtain ⟨xs, ys, hlive, -⟩ := List.lookup_eq_some_iff.1 hid
  rw [Finmap.lookup_eq_some_iff, h.entries, hlive]
  simp [asked]

lemma mem_iff (h : ledger.Tallies M) : id ∈ M ↔ ledger.contains id = true := by
  rw [contains, find?, List.lookup_isSome_iff, Finmap.mem_def, h.entries, Multiset.coe_keys,
    Multiset.mem_coe, List.keys, List.map_map, List.mem_map]
  refine exists_congr fun entry => and_congr_right fun _ => ?_
  rw [beq_iff_eq, eq_comm]
  rfl

lemma find?_eq_none (h : ledger.Tallies M) (hid : id ∉ M) : ledger.find? id = none :=
  Option.not_isSome_iff_eq_none.1 (mt h.mem_iff.2 hid)

lemma exists_find? (h : ledger.Tallies M) (hid : id ∈ M) :
    ∃ block, ledger.find? id = some block :=
  Option.isSome_iff_exists.1 (h.mem_iff.1 hid)

lemma total_eq (h : ledger.Tallies M) :
    M.total = (ledger.live.map fun entry => entry.2.size).sum := by
  rw [Demand.total, h.entries, Multiset.map_coe, Multiset.sum_coe, List.map_map]
  rfl

lemma sized_eq (h : ledger.Tallies M) :
    M.sized = ledger.live.countP fun entry => entry.2.size ≠ 0 := by
  rw [Demand.sized, h.entries, Multiset.coe_countP, List.countP_map]
  rfl

lemma insert (h : ledger.Tallies M) (hid : id ∉ M)
    (hlt : Demand.total (M.insert id block.size) < Checked.bound) :
    ∃ ledger', ledger.insert id block = .ok ledger' ∧ ledger'.live = (id, block) :: ledger.live ∧
      ledger'.peakPayload = max ledger.peakPayload (Demand.total (M.insert id block.size)) ∧
      ledger'.ops = ledger.ops ∧ ledger'.Tallies (M.insert id block.size) := by
  have htotal : Demand.total (M.insert id block.size) = _ := Demand.total_insert hid
  rw [Nat.add_comm, ← h.liveBytes] at htotal
  rw [htotal] at hlt ⊢
  have hinsert : ledger.insert id block = .ok { ledger with
      live := (id, block) :: ledger.live
      liveBytes := ledger.liveBytes + block.size
      peakPayload := max ledger.peakPayload (ledger.liveBytes + block.size) } := by
    rw [Ledger.insert, Checked.add_eq hlt]
    rfl
  refine ⟨_, hinsert, rfl, rfl, rfl, ?_, htotal.symm, htotal ▸ Nat.le_max_right ..⟩
  rw [Finmap.entries_insert_of_notMem hid, h.entries]
  rfl

lemma remove (h : ledger.Tallies M) (hid : ledger.find? id = some block) :
    ∃ ledger' xs ys, ledger.live = xs ++ (id, block) :: ys ∧
      ledger.remove id block = .ok ledger' ∧ ledger'.live = xs ++ ys ∧
      ledger'.peakPayload = ledger.peakPayload ∧ ledger'.ops = ledger.ops ∧
      ledger'.Tallies (M.erase id) := by
  have hlookup := h.lookup_eq hid
  have htotal := Demand.total_erase hlookup
  have hpeak := h.total_le
  obtain ⟨xs, ys, hlive, -⟩ := List.lookup_eq_some_iff.1 hid
  have hfilter : (ledger.live.filter fun entry => entry.1 ≠ id) = xs ++ ys := by
    rw [hlive]
    exact filter_ne_eq (f := Prod.fst) (hlive ▸ h.nodup)
  have hle : block.size ≤ ledger.liveBytes := by
    rw [h.liveBytes]
    omega
  have hremove : ledger.remove id block = .ok { ledger with
      live := ledger.live.filter fun entry => entry.1 ≠ id
      liveBytes := ledger.liveBytes - block.size } := by
    rw [Ledger.remove, Checked.sub_eq hle]
    rfl
  refine ⟨_, xs, ys, hlive, hremove, hfilter, rfl, rfl, ?_, ?_, ?_⟩
  · -- put back, the entry makes the list what it was
    rw [hfilter, ← Multiset.cons_inj_right (asked (id, block)), asked,
      ← Finmap.entries_insert_of_notMem Finmap.notMem_erase_self, Demand.insert_erase hlookup,
      h.entries, hlive]
    exact Multiset.coe_eq_coe.2 (List.perm_middle.map asked)
  · show ledger.liveBytes - block.size = _
    rw [h.liveBytes]
    omega
  · show _ ≤ ledger.peakPayload
    omega

end Tallies

end Ledger

end BlockHeap
