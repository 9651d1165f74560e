import BlockHeap.Check.Findings
import BlockHeap.Proofs.Cycles

/-!
# Walks over lists that end

The walk that looks for what is wrong with a list has no guard against a list that goes round.  It
follows the same links as the two walkers of `Link.hasCycle`, and it is sent off only where these
find no cycle.

`Link.Path m cursor nodes` says that the links lead from the cursor through the given nodes to an
end.  A path has no node twice (`Link.Path.nodup`), and a walk of the check along it has an answer
that no further step changes (`Link.Path.survey`).  A list either has a path or goes round, and what
goes round comes to some node twice (`Link.endless_iff_recurs`).  So the test is exact, on any
memory and from any head, and where it answers no the walk is finite (`Link.hasCycle_exact`).
-/

namespace BlockHeap

/-- A walk has been to some of the nodes from the first on, which look like blocks, and has counted
each of them. -/
structure Findings.Visits (found : Findings) (m : Memory) (nodes : List Nat) : Prop where
  visited : found.visited <+: nodes
  header : ∀ x ∈ found.visited, ∃ tag, Link.header? m x = some tag
  blocks : found.blocks = 0
  free : found.free = found.visited.length

namespace Link

/-- From the cursor the links lead through these nodes to an end. -/
inductive Path (m : Memory) : (cursor : Option Nat) → List Nat → Prop
  | nil : Path m none []
  | cons {x : Nat} {rest : List Nat} (hrest : Path m (at? m x) rest) : Path m (some x) (x :: rest)

/-- Some offset is come to twice. -/
def Recurs (m : Memory) (start : Option Nat) : Prop :=
  ∃ i j x, i < j ∧ follow m start i = some x ∧ follow m start j = some x

variable {m : Memory} {start cursor : Option Nat} {nodes nodes' : List Nat} {fuel n : Nat}

/-- What never ends comes back to where it was, and what comes back never ends. -/
lemma endless_iff_recurs : Endless m start ↔ Recurs m start := by
  constructor
  · intro hendless
    obtain ⟨i, j, hlt, -, heq⟩ := exists_repeat (hendless (m.size + 1))
    obtain ⟨x, hx⟩ := Option.isSome_iff_exists.1 (hendless j)
    exact ⟨i, j, x, hlt, heq.trans hx, hx⟩
  · rintro ⟨i, j, x, hlt, hi, hj⟩
    exact endless_of_repeat (hi.trans hj.symm) hlt (Option.isSome_of_eq_some hj)

namespace Path

/-- The nodes of a path are the offsets that the links lead to, in order. -/
lemma getElem? (h : Path m cursor nodes) (n : Nat) : nodes[n]? = follow m cursor n := by
  induction h generalizing n with
  | nil =>
    induction n with
    | zero => rfl
    | succ n ih =>
      rw [follow_succ, ← ih]
      rfl
  | @cons x rest hrest ih =>
    cases n with
    | zero => rfl
    | succ n =>
      rw [List.getElem?_cons_succ, ih n]
      exact follow_bind m (some x) n

/-- Links are words, so they lead one way only. -/
lemma unique (h : Path m cursor nodes) (h' : Path m cursor nodes') : nodes = nodes' :=
  List.ext_getElem? fun n => (h.getElem? n).trans (h'.getElem? n).symm

lemma nodup (h : Path m cursor nodes) : nodes.Nodup := by
  rw [List.nodup_iff_getElem?_ne_getElem?]
  intro i j hlt hj heq
  rw [h.getElem? i, h.getElem? j] at heq
  have hsome : (follow m cursor j).isSome := by
    rw [← h.getElem? j, List.getElem?_eq_getElem hj]
    rfl
  have hend := h.getElem? nodes.length
  have hendless := endless_of_repeat heq hlt hsome nodes.length
  rw [← hend, List.getElem?_eq_none le_rfl] at hendless
  cases hendless

/-- **The walk along a path.**  It visits the nodes from the first on, as far as they look like
blocks, and it is over when the path is. -/
lemma survey (h : Path m cursor nodes) (cls : SizeClass) (prev : Option Nat) :
    ∃ found : Findings, found.Visits m nodes ∧
      ∀ fuel, nodes.length ≤ fuel → Link.survey m cls fuel prev cursor = .ok found := by
  have hnone : ∀ x ∈ ([] : List Nat), ∃ tag, header? m x = some tag := nofun
  induction h generalizing prev with
  | nil => exact ⟨{}, ⟨List.prefix_rfl, hnone, rfl, rfl⟩, fun fuel _ => by cases fuel <;> rfl⟩
  | @cons x rest hrest ih =>
    cases hheader : header? m x with
    | none =>
      refine ⟨.ofViolations [.danglingLink cls x], ⟨List.nil_prefix, hnone, rfl, rfl⟩,
        fun fuel hfuel => ?_⟩
      obtain ⟨fuel, rfl⟩ := Nat.exists_eq_add_one_of_ne_zero (Nat.ne_zero_of_lt hfuel)
      rw [Link.survey, hheader]
      rfl
    | some header =>
      obtain ⟨found, hvisits, hwalk⟩ := ih (some x)
      let here : Findings :=
        { visited := [x], violations := Link.inspect m cls prev x header, free := 1 }
      refine ⟨here.append found, ⟨List.cons_prefix_cons.2 ⟨rfl, hvisits.visited⟩,
        List.forall_mem_cons.2 ⟨⟨header, hheader⟩, hvisits.header⟩, ?_, ?_⟩, fun fuel hfuel => ?_⟩
      · exact (Nat.zero_add _).trans hvisits.blocks
      · show 1 + found.free = found.visited.length + 1
        rw [hvisits.free, Nat.add_comm]
      obtain ⟨fuel, rfl⟩ := Nat.exists_eq_add_one_of_ne_zero (Nat.ne_zero_of_lt hfuel)
      rw [Link.survey, hheader]
      simp only [hwalk fuel (Nat.le_of_succ_le_succ hfuel)]
      rfl

end Path

lemma exists_path (hend : follow m cursor n = none) :
    ∃ nodes, Path m cursor nodes ∧ nodes.length ≤ n := by
  induction n generalizing cursor with
  | zero =>
    obtain rfl : cursor = none := hend
    exact ⟨[], .nil, le_rfl⟩
  | succ n ih =>
    cases cursor with
    | none => exact ⟨[], .nil, Nat.zero_le _⟩
    | some x =>
      obtain ⟨nodes, hpath, hlen⟩ := ih ((follow_bind m (some x) n).trans hend)
      exact ⟨x :: nodes, .cons hpath, Nat.succ_le_succ hlen⟩

/-- The walkers have come to their answer before they have made a step for every byte. -/
lemma chase_eq_hasCycle (hfuel : m.size + 2 ≤ fuel) :
    chase m fuel start start = hasCycle m start := by
  obtain ⟨fuel, rfl⟩ := Nat.exists_eq_add_one_of_ne_zero (Nat.ne_zero_of_lt hfuel)
  cases hlast : follow m start (m.size + 1) with
  | none =>
    rw [hasCycle_of_end hlast]
    exact chase_of_end (i := 0) hlast (by omega)
  | some x =>
    have hendless := endless_iff.2 (Option.isSome_of_eq_some hlast)
    obtain ⟨t, hpos, hle, hmeet⟩ := exists_meeting hendless
    rw [hasCycle_of_endless hendless]
    exact chase_of_endless hendless hmeet hpos (by omega)

/-- **The test for cycles is exact.**  On any memory and from any head the two walkers come to an
answer, and more steps would not change it.  They answer yes exactly if the links never end, which
is to say that they come to some offset twice.  If they answer no then the links lead through
finitely many nodes, each of them once, and every walk of the check from that head is over when it
has been to these. -/
theorem hasCycle_exact (m : Memory) (head : Option Nat) :
    ∃ cyclic, hasCycle m head = .ok cyclic ∧
      (∀ fuel, m.size + 2 ≤ fuel → chase m fuel head head = .ok cyclic) ∧
      (cyclic = true ↔ Endless m head) ∧ (cyclic = true ↔ Recurs m head) ∧
      (cyclic = false → ∃ nodes, Path m head nodes ∧ nodes.Nodup ∧ nodes.length ≤ m.size + 1 ∧
        ∀ cls prev, ∃ found : Findings, found.Visits m nodes ∧
          ∀ fuel, nodes.length ≤ fuel → survey m cls fuel prev head = .ok found) := by
  rw [← endless_iff_recurs]
  cases hlast : follow m head (m.size + 1) with
  | none =>
    have hno := hasCycle_of_end hlast
    have hends : ¬ Endless m head := fun hendless => by
      simpa [hlast] using endless_iff.1 hendless
    obtain ⟨nodes, hpath, hlen⟩ := exists_path hlast
    exact ⟨false, hno, fun fuel hfuel => (chase_eq_hasCycle hfuel).trans hno, by simpa using hends,
      by simpa using hends,
      fun _ => ⟨nodes, hpath, hpath.nodup, hlen, fun cls prev => hpath.survey cls prev⟩⟩
  | some x =>
    have hendless := endless_iff.2 (Option.isSome_of_eq_some hlast)
    have hyes := hasCycle_of_endless hendless
    exact ⟨true, hyes, fun fuel hfuel => (chase_eq_hasCycle hfuel).trans hyes,
      by simpa using hendless, by simpa using hendless, nofun⟩

/-- Two words with seven bytes in common, one of them a link to itself and one out of the memory. -/
example : hasCycle ⟨⟨#[7, 1, 0, 0, 0, 0, 0, 0, 0]⟩⟩ (some 1) = .ok true ∧
    hasCycle ⟨⟨#[7, 1, 0, 0, 0, 0, 0, 0, 0]⟩⟩ (some 0) = .ok false := by decide

end Link

end BlockHeap
