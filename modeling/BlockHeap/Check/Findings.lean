import BlockHeap.Check.Cycle
import BlockHeap.Check.Violation

/-!
# Walking a heap that may be broken

Two walks look at a memory without trusting it: one over the physical blocks, from the prologue to
the first block of size zero, and one over the list of each size class.  Each notes the blocks it
visits and the invariants it finds broken, and stops where there is no way on.
-/

namespace BlockHeap

/-- What a walk came across: the offsets that it visited and the broken invariants, both in order,
and how many blocks it passed, the prologue not among them, and how many free ones. -/
structure Findings where
  visited : List Nat := []
  violations : List Violation := []
  blocks : Nat := 0
  free : Nat := 0
  deriving DecidableEq, Repr

namespace Findings

/-- The findings of one walk after those of another. -/
def append (x y : Findings) : Findings :=
  ⟨x.visited ++ y.visited, x.violations ++ y.violations, x.blocks + y.blocks, x.free + y.free⟩

/-- Findings that name only violations. -/
def ofViolations (violations : List Violation) : Findings := { violations }

/-- The findings of several walks in order. -/
def concat : List Findings → Findings
  | [] => {}
  | findings :: rest => findings.append (concat rest)

end Findings

namespace Block

/-- The tag at a position, if it lies in the memory. -/
def tagAt? (m : Memory) (pos : Nat) : Option Tag :=
  (m.word? pos).map Tag.mk

/-- What is wrong with a block that has the given header, and whether its size can be trusted to
lead to the next one. -/
def inspect (m : Memory) (prologue block : Nat) (header : Tag) :
    Except Fault (List Violation × Bool) := do
  let start ← headerOffset block
  let misaligned := if isAligned block then [] else [.misaligned block]
  if m.size ≤ start ∨ m.size < start + header.size then
    return (misaligned ++ [.outOfBounds block], false)
  else
    let undersized :=
      if block ≠ prologue ∧ header.size < minSize then [.undersized block header.size] else []
    let footerPos ← footerOffset block header.size
    match tagAt? m footerPos with
    | none => return (misaligned ++ undersized ++ [.outOfBounds block], false)
    | some footer =>
      let mismatch := if footer = header then [] else [.tagMismatch block header footer]
      return (misaligned ++ undersized ++ mismatch, true)

/-- Walks over the blocks from one of them on.  `lastFree` is the block before it, if that is
free. -/
def survey (m : Memory) (prologue : Nat) :
    (fuel block : Nat) → (lastFree : Option Nat) → Except Fault Findings
  | 0, _, _ => throw .endless
  | fuel + 1, block, lastFree => do
    let start ← headerOffset block
    match tagAt? m start with
    | none => return { visited := [block], violations := [.outOfBounds block] }
    | some header =>
      if header.size = 0 then
        let sound := header.allocated ∧ block = m.size
        return { visited := [block], violations := if sound then [] else [.badEpilogue block] }
      else
        let (violations, passable) ← inspect m prologue block header
        if passable then
          let uncoalesced :=
            match lastFree with
            | some prev => if header.allocated then [] else [.uncoalesced prev block]
            | none => []
          let next ← Checked.add block header.size
          let rest ← survey m prologue fuel next (if header.allocated then none else some block)
          let here : Findings :=
            { visited := [block]
              violations := violations ++ uncoalesced
              blocks := if block = prologue then 0 else 1
              free := (!header.allocated).toNat }
          return here.append rest
        else
          return { visited := [block], violations }

end Block

namespace Link

/-- The header of a block on a list, if header and links lie in the memory. -/
def header? (m : Memory) (block : Nat) : Option Tag :=
  if Memory.wordSize ≤ block ∧ block + 2 * Memory.wordSize ≤ m.size then
    Block.tagAt? m (block - Memory.wordSize)
  else
    none

/-- What is wrong with a block on the list of a class, after the block `prev`. -/
def inspect (m : Memory) (cls : SizeClass) (prev : Option Nat) (block : Nat) (header : Tag) :
    List Violation :=
  let expected := SizeClass.ofSize header.size
  (if header.allocated then [.allocatedInList cls block] else [])
    ++ (if expected = cls then [] else [.wrongClass block header.size cls expected])
    ++ (if at? m (block + Memory.wordSize) = prev then [] else [.brokenLinks block])

/-- Walks over the list of a class from `cursor` on, where `prev` is the block before. -/
def survey (m : Memory) (cls : SizeClass) :
    (fuel : Nat) → (prev cursor : Option Nat) → Except Fault Findings
  | _, _, none => return {}
  | 0, _, some _ => throw .endless
  | fuel + 1, prev, some block =>
    match header? m block with
    | none => return .ofViolations [.danglingLink cls block]
    | some header => do
      let rest ← survey m cls fuel (some block) (at? m block)
      let here : Findings :=
        { visited := [block], violations := inspect m cls prev block header, free := 1 }
      return here.append rest

/-- Walks over the list of a class, unless it never ends.  A list that ends has at most one block
for every byte of the memory. -/
def surveyClass (m : Memory) (lists : FreeLists) (cls : SizeClass) : Except Fault Findings := do
  let head := lists.head cls
  if ← hasCycle m head then
    return .ofViolations [.cycle cls]
  else
    survey m cls (m.size + 1) none head

end Link

end BlockHeap
