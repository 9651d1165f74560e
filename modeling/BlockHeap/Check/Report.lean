import BlockHeap.Check.Findings
import BlockHeap.Heap.Basic

/-!
# Checking a heap

`Heap.check` looks at the prologue, walks over the physical blocks and over the five lists, and
compares the number of free blocks the two kinds of walk have met.  It changes nothing, and it is
made to answer on any content of the arena: tags and links are read as they are found, and a
position outside the arena is a violation and not a fault.
-/

namespace BlockHeap

/-- What a check found: the broken invariants in the order in which they were met, the number of
blocks between the sentinels and of the free ones among them, and the number of blocks on the free
lists. -/
structure Report where
  violations : List Violation
  blocks : Nat
  arenaFree : Nat
  listFree : Nat
  deriving DecidableEq, Repr

namespace Report

/-- Whether nothing was found broken. -/
def isConsistent (report : Report) : Bool := report.violations.isEmpty

/-- The events of a check with this result. -/
def events (report : Report) : List Event :=
  report.violations.map .violated
    ++ [.checked report.blocks report.arenaFree report.violations.length]

end Report

/-- A report together with the list of everything the check visited, which has a line for the heap
and one for every visit, or none unless it was asked for. -/
structure Inspection where
  report : Report
  listing : List String
  deriving DecidableEq, Repr

namespace Block

/-- One line about a block: its two tags, or that it is the end, or that it cannot be read. -/
def describe (m : Memory) (block : Nat) : Except Fault String := do
  let start ← headerOffset block
  match tagAt? m start with
  | none => return Text.hex block ++ ": <unreadable>"
  | some header =>
    if header.size = 0 then
      return Text.hex block ++ ": EOL"
    else
      let stop := block + header.size
      let footer ←
        if stop < Checked.bound then tagAt? m <$> Checked.sub stop overhead else pure none
      match footer with
      | some footer =>
        return Text.hex block ++ ": header " ++ header.text ++ " footer " ++ footer.text
      | none =>
        return Text.hex block ++ ": header " ++ header.text ++ " footer <unreadable>"

/-- What is wrong with the header of the prologue. -/
def inspectPrologue (m : Memory) (prologue : Nat) : Except Fault (List Violation) := do
  let start ← headerOffset prologue
  match tagAt? m start with
  | some tag =>
    return if tag.size = prologueSize ∧ tag.allocated then [] else [.badPrologue prologue]
  | none => return [.badPrologue prologue]

end Block

namespace Heap

/-- Walks over the physical blocks.  Every block it passes lies in the memory, so that a walk has
fewer steps than the memory has bytes, the header word of the epilogue included. -/
def surveyBlocks (h : Heap) : Except Fault Findings :=
  Block.survey h.memory h.prologue (h.memory.size + 9) h.prologue none

/-- Walks over the free lists, in the order of the classes. -/
def surveyLists (h : Heap) : Except Fault Findings := do
  let findings ← (List.finRange SizeClass.count).mapM (Link.surveyClass h.memory h.lists)
  return .concat findings

/-- The listing of a check that visited the given blocks. -/
def listing (h : Heap) (visited : List Nat) : Except Fault (List String) := do
  let lines ← visited.mapM (Block.describe h.memory)
  return ("Heap (" ++ Text.hex h.prologue ++ "):") :: lines

/-- Looks at every block and every free list and reports each broken invariant, with a listing of
what was visited if that is asked for. -/
def inspect (h : Heap) (verbose : Bool) : Except Fault Inspection := do
  let prologue ← Block.inspectPrologue h.memory h.prologue
  let arena ← h.surveyBlocks
  let lists ← h.surveyLists
  let blocks ← Checked.count arena.blocks
  let arenaFree ← Checked.count arena.free
  let listFree ← Checked.count lists.free
  let mismatch := if arenaFree = listFree then [] else [.freeCountMismatch arenaFree listFree]
  let report : Report :=
    { violations := prologue ++ arena.violations ++ lists.violations ++ mismatch
      blocks
      arenaFree
      listFree }
  let listing ← if verbose then h.listing (arena.visited ++ lists.visited) else pure []
  return ⟨report, listing⟩

/-- Inspects the heap and reports what was found as events. -/
def check (h : Heap) (verbose : Bool) : Traced Inspection := do
  let inspection ← h.inspect verbose
  Traced.emitAll inspection.report.events
  return inspection

end Heap

end BlockHeap
