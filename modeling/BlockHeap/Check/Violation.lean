import BlockHeap.SizeClass
import BlockHeap.Text.Record

/-!
# Violations

A violation is one invariant of the heap found broken at one place.
-/

namespace BlockHeap

/-- A broken invariant.  Those of blocks come first: the sentinels are allocated blocks of their
sizes, and every block between them is aligned, inside the arena, large enough, tagged alike at both
ends and no free neighbour of a free one.  Those of free lists follow: the links of a class end,
stay in the arena, lead to free blocks of the class, and back.  In the end both walks have met as
many free blocks. -/
inductive Violation where
  | badPrologue (offset : Nat)
  | badEpilogue (offset : Nat)
  | misaligned (offset : Nat)
  | outOfBounds (offset : Nat)
  | tagMismatch (offset : Nat) (header footer : Tag)
  | undersized (offset size : Nat)
  | uncoalesced (offset next : Nat)
  | cycle (cls : SizeClass)
  | danglingLink (cls : SizeClass) (offset : Nat)
  | allocatedInList (cls : SizeClass) (offset : Nat)
  | wrongClass (offset size : Nat) (cls expected : SizeClass)
  | brokenLinks (offset : Nat)
  | freeCountMismatch (arena lists : Nat)
  deriving DecidableEq, Repr

namespace Violation

/-- The name of the kind of violation. -/
def name : Violation → String
  | badPrologue .. => "BadPrologue"
  | badEpilogue .. => "BadEpilogue"
  | misaligned .. => "Misaligned"
  | outOfBounds .. => "OutOfBounds"
  | tagMismatch .. => "TagMismatch"
  | undersized .. => "Undersized"
  | uncoalesced .. => "Uncoalesced"
  | cycle .. => "Cycle"
  | danglingLink .. => "DanglingLink"
  | allocatedInList .. => "AllocatedInList"
  | wrongClass .. => "WrongBucket"
  | brokenLinks .. => "BrokenLinks"
  | freeCountMismatch .. => "FreeCountMismatch"

/-- What is said about the violation. -/
def message : Violation → String
  | badPrologue offset => "bad prologue block at " ++ Text.hex offset
  | badEpilogue offset => "bad epilogue header at " ++ Text.hex offset
  | misaligned offset => "block " ++ Text.hex offset ++ " is not aligned"
  | outOfBounds offset => "block " ++ Text.hex offset ++ " is not in the arena"
  | tagMismatch offset header footer =>
    "block " ++ Text.hex offset ++ ": header " ++ header.text ++ " does not match footer "
      ++ footer.text
  | undersized offset size =>
    "block " ++ Text.hex offset ++ s!" of {size} bytes is below the minimum block size"
  | uncoalesced offset next =>
    "free blocks " ++ Text.hex offset ++ " and " ++ Text.hex next ++ " are not coalesced"
  | cycle cls => s!"bucket {cls.val} has a cycle"
  | danglingLink cls offset =>
    s!"bucket {cls.val} links to " ++ Text.hex offset ++ ", outside the arena"
  | allocatedInList cls offset =>
    "block " ++ Text.hex offset ++ s!" in bucket {cls.val} is not free"
  | wrongClass offset size cls expected =>
    "block " ++ Text.hex offset
      ++ s!" of {size} bytes is in bucket {cls.val}, expected bucket {expected.val}"
  | brokenLinks offset => "next/prev links of " ++ Text.hex offset ++ " are not consistent"
  | freeCountMismatch arena lists =>
    s!"{arena} free blocks in the arena but {lists} in the buckets"

/-- The data of the violation by name. -/
def fields : Violation → List (String × String)
  | badPrologue offset | badEpilogue offset | misaligned offset | outOfBounds offset
  | brokenLinks offset => [("offset", toString offset)]
  | tagMismatch offset header footer =>
    [("offset", toString offset), ("header", header.text), ("footer", footer.text)]
  | undersized offset size => [("offset", toString offset), ("size", toString size)]
  | uncoalesced offset next => [("offset", toString offset), ("next", toString next)]
  | cycle cls => [("class", toString cls.val)]
  | danglingLink cls offset | allocatedInList cls offset =>
    [("class", toString cls.val), ("offset", toString offset)]
  | wrongClass offset size cls expected =>
    [("offset", toString offset), ("size", toString size), ("class", toString cls.val),
      ("expected", toString expected.val)]
  | freeCountMismatch arena lists => [("arena", toString arena), ("lists", toString lists)]

/-- The violation written as a record. -/
def record (violation : Violation) : String :=
  Text.record violation.name violation.fields

end Violation

end BlockHeap
