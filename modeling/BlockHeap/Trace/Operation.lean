import BlockHeap.Text.Record

/-!
# Trace operations

A trace asks for blocks and gives them back under numbers of its own choosing.
-/

namespace BlockHeap

/-- One request of a trace, about the block with the number `id`; zeroed allocation asks for `count`
times `size` bytes. -/
inductive Operation where
  | allocate (id size : Nat)
  | release (id : Nat)
  | resize (id size : Nat)
  | zeroedAllocate (id count size : Nat)
  deriving DecidableEq, Repr

namespace Operation

/-- The block the request is about. -/
def id : Operation → Nat
  | allocate id _ | release id | resize id _ | zeroedAllocate id _ _ => id

/-- The request written as a record. -/
def record : Operation → String
  | allocate id size => Text.record "Allocate" [("id", toString id), ("size", toString size)]
  | release id => Text.record "Release" [("id", toString id)]
  | resize id size => Text.record "Resize" [("id", toString id), ("size", toString size)]
  | zeroedAllocate id count size =>
    Text.record "ZeroedAllocate"
      [("id", toString id), ("count", toString count), ("size", toString size)]

end Operation

end BlockHeap
