import BlockHeap.Memory

/-!
# Arenas

An arena is a memory that grows only at the top, up to a limit.  It is backed in one of two ways.
An *owned* arena asks for room when it grows and is refused where it would not fit into the room
that there is, and in any case from `Arena.reservable` bytes on.  A *mapped* arena reserves its
whole limit when it is made, and afterwards only moves the end of the part in use; reserved bytes
are zero until then.  Whether so much can be reserved is up to the address space, which is known to
give no more than offsets can reach.

All offsets into a heap are offsets into its arena.
-/

namespace BlockHeap

/-- Where an arena has its bytes from.  An `owned` one asks for room at every growth, and there is
room for `room` bytes; a `mapped` one has reserved its whole limit at the start. -/
inductive Backing where
  | owned (room : Nat)
  | mapped
  deriving DecidableEq, Repr

/-- Why the reservation of a mapped arena was refused: nothing was asked for, or more than there can
be. -/
inductive MapFailure where
  | invalidArgument
  | outOfMemory
  deriving DecidableEq, Repr

/-- What can go wrong with an arena: it cannot grow by what was asked for, or it could not be made
at all. -/
inductive ArenaError where
  | exhausted (requested available : Nat)
  | map (cause : MapFailure)
  deriving DecidableEq, Repr

namespace MapFailure

/-- The operating system's text for the failure. -/
def message : MapFailure → String
  | invalidArgument => "Invalid argument (os error 22)"
  | outOfMemory => "Cannot allocate memory (os error 12)"

end MapFailure

namespace ArenaError

/-- The text of the error. -/
def message : ArenaError → String
  | exhausted requested available =>
    s!"arena exhausted: requested {requested} bytes, {available} available"
  | map cause => "failed to map arena memory: " ++ cause.message

end ArenaError

/-- No reservation reaches this many bytes, half the range of machine numbers. -/
def Arena.reservable : Nat := 0x8000000000000000

/-- What becomes of the wish to reserve so many bytes. -/
structure AddressSpace where
  reserve : Nat → Except MapFailure Unit
  lt_of_reserve : ∀ n, reserve n = .ok () → n < Arena.reservable

namespace AddressSpace

/-- So many bytes can be reserved. -/
def Grants (space : AddressSpace) (n : Nat) : Prop := space.reserve n = .ok ()

/-- The address space in which everything can be reserved but nothing and too much. -/
def usual : AddressSpace where
  reserve n :=
    if n = 0 then .error .invalidArgument
    else if n < Arena.reservable then .ok () else .error .outOfMemory
  lt_of_reserve n h := by
    split at h
    · cases h
    · split at h
      · assumption
      · cases h

end AddressSpace

/-- A memory that grows at the top, up to a limit; `memory` holds the bytes in use. -/
structure Arena where
  memory : Memory
  limit : Nat
  backing : Backing

namespace Arena

/-- The room that programs count on, 4 GiB.  Being refused is an error that they can handle, while
asking for more than a machine has is not. -/
def usualRoom : Nat := 0x100000000

/-- An empty arena that asks for room as it grows. -/
def owned (limit room : Nat) : Arena := ⟨.empty, limit, .owned room⟩

/-- An empty arena with its whole limit reserved, if the address space grants that. -/
def mapped (limit : Nat) (space : AddressSpace := .usual) : Except ArenaError Arena :=
  match space.reserve limit with
  | .error cause => .error (.map cause)
  | .ok () => .ok ⟨.empty, limit, .mapped⟩

/-- The number of bytes in use. -/
def size (arena : Arena) : Nat := arena.memory.size

/-- Whether room for `increment` more bytes is refused although the limit would allow it. -/
def refuses (arena : Arena) (increment : Nat) : Bool :=
  match arena.backing with
  | .owned room =>
    decide (reservable ≤ arena.size + increment) || decide (room < arena.size + increment)
  | .mapped => false

/-- Adds `increment` zero bytes at the top and answers with the old top.  An arena that cannot
grow by that much stays as it is. -/
def grow (arena : Arena) (increment : Nat) : Except Fault (Arena × Except ArenaError Nat) := do
  let top := arena.size
  let available ← Checked.sub arena.limit top
  if available < increment || arena.refuses increment then
    return (arena, .error (.exhausted increment available))
  else
    return ({ arena with memory := arena.memory.extend increment }, .ok top)

end Arena

end BlockHeap
