import BlockHeap.FreeLists

/-!
# Cycles of links

`hasCycle` sends two walkers along the `next` links of a list, one of them twice as fast.  If the
list ends, the fast one comes to the end; if it leads back into itself, the two meet.  Links are
read from any memory whatever: one that lies outside it counts as an end.
-/

namespace BlockHeap

namespace Link

/-- The link in the word at `pos`, no block if there is no such word. -/
def at? (m : Memory) (pos : Nat) : Option Nat :=
  (m.word? pos).bind decode

/-- Moves the two walkers until one comes to an end or they meet. -/
def chase (m : Memory) : (fuel : Nat) → (slow fast : Option Nat) → Except Fault Bool
  | 0, _, _ => throw .endless
  | fuel + 1, some slow, some fast =>
    match at? m fast with
    | none => return false
    | some halfway =>
      let slow := at? m slow
      let fast := at? m halfway
      if slow.isSome ∧ slow = fast then return true
      else chase m fuel slow fast
  | _, _, _ => return false

/-- Whether the list with the given head never ends.  The walkers meet before the slow one has
made a step for every byte of the memory. -/
def hasCycle (m : Memory) (head : Option Nat) : Except Fault Bool :=
  chase m (m.size + 2) head head

end Link

end BlockHeap
