import BlockHeap.Arena
import BlockHeap.Check.Violation
import BlockHeap.Trace.Operation
import BlockHeap.Trace.Summary

/-!
# Events

Events are the log of a heap: each says what was just done, at one of four levels, as a message
and a list of named values.
-/

namespace BlockHeap

/-- Something a heap, a check or a replay reports while it works. -/
inductive Event where
  | grew (base size arena : Nat)
  | growthFailed (requested arena : Nat) (error : ArenaError)
  | coalesced (block start size merged : Nat) (prevFree nextFree : Bool)
  | reused (ptr size block : Nat)
  | allocatedByGrowth (ptr size block : Nat)
  | released (ptr block : Nat)
  | shrank (ptr oldSize newSize : Nat)
  | absorbed (ptr oldSize newSize : Nat)
  | moved (source target bytes : Nat)
  | violated (violation : Violation)
  | checked (blocks free violations : Nat)
  | replayStarted (ops : Nat) (checkEach : Bool)
  | replaying (line : Nat) (op : Operation)
  | replayFinished (summary : Summary)
  deriving DecidableEq, Repr

/-- A line of a log: a level, a message and named values. -/
def logLine (level message : String) (fields : List (String × String)) : String :=
  " ".intercalate (level :: message :: fields.map fun (name, value) => name ++ "=" ++ value)

namespace Event

/-- How much the event matters. -/
def level : Event → String
  | growthFailed .. => "WARN"
  | violated .. => "ERROR"
  | grew .. | checked .. | replayStarted .. | replayFinished .. => "DEBUG"
  | coalesced .. | reused .. | allocatedByGrowth .. | released .. | shrank .. | absorbed ..
  | moved .. | replaying .. => "TRACE"

/-- The message of the event. -/
def message : Event → String
  | grew .. => "grew arena"
  | growthFailed .. => "arena growth failed"
  | coalesced .. => "coalesce"
  | reused .. => "allocate: reused free block"
  | allocatedByGrowth .. => "allocate: grew arena"
  | released .. => "release"
  | shrank .. => "resize: shrank in place"
  | absorbed .. => "resize: absorbed next block"
  | moved .. => "resize: moved"
  | violated .. => "heap check"
  | checked .. => "heap check finished"
  | replayStarted .. => "replaying trace"
  | replaying .. => "replay"
  | replayFinished .. => "trace finished"

/-- The values of the event by name. -/
def fields : Event → List (String × String)
  | grew base size arena =>
    [("base", toString base), ("size", toString size), ("arena", toString arena)]
  | growthFailed requested arena error =>
    [("requested", toString requested), ("arena", toString arena), ("err", error.message)]
  | coalesced block start size merged prevFree nextFree =>
    [("bp", toString block), ("start", toString start), ("size", toString size),
      ("merged", toString merged), ("prev_free", toString prevFree),
      ("next_free", toString nextFree)]
  | reused ptr size block | allocatedByGrowth ptr size block =>
    [("ptr", toString ptr), ("size", toString size), ("block", toString block)]
  | released ptr block => [("ptr", toString ptr), ("block", toString block)]
  | shrank ptr oldSize newSize | absorbed ptr oldSize newSize =>
    [("ptr", toString ptr), ("from", toString oldSize), ("to", toString newSize)]
  | moved source target bytes =>
    [("from", toString source), ("to", toString target), ("bytes", toString bytes)]
  | violated violation => [("violation", violation.message)]
  | checked blocks free violations =>
    [("blocks", toString blocks), ("free", toString free), ("violations", toString violations)]
  | replayStarted ops checkEach =>
    [("ops", toString ops), ("check_each", toString checkEach)]
  | replaying line op => [("line", toString line), ("op", op.record)]
  | replayFinished summary => [("summary", summary.text)]

/-- One line of text: the level, the message and the values. -/
def text (event : Event) : String := logLine event.level event.message event.fields

end Event

end BlockHeap
