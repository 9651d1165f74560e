import BlockHeap.Event

/-!
# What a run prints

Two parties write to standard output.  A run prints lines of its own, and what is logged on the way
goes to a subscriber, which prints a line for some of it and drops the rest.  What it shows, and in
which form, is a matter of its settings and of the time of day.  So the subscriber is a parameter,
and an outcome has the entries of either kind in their order.
-/

namespace BlockHeap

namespace CommandLine

/-- What is logged: an event of a heap or a replay, or one of the run itself. -/
inductive Record where
  | event (event : Event)
  | loaded (path : String) (ops : Nat)
  | failed (path : String) (chain : List String)
  deriving DecidableEq, Repr

namespace Record

def level : Record → String
  | event source => source.level
  | loaded .. => "INFO"
  | failed .. => "ERROR"

def message : Record → String
  | event source => source.message
  | loaded .. => "loaded trace"
  | failed _ chain => ": ".intercalate chain

def fields : Record → List (String × String)
  | event source => source.fields
  | loaded path ops => [("path", path), ("ops", toString ops)]
  | failed path _ => [("path", path)]

/-- One line of text: the level, the message and the values. -/
def text (record : Record) : String := logLine record.level record.message record.fields

end Record

/-- The line that a subscriber prints for a record, if it shows that. -/
abbrev Subscriber := Record → Option String

namespace Subscriber

/-- Shows nothing. -/
def silent : Subscriber := fun _ => none

/-- Shows errors, as it is done where nothing else is asked for, but without the time. -/
def errors : Subscriber := fun record => if record.level = "ERROR" then some record.text else none

end Subscriber

/-- What is put on standard output.  A line of the run itself may span several if the name of a file
does. -/
inductive Entry where
  | line (text : String)
  | record (record : Record)
  deriving DecidableEq, Repr

namespace Entry

/-- What an entry shows with a subscriber for the records. -/
def text (subscriber : Subscriber) : Entry → Option String
  | line content => some content
  | record logged => subscriber logged

/-- The entries for the events of a heap. -/
def ofEvents (events : List Event) : List Entry := events.map fun event => record (.event event)

end Entry

/-- What a run leaves behind. -/
structure Outcome where
  exit : Nat
  stdout : List Entry
  stderr : List String
  deriving DecidableEq, Repr

namespace Outcome

/-- The text of lines. -/
def printed (lines : List String) : String := String.join (lines.map (· ++ "\n"))

/-- The lines on standard output, with those of a subscriber. -/
def shown (outcome : Outcome) (subscriber : Subscriber) : List String :=
  outcome.stdout.filterMap (Entry.text subscriber)

/-- The text on standard output, where nothing is shown of the log unless a subscriber does. -/
def output (outcome : Outcome) (subscriber : Subscriber := .silent) : String :=
  printed (outcome.shown subscriber)

/-- The text on standard error. -/
def errorOutput (outcome : Outcome) : String := printed outcome.stderr

end Outcome

end CommandLine

end BlockHeap
