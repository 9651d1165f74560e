import BlockHeap.Block

/-!
# Configuration

Three numbers tune a heap.  `Config.validate` accepts them exactly if a heap of one chunk fits
under the limit.
-/

namespace BlockHeap

/-- The tuning of a heap: the least number of bytes asked of the arena when no free block fits, how
many sufficient blocks of a class the search compares, and the most bytes the arena may have if the
heap makes its own. -/
structure Config where
  chunkSize : Nat := 264
  fitWindow : Nat := 10
  maxHeap : Nat := 20 * 1024 * 1024
  deriving DecidableEq, Repr

/-- Why a configuration is refused: a chunk could not hold one block, the search would not look at
any block, or one chunk and the sentinels exceed the limit. -/
inductive ConfigError where
  | chunkTooSmall (chunkSize minSize : Nat)
  | emptyFitWindow
  | heapTooSmall (maxHeap chunkSize : Nat)
  deriving DecidableEq, Repr

namespace ConfigError

/-- The text of the error. -/
def message : ConfigError → String
  | chunkTooSmall chunkSize minSize =>
    s!"chunk size {chunkSize} is below the minimum block size {minSize}"
  | emptyFitWindow => "fit window must examine at least one candidate"
  | heapTooSmall maxHeap chunkSize =>
    s!"heap limit {maxHeap} cannot hold the sentinels and one {chunkSize}-byte chunk"

end ConfigError

namespace Config

/-- Bytes of the padding word, the prologue and the epilogue header together. -/
def sentinelBytes : Nat := Memory.wordSize + Block.prologueSize + Memory.wordSize

/-- The bytes a heap of one chunk takes, if that is a machine number. -/
def leastHeap? (config : Config) : Option Nat := do
  let chunk ← alignUp? config.chunkSize
  if chunk + sentinelBytes < Checked.bound then some (chunk + sentinelBytes) else none

/-- Whether a heap of one chunk fits under the limit. -/
def fits (config : Config) : Bool :=
  match config.leastHeap? with
  | some needed => decide (needed ≤ config.maxHeap)
  | none => false

/-- Accepts a configuration or says what is wrong with it first. -/
def validate (config : Config) : Except ConfigError Unit :=
  if config.chunkSize < Block.minSize then
    .error (.chunkTooSmall config.chunkSize Block.minSize)
  else if config.fitWindow = 0 then
    .error .emptyFitWindow
  else if config.fits then
    .ok ()
  else
    .error (.heapTooSmall config.maxHeap config.chunkSize)

/-- The chunk size rounded up to the quantum. -/
def alignedChunk (config : Config) : Except Fault Nat :=
  alignUp config.chunkSize

end Config

end BlockHeap
