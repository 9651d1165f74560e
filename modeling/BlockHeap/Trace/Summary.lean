import BlockHeap.Text.FixedPoint

/-!
# Summaries

A summary says what a replay came to: how many operations ran, the most payload bytes that were
asked for at one time, and how large the arena became.
-/

namespace BlockHeap

/-- What a replay came to: how many operations ran, the highest sum of requested bytes live at one
time, and the arena size at the end. -/
structure Summary where
  ops : Nat
  peakPayload : Nat
  arenaBytes : Nat
  deriving DecidableEq, Repr

namespace Summary

/-- The peak payload as a share of the arena, in double precision; zero for an empty arena. -/
def utilization (summary : Summary) : Float :=
  if summary.arenaBytes = 0 then 0.0
  else summary.peakPayload.toUInt64.toFloat / summary.arenaBytes.toUInt64.toFloat

/-- One line of text, with the utilization as a percentage of one decimal place. -/
def text (summary : Summary) : String :=
  s!"{summary.ops} ops, peak payload {summary.peakPayload} B, arena {summary.arenaBytes} B, "
    ++ "utilization " ++ Text.fixedPoint 1 (summary.utilization * 100.0) ++ "%"

end Summary

end BlockHeap
