import NewApi.Lib.GoStrings

/-!
# Statuses of asynchronous tasks
-/

namespace NewApi.Tasks

inductive TaskStatus where
  | notStart
  | submitted
  | queued
  | inProgress
  | failure
  | success
  | unknown
  deriving DecidableEq, Repr

/-- `tasks.settlement_status`; `unset` is the empty text. -/
inductive TaskSettlementStatus where
  | unset
  | pending
  | applied
  | settled
  | review
  deriving DecidableEq, Repr

/-- The stamp of a write: always later than the one it replaces. -/
def nextTaskUpdatedAt (previous now : Int) : Int := if now ≤ previous then previous + 1 else now

end NewApi.Tasks
