import NewApi.Lib.GoStrings
import NewApi.TaskRows.Patches

/-!
# The writers of a task row

Every function that writes one row of `tasks`, on the row it has locked or
that its statement matches: the row afterwards, or `none` if nothing is
written.

A task object enters as what it and its baseline read as.
-/

namespace NewApi.TaskRows

open NewApi.Tasks GoStrings

variable {Snapshot : Type} [DecidableEq Snapshot]

def TaskRow.setColumn (row : TaskRow Snapshot) (column : TaskColumn)
    (value : column.Value) : TaskRow Snapshot :=
  { row with column := Function.update row.column column value }

/-- The columns that are named, of one struct, and the others of another. -/
def overlayColumns (names : List TaskColumn) (source target : TaskColumns) :
    TaskColumns :=
  fun column => if column ∈ names then source column else target column

/-- The private fields that are named, of one struct, and the others of
another. -/
def overlayFields (names : List PrivateField)
    (source target : TaskPrivateData Snapshot) : TaskPrivateData Snapshot :=
  fun field => if field ∈ names then source field else target field

def TaskRow.store (row : TaskRow Snapshot) (contents : TaskContents Snapshot)
    (updatedAt : Int) : TaskRow Snapshot :=
  { row with
    column := contents.column
    privateData := fun field => field.kind.stored (contents.privateData field)
    updatedAt }

def taskPlatformImage : String := "image"

def TaskContents.isRunnable (task : TaskContents Snapshot) : Bool :=
  (task.column .status ≠ .failure ∧ task.column .status ≠ .success) ∨
    (task.column .status = .success ∧
      task.column .settlementStatus ∈ [TaskSettlementStatus.pending, .applied, .review])

def TaskContents.isDue (task : TaskContents Snapshot) (now : Int) : Bool :=
  task.column .nextPollAt ≤ now ∧ task.column .lockUntil ≤ now

omit [DecidableEq Snapshot] in
theorem guarded_eq_some {refused granted : Prop} [Decidable refused] [Decidable granted]
    {written next : TaskRow Snapshot} :
    (if refused then none else if granted then some written else none) = some next ↔
      ¬ refused ∧ granted ∧ written = next := by
  rw [Option.ite_none_left_eq_some, Option.ite_none_right_eq_some, Option.some.injEq]

def claimTaskLease (owner : String) (now leaseSeconds : Int)
    (row : TaskRow Snapshot) : Option (TaskRow Snapshot) :=
  if owner = "" ∨ leaseSeconds ≤ 0 then none
  else if row.isRunnable = true ∧ row.isDue now = true ∧
      row.column .platform = taskPlatformImage then
    some { (row.setColumn .lockOwner owner).setColumn .lockUntil
        (now + leaseSeconds) with updatedAt := now }
  else none

def releaseTaskLease (owner : String) (nextPollAt retryCount clock : Int)
    (row : TaskRow Snapshot) : Option (TaskRow Snapshot) :=
  if owner = "" then none
  else if row.column .lockOwner = owner then
    some { (((row.setColumn .lockOwner "").setColumn .lockUntil 0).setColumn
        .nextPollAt nextPollAt).setColumn .retryCount (max retryCount 0) with
      updatedAt := clock }
  else none

def renewTaskLease (owner : String) (now leaseSeconds : Int)
    (row : TaskRow Snapshot) : Option (TaskRow Snapshot) :=
  if owner = "" ∨ leaseSeconds ≤ 0 then none
  else if row.isRunnable = true ∧ row.column .lockOwner = owner ∧
      row.column .platform = taskPlatformImage ∧
      now < row.column .lockUntil then
    some { row.setColumn .lockUntil (now + leaseSeconds) with updatedAt := now }
  else none

/-- The row is locked by the owner, or by nobody if there is none. -/
def TaskContents.isHeldBy (task : TaskContents Snapshot) (owner : String) (now : Int) : Bool :=
  if owner ≠ "" then task.column .lockOwner = owner ∧ now < task.column .lockUntil
  else task.column .lockOwner = "" ∧ task.column .lockUntil = 0

def markImageTaskSyncSubmissionStarted (owner : String)
    (now startedAt clock : Int) (row : TaskRow Snapshot) :
    Option (TaskRow Snapshot) :=
  let now := if now ≤ 0 then clock else now
  let owner := trimSpace owner
  if startedAt ≤ 0 then none
  else if row.column .platform = taskPlatformImage ∧
      row.column .status = .inProgress ∧
      row.column .syncSubmissionStartedAt = 0 ∧
      row.isHeldBy owner now = true then
    some { row.setColumn .syncSubmissionStartedAt startedAt with updatedAt := now }
  else none

def updateTaskPrivateData (mutate : TaskPrivateData Snapshot → Option (TaskPrivateData Snapshot))
    (clock : Int) (row : TaskRow Snapshot) : Option (TaskRow Snapshot) :=
  (mutate row.privateData).map fun privateData =>
    row.store ⟨row.column, privateData⟩ (nextTaskUpdatedAt row.updatedAt clock)

structure TaskView (Snapshot : Type) where
  contents : TaskContents Snapshot
  base : Option (TaskContents Snapshot)
  updatedAt : Int

inductive BaselineAfter where
  /-- The object has been loaded again, with a baseline of its own. -/
  | reloaded
  /-- The baseline is the row that was read before the write. -/
  | before
  /-- The baseline is what it was. -/
  | kept
deriving DecidableEq

structure Written (Snapshot : Type) where
  row : TaskRow Snapshot
  contents : TaskContents Snapshot
  updatedAt : Int
  baseline : BaselineAfter

def Written.ofReload (row : TaskRow Snapshot) : Written Snapshot where
  row
  contents := row.toTaskContents
  updatedAt := row.updatedAt
  baseline := .reloaded

namespace TaskView

/-- `Update`; `stamp` is what is stored for the `UpdatedAt` of a struct, given
its value and the current time. -/
def update (stamp : Int → Int → Int) (task : TaskView Snapshot) (clock : Int)
    (row : TaskRow Snapshot) : Option (Written Snapshot) :=
  if 0 < task.updatedAt ∧ row.updatedAt ≠ task.updatedAt then none
  else
    let updatedAt := nextTaskUpdatedAt task.updatedAt clock
    some {
      row := row.store task.contents (stamp updatedAt clock)
      contents := task.contents
      updatedAt
      baseline := .kept }

/-- `UpdateWithStatus` for an empty `lockOwner`, and
`UpdateWithStatusAndLease`. -/
def updateWithStatusAndLease (task : TaskView Snapshot)
    (fromStatus : TaskStatus) (lockOwner : String) (now clock : Int)
    (row : TaskRow Snapshot) : Option (Written Snapshot) :=
  (updateWithStatusFrom task.base task.contents task.updatedAt fromStatus
    lockOwner now (lockOwner ≠ "") clock row).map Written.ofReload

def updateWithStatusIfUnlocked (task : TaskView Snapshot)
    (fromStatus : TaskStatus) (now clock : Int) (row : TaskRow Snapshot) :
    Option (Written Snapshot) :=
  if row.column .status ≠ fromStatus ∨
      (trimSpace (row.column .lockOwner) ≠ "" ∧ now < row.column .lockUntil) then
    none
  else
    let (updates, applyPatch) := buildTaskUpdatePatch task.base row.toTaskContents task.contents
    if applyPatch = false then some (.ofReload row)
    else if row.column .lockOwner = "" ∨ row.column .lockUntil ≤ now then
      some (.ofReload (row.updates updates (nextTaskUpdatedAt row.updatedAt clock)))
    else none

end TaskView

def imageTaskCanCancelBeforeExecution (task : TaskContents Snapshot) (now : Int) : Bool :=
  if (trimSpace (task.column .lockOwner) ≠ "" ∧ now < task.column .lockUntil) ∨
      trimSpace (task.privateData .upstreamTaskID) ≠ "" ∨
      0 < task.privateData .upstreamSubmitUncertainAt ∨
      0 < task.privateData .upstreamSubmitUncertainCount ∨
      0 < task.column .syncSubmissionStartedAt then
    false
  else task.column .status = .notStart ∨ task.column .status = .queued

def applyImageTaskCancelBeforeExecution (task : TaskView Snapshot)
    (fromStatus : TaskStatus) (now clock : Int) (row : TaskRow Snapshot) :
    Option (Written Snapshot) :=
  if fromStatus ≠ .notStart ∧ fromStatus ≠ .queued then none
  else if row.column .status ≠ fromStatus ∨
      imageTaskCanCancelBeforeExecution row.toTaskContents now = false then
    none
  else
    let (updates, applyPatch) := buildTaskUpdatePatch task.base row.toTaskContents task.contents
    if applyPatch = false then none
    else if row.column .lockOwner = "" ∨ row.column .lockUntil ≤ now then
      some (.ofReload (row.updates updates (nextTaskUpdatedAt row.updatedAt clock)))
    else none

def ledgerFields : List PrivateField :=
  [.billingAdjustmentKey, .billingAdjustmentUnresolved,
    .billingAdjustmentRollback, .billingAdjustmentActual,
    .billingAdjustmentReservation, .billingAdjustmentExtra]

def noLedgerIdentity (source : TaskPrivateData Snapshot) : Bool :=
  source .billingAdjustmentKey = "" ∧
    source .billingAdjustmentUnresolved = false ∧
    source .billingAdjustmentRollback = false ∧
    source .billingAdjustmentActual = 0 ∧
    source .billingAdjustmentReservation = 0 ∧
    source .billingAdjustmentExtra = 0

def overlayBillingAdjustmentPrivateData
    (target source : TaskPrivateData Snapshot) : TaskPrivateData Snapshot :=
  if noLedgerIdentity source = true then target
  else overlayFields ledgerFields source target

def settlementColumns : List TaskColumn :=
  [.quota, .failReason, .settlementStatus, .refundPending, .executionSecretsCleanedAt, .nextPollAt]

def settlementFields : List PrivateField := [.settlementAttemptQuota, .settlementError]

/-- The columns of an object that differ from its baseline, and the others of
the row. -/
def changedColumns (base : Option (TaskContents Snapshot))
    (task current : TaskContents Snapshot) : TaskColumns :=
  match base with
  | none => task.column
  | some base => fun column =>
    if task.column column ≠ base.column column then task.column column
    else current.column column

def changedFields (base : Option (TaskContents Snapshot))
    (task current : TaskContents Snapshot) : TaskPrivateData Snapshot :=
  match base with
  | none => task.privateData
  | some base => fun field =>
    if task.privateData field ≠ base.privateData field then task.privateData field
    else current.privateData field

namespace TaskView

/-- `updateTaskSettlementFields`, which `UpdateQuota` and
`UpdateSubmitSettlementError` call. -/
def updateTaskSettlementFields (task : TaskView Snapshot) (clock : Int)
    (row : TaskRow Snapshot) : Written Snapshot :=
  let columns := overlayColumns settlementColumns
    (changedColumns task.base task.contents row.toTaskContents) row.column
  let privateData := overlayBillingAdjustmentPrivateData
    (overlayFields settlementFields
      (changedFields task.base task.contents row.toTaskContents)
      row.privateData) task.contents.privateData
  let updatedAt := nextTaskUpdatedAt row.updatedAt clock
  { row := row.store ⟨columns, privateData⟩ updatedAt
    contents :=
      { column := overlayColumns settlementColumns columns task.contents.column
        privateData }
    updatedAt
    baseline := .kept }

def accountingFailureColumns : List TaskColumn :=
  [.quota, .status, .progress, .finishTime, .failReason, .settlementStatus, .refundPending]

def accountingFailureFields : List PrivateField :=
  [.settlementAttemptQuota, .settlementError, .preConsumedUsageCaptured, .preConsumedUsageRecorded]

def updateTaskAfterSubmitAccountingFailure (task : TaskView Snapshot)
    (clock : Int) (row : TaskRow Snapshot) : Written Snapshot :=
  let contents : TaskContents Snapshot :=
    { column := overlayColumns accountingFailureColumns task.contents.column
        row.column
      privateData := overlayBillingAdjustmentPrivateData
        (overlayFields accountingFailureFields task.contents.privateData
          row.privateData) task.contents.privateData }
  let updatedAt := nextTaskUpdatedAt row.updatedAt clock
  { row := row.store contents updatedAt
    contents
    updatedAt
    baseline := .before }

def forceTaskRefundableAfterSubmitAccountingFailure (task : TaskView Snapshot)
    (clock : Int) (row : TaskRow Snapshot) : Written Snapshot :=
  let updatedAt := nextTaskUpdatedAt task.updatedAt clock
  { row := row.store
      { column := overlayColumns accountingFailureColumns task.contents.column
          row.column
        privateData := task.contents.privateData } updatedAt
    contents := task.contents
    updatedAt
    baseline := .kept }

def resultFields : List PrivateField :=
  [.resultBodyPath, .resultBodySize, .resultBodySHA256, .resultContentType,
    .resultStoredAt, .resultExpiresAt, .resultURL]

def requestBodyFields : List PrivateField :=
  [.requestBodyPath, .requestBodyBase64, .requestBodyPortable, .requestBodyShared, .requestBodySize]

def expiresEarlier (current task : Int) : Bool := current = 0 ∨ (0 < task ∧ task < current)

/-- The earlier of two times of expiry, where zero is none. -/
def earlierExpiry (current task : Int) : Int :=
  if expiresEarlier current task = true then task else current

def requestFinalized (task : TaskView Snapshot) (row : TaskRow Snapshot) :
    Bool :=
  row.column .requestCleanupPending = true ∨
    (trimSpace (task.contents.privateData .requestBodyPath) ≠ "" ∧
      trimSpace (row.privateData .requestBodyPath) = "")

def settledPrivateData (task : TaskView Snapshot) (row : TaskRow Snapshot) :
    TaskPrivateData Snapshot :=
  let privateData := match task.base with
    | none => task.contents.privateData
    | some base => mergeTaskPrivateData row.privateData base.privateData task.contents.privateData
  let privateData := overlayFields resultFields row.privateData privateData
  let privateData := if row.column .resultCleanedAt = 0 then
      Function.update privateData .resultExpiresAt
        (earlierExpiry (privateData .resultExpiresAt) (task.contents.privateData .resultExpiresAt))
    else privateData
  if requestFinalized task row = true then
    overlayFields requestBodyFields row.privateData privateData
  else privateData

def settledColumns : List TaskColumn :=
  [.settlementStatus, .failReason, .nextPollAt, .lockOwner, .lockUntil,
    .retryCount, .executionSecretsCleanedAt]

def settledFromRow : List TaskColumn :=
  [.resultAcknowledgedAt, .resultDeleteAfter, .resultCleanedAt,
    .resultCleanupPending, .imageTaskResultStored, .data]

def settledRequestColumns (task : TaskView Snapshot) (row : TaskRow Snapshot) :
    TaskColumns :=
  let columns := if requestFinalized task row = true then row.column
    else overlayColumns [.requestCleanupPending, .requestDeleteAfter]
      task.contents.column row.column
  if row.column .resultCleanedAt = 0 then
    Function.update columns .resultExpiresAt
      (earlierExpiry (row.column .resultExpiresAt) (task.contents.column .resultExpiresAt))
  else columns

def updateSettlementStatus (task : TaskView Snapshot) (fromStatus : TaskStatus)
    (fromSettlementStatus : TaskSettlementStatus) (clock : Int)
    (row : TaskRow Snapshot) : Option (Written Snapshot) :=
  if row.column .status ≠ fromStatus ∨ row.column .settlementStatus ≠ fromSettlementStatus then none
  else
    let privateData := settledPrivateData task row
    let requests := settledRequestColumns task row
    some {
      row := row.store
        { column := overlayColumns settledColumns task.contents.column requests
          privateData } clock
      contents :=
        { column := overlayColumns settledFromRow row.column
            (overlayColumns
              [.requestCleanupPending, .requestDeleteAfter, .resultExpiresAt]
              requests task.contents.column)
          privateData }
      updatedAt := clock
      baseline := .kept }

end TaskView

end NewApi.TaskRows
