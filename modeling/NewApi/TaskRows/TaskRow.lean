import NewApi.Lib.GoMaps
import NewApi.Tasks.TaskStatuses

/-!
# Whole task rows

All columns of a task that its writers patch, and all fields of its
`private_data`.  Both are written field by field, so a row is a function on
the columns and one on the fields.

The snapshots behind the pointers of `TaskPrivateData` are compared as wholes;
their types are one parameter.
-/

namespace NewApi.TaskRows

open NewApi.Tasks

structure Properties where
  input : String := ""
  upstreamModelName : String := ""
  originModelName : String := ""
deriving DecidableEq

/-- The columns of `Task` that a patch may write, besides `private_data`. -/
inductive TaskColumn where
  | taskID
  | platform
  | userId
  | clientTaskID
  | group
  | channelId
  | quota
  | action
  | status
  | failReason
  | submitTime
  | startTime
  | finishTime
  | progress
  | nextPollAt
  | lockUntil
  | lockOwner
  | storageNode
  | retryCount
  | settlementStatus
  | resultExpiresAt
  | resultAcknowledgedAt
  | resultDeleteAfter
  | resultCleanedAt
  | resultCleanupPending
  | requestCleanupPending
  | requestDeleteAfter
  | refundPending
  | executionSecretsCleanedAt
  | syncSubmissionStartedAt
  | publicImageTask
  | publicImageTaskTokenID
  | imageTaskCancelledAt
  | imageTaskResultStored
  | imageTaskResultStoredAt
  | properties
  | data
deriving DecidableEq

def TaskColumn.all : List TaskColumn :=
  [.taskID, .platform, .userId, .clientTaskID, .group, .channelId, .quota,
    .action, .status, .failReason, .submitTime, .startTime, .finishTime,
    .progress, .nextPollAt, .lockUntil, .lockOwner, .storageNode, .retryCount,
    .settlementStatus, .resultExpiresAt, .resultAcknowledgedAt,
    .resultDeleteAfter, .resultCleanedAt, .resultCleanupPending,
    .requestCleanupPending, .requestDeleteAfter, .refundPending,
    .executionSecretsCleanedAt, .syncSubmissionStartedAt, .publicImageTask,
    .publicImageTaskTokenID, .imageTaskCancelledAt, .imageTaskResultStored,
    .imageTaskResultStoredAt, .properties, .data]

theorem TaskColumn.mem_all (column : TaskColumn) : column ∈ all := by
  cases column <;> decide

inductive ColumnKind where
  | text
  | int
  | bool
  | status
  | settlementStatus
  | properties

@[reducible]
def ColumnKind.Value : ColumnKind → Type
  | .text => String
  | .int => Int
  | .bool => Bool
  | .status => TaskStatus
  | .settlementStatus => TaskSettlementStatus
  | .properties => Properties

@[reducible]
def TaskColumn.kind : TaskColumn → ColumnKind
  | .taskID => .text
  | .platform => .text
  | .userId => .int
  | .clientTaskID => .text
  | .group => .text
  | .channelId => .int
  | .quota => .int
  | .action => .text
  | .status => .status
  | .failReason => .text
  | .submitTime => .int
  | .startTime => .int
  | .finishTime => .int
  | .progress => .text
  | .nextPollAt => .int
  | .lockUntil => .int
  | .lockOwner => .text
  | .storageNode => .text
  | .retryCount => .int
  | .settlementStatus => .settlementStatus
  | .resultExpiresAt => .int
  | .resultAcknowledgedAt => .int
  | .resultDeleteAfter => .int
  | .resultCleanedAt => .int
  | .resultCleanupPending => .bool
  | .requestCleanupPending => .bool
  | .requestDeleteAfter => .int
  | .refundPending => .bool
  | .executionSecretsCleanedAt => .int
  | .syncSubmissionStartedAt => .int
  | .publicImageTask => .bool
  | .publicImageTaskTokenID => .int
  | .imageTaskCancelledAt => .int
  | .imageTaskResultStored => .bool
  | .imageTaskResultStoredAt => .int
  | .properties => .properties
  | .data => .text

abbrev TaskColumn.Value (column : TaskColumn) : Type := column.kind.Value

instance (kind : ColumnKind) : DecidableEq kind.Value :=
  match kind with
  | .text => inferInstanceAs (DecidableEq String)
  | .int => inferInstanceAs (DecidableEq Int)
  | .bool => inferInstanceAs (DecidableEq Bool)
  | .status => inferInstanceAs (DecidableEq TaskStatus)
  | .settlementStatus => inferInstanceAs (DecidableEq TaskSettlementStatus)
  | .properties => inferInstanceAs (DecidableEq Properties)

structure TaskArtifactStorageRef where
  backend : String
  bucket : String
  objectKey : String
  type : String := ""
  mimeType : String := ""
  size : Int := 0
deriving DecidableEq

inductive PrivateField where
  | publicImageTask
  | imageTaskMode
  | requestPath
  | requestMethod
  | requestContentType
  | requestHeaders
  | requestBodyPath
  | requestBodyBase64
  | requestBodyPortable
  | requestBodyShared
  | requestBodySize
  | requestFingerprint
  | resultBodyPath
  | resultBodySize
  | resultBodySHA256
  | resultContentType
  | resultStoredAt
  | resultExpiresAt
  | key
  | upstreamTaskID
  | upstreamSubmitUncertainAt
  | upstreamSubmitUncertainCount
  | resultURL
  | resultDiscarded
  | resultProxyHosts
  | execution
  | pluginState
  | artifactRefs
  | responsesBackground
  | billingSource
  | subscriptionId
  | subscriptionConsumedAt
  | tokenId
  | nodeName
  | billingContext
  | preConsumedUsageRecorded
  | preConsumedUsageCaptured
  | tieredBillingSnapshot
  | billingRequestInput
  | billingRequestInputCaptured
  | settlementUsage
  | settlementExtraContent
  | settlementEvidenceCapturedAt
  | settlementAttemptQuota
  | settlementError
  | billingAdjustmentKey
  | billingAdjustmentUnresolved
  | billingAdjustmentRollback
  | billingAdjustmentActual
  | billingAdjustmentReservation
  | billingAdjustmentExtra
  | cancelledAt
  | cancelledReason
  | pollFailures
deriving DecidableEq

def PrivateField.all : List PrivateField :=
  [.publicImageTask, .imageTaskMode, .requestPath, .requestMethod,
    .requestContentType, .requestHeaders, .requestBodyPath, .requestBodyBase64,
    .requestBodyPortable, .requestBodyShared, .requestBodySize,
    .requestFingerprint, .resultBodyPath, .resultBodySize, .resultBodySHA256,
    .resultContentType, .resultStoredAt, .resultExpiresAt, .key,
    .upstreamTaskID, .upstreamSubmitUncertainAt, .upstreamSubmitUncertainCount,
    .resultURL, .resultDiscarded, .resultProxyHosts, .execution, .pluginState,
    .artifactRefs, .responsesBackground, .billingSource, .subscriptionId,
    .subscriptionConsumedAt, .tokenId, .nodeName, .billingContext,
    .preConsumedUsageRecorded, .preConsumedUsageCaptured,
    .tieredBillingSnapshot, .billingRequestInput, .billingRequestInputCaptured,
    .settlementUsage, .settlementExtraContent, .settlementEvidenceCapturedAt,
    .settlementAttemptQuota, .settlementError, .billingAdjustmentKey,
    .billingAdjustmentUnresolved, .billingAdjustmentRollback,
    .billingAdjustmentActual, .billingAdjustmentReservation,
    .billingAdjustmentExtra, .cancelledAt, .cancelledReason, .pollFailures]

theorem PrivateField.mem_all (field : PrivateField) : field ∈ all := by
  cases field <;> decide

/-- A `json.RawMessage`, byte by byte. -/
abbrev RawMessage := List UInt8

inductive FieldKind where
  | text
  | int
  | bool
  | raw
  | slice
  /-- `map[string]string` -/
  | headers
  /-- `map[string]TaskArtifactStorageRef` -/
  | artifacts
  | pointer
deriving DecidableEq

@[reducible]
def FieldKind.Value (Snapshot : Type) : FieldKind → Type
  | .text => String
  | .int => Int
  | .bool => Bool
  | .raw => Option RawMessage
  | .slice => Option (List String)
  | .headers => Option (GoMap String String)
  | .artifacts => Option (GoMap String TaskArtifactStorageRef)
  | .pointer => Option Snapshot

@[reducible]
def PrivateField.kind : PrivateField → FieldKind
  | .publicImageTask => .bool
  | .imageTaskMode => .text
  | .requestPath => .text
  | .requestMethod => .text
  | .requestContentType => .text
  | .requestHeaders => .headers
  | .requestBodyPath => .text
  | .requestBodyBase64 => .text
  | .requestBodyPortable => .bool
  | .requestBodyShared => .bool
  | .requestBodySize => .int
  | .requestFingerprint => .text
  | .resultBodyPath => .text
  | .resultBodySize => .int
  | .resultBodySHA256 => .text
  | .resultContentType => .text
  | .resultStoredAt => .int
  | .resultExpiresAt => .int
  | .key => .text
  | .upstreamTaskID => .text
  | .upstreamSubmitUncertainAt => .int
  | .upstreamSubmitUncertainCount => .int
  | .resultURL => .text
  | .resultDiscarded => .bool
  | .resultProxyHosts => .slice
  | .execution => .pointer
  | .pluginState => .raw
  | .artifactRefs => .artifacts
  | .responsesBackground => .bool
  | .billingSource => .text
  | .subscriptionId => .int
  | .subscriptionConsumedAt => .int
  | .tokenId => .int
  | .nodeName => .text
  | .billingContext => .pointer
  | .preConsumedUsageRecorded => .bool
  | .preConsumedUsageCaptured => .bool
  | .tieredBillingSnapshot => .pointer
  | .billingRequestInput => .pointer
  | .billingRequestInputCaptured => .bool
  | .settlementUsage => .pointer
  | .settlementExtraContent => .slice
  | .settlementEvidenceCapturedAt => .int
  | .settlementAttemptQuota => .int
  | .settlementError => .text
  | .billingAdjustmentKey => .text
  | .billingAdjustmentUnresolved => .bool
  | .billingAdjustmentRollback => .bool
  | .billingAdjustmentActual => .int
  | .billingAdjustmentReservation => .int
  | .billingAdjustmentExtra => .int
  | .cancelledAt => .int
  | .cancelledReason => .text
  | .pollFailures => .int

abbrev PrivateField.Value (Snapshot : Type) (field : PrivateField) : Type :=
  field.kind.Value Snapshot

section Values

variable {Snapshot : Type}

instance [DecidableEq Snapshot] (kind : FieldKind) :
    DecidableEq (kind.Value Snapshot) :=
  match kind with
  | .text => inferInstanceAs (DecidableEq String)
  | .int => inferInstanceAs (DecidableEq Int)
  | .bool => inferInstanceAs (DecidableEq Bool)
  | .raw => inferInstanceAs (DecidableEq (Option RawMessage))
  | .slice => inferInstanceAs (DecidableEq (Option (List String)))
  | .headers => inferInstanceAs (DecidableEq (Option (GoMap String String)))
  | .artifacts => inferInstanceAs (DecidableEq (Option (GoMap String TaskArtifactStorageRef)))
  | .pointer => inferInstanceAs (DecidableEq (Option Snapshot))

def FieldKind.zero : (kind : FieldKind) → kind.Value Snapshot
  | .text => ""
  | .int => 0
  | .bool => false
  | .raw => none
  | .slice => none
  | .headers => none
  | .artifacts => none
  | .pointer => none

/-- `omitempty` leaves the value out of the JSON. -/
def FieldKind.omits : (kind : FieldKind) → kind.Value Snapshot → Bool
  | .text, value => value = ""
  | .int, value => value = 0
  | .bool, value => !value
  | .raw, message => message.elim true (·.isEmpty)
  | .slice, items => items.elim true (·.isEmpty)
  | .headers, map => map.elim true (·.isEmpty)
  | .artifacts, map => map.elim true (·.isEmpty)
  | .pointer, pointee => pointee.isNone

def FieldKind.stored (kind : FieldKind) (value : kind.Value Snapshot) :
    kind.Value Snapshot :=
  if kind.omits value then kind.zero else value

@[simp]
theorem FieldKind.stored_zero (kind : FieldKind) :
    kind.stored (kind.zero : kind.Value Snapshot) = kind.zero := by
  unfold stored
  split <;> rfl

theorem FieldKind.stored_stored (kind : FieldKind) (value : kind.Value Snapshot) :
    kind.stored (kind.stored value) = kind.stored value := by
  cases omitted : kind.omits value with
  | true | false => simp [stored, omitted]

end Values

abbrev TaskPrivateData (Snapshot : Type) := (field : PrivateField) → field.Value Snapshot

abbrev TaskColumns := (column : TaskColumn) → column.Value

structure TaskContents (Snapshot : Type) where
  column : TaskColumns
  privateData : TaskPrivateData Snapshot

structure TaskRow (Snapshot : Type) extends TaskContents Snapshot where
  id : Int
  createdAt : Int
  updatedAt : Int

end NewApi.TaskRows
