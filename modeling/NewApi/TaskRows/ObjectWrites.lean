import NewApi.TaskRows.RowWriters

/-!
# What a write takes from the object

Each function that writes through a task object takes some columns and private
fields from the object and leaves the others of the row.  A field that is not
taken, or that has the value of the row already, is not changed.
-/

namespace NewApi.TaskRows

open NewApi.Tasks GoStrings TaskView TaskContents TaskUpdates

variable {Snapshot : Type} [DecidableEq Snapshot]

inductive TaskField where
  | column (name : TaskColumn)
  | privateData (name : PrivateField)
deriving DecidableEq

abbrev TaskField.Value (Snapshot : Type) : TaskField → Type
  | .column name => name.Value
  | .privateData name => name.Value Snapshot

def TaskContents.value (contents : TaskContents Snapshot) :
    (field : TaskField) → field.Value Snapshot
  | .column name => contents.column name
  | .privateData name => contents.privateData name

def TaskField.stored : (field : TaskField) → field.Value Snapshot →
    field.Value Snapshot
  | .column _, value => value
  | .privateData name, value => name.kind.stored value

omit [DecidableEq Snapshot] in
@[simp]
theorem value_store (row : TaskRow Snapshot) (contents : TaskContents Snapshot)
    (updatedAt : Int) (field : TaskField) :
    (row.store contents updatedAt).value field = field.stored (contents.value field) := by
  cases field <;> rfl

omit [DecidableEq Snapshot] in
theorem stored_store (row : TaskRow Snapshot) (contents : TaskContents Snapshot)
    (updatedAt : Int) : (row.store contents updatedAt).Stored :=
  fun field => field.kind.stored_stored _

/-! ## Writes through an object -/

inductive ObjectWrite where
  | update
  | updateWithStatus (fromStatus : TaskStatus) (lockOwner : String) (now : Int)
  | updateWithStatusIfUnlocked (fromStatus : TaskStatus) (now : Int)
  | updateSettlementStatus (fromStatus : TaskStatus) (fromSettlementStatus : TaskSettlementStatus)
  | updateSettlementFields
  | updateAfterAccountingFailure

def ObjectWrite.run (stamp : Int → Int → Int) (task : TaskView Snapshot)
    (clock : Int) (row : TaskRow Snapshot) :
    ObjectWrite → Option (Written Snapshot)
  | .update => task.update stamp clock row
  | .updateWithStatus fromStatus lockOwner now =>
    task.updateWithStatusAndLease fromStatus lockOwner now clock row
  | .updateWithStatusIfUnlocked fromStatus now =>
    task.updateWithStatusIfUnlocked fromStatus now clock row
  | .updateSettlementStatus fromStatus fromSettlementStatus =>
    task.updateSettlementStatus fromStatus fromSettlementStatus clock row
  | .updateSettlementFields => some (task.updateTaskSettlementFields clock row)
  | .updateAfterAccountingFailure => some (task.updateTaskAfterSubmitAccountingFailure clock row)

def ObjectWrite.patches : ObjectWrite → Bool
  | .updateWithStatus _ _ _ => true
  | .updateWithStatusIfUnlocked _ _ => true
  | _ => false

def TaskView.Differs (task : TaskView Snapshot) (field : TaskField) : Prop :=
  ∀ base ∈ task.base, task.contents.value field ≠ base.value field

/-- A guarded update to a status that is not terminal leaves the lease. -/
def keepsLease (lockOwner : String) (contents : TaskContents Snapshot) : Bool :=
  lockOwner ≠ "" ∧ contents.column .status ≠ .success ∧ contents.column .status ≠ .failure

def ObjectWrite.Carries (task : TaskView Snapshot) (row : TaskRow Snapshot) :
    ObjectWrite → TaskField → Prop
  | .update, _ => True
  | .updateWithStatus _ lockOwner _, field =>
    task.Differs field ∧
      ¬ (keepsLease lockOwner task.contents = true ∧
        field ∈ [TaskField.column .lockOwner, .column .lockUntil])
  | .updateWithStatusIfUnlocked _ _, field => task.Differs field
  | .updateSettlementFields, .column name => name ∈ settlementColumns ∧ task.Differs (.column name)
  | .updateSettlementFields, .privateData name =>
    (name ∈ settlementFields ∧ task.Differs (.privateData name)) ∨
      (noLedgerIdentity task.contents.privateData = false ∧ name ∈ ledgerFields)
  | .updateAfterAccountingFailure, .column name => name ∈ TaskView.accountingFailureColumns
  | .updateAfterAccountingFailure, .privateData name =>
    name ∈ TaskView.accountingFailureFields ∨
      (noLedgerIdentity task.contents.privateData = false ∧ name ∈ ledgerFields)
  | .updateSettlementStatus _ _, .column name =>
    name ∈ TaskView.settledColumns ∨
      (TaskView.requestFinalized task row = false ∧
        name ∈ [TaskColumn.requestCleanupPending, .requestDeleteAfter]) ∨
      (row.column .resultCleanedAt = 0 ∧ name = .resultExpiresAt ∧
        TaskView.expiresEarlier (row.column .resultExpiresAt)
          (task.contents.column .resultExpiresAt) = true)
  | .updateSettlementStatus _ _, .privateData name =>
    (name ∉ TaskView.resultFields ∧
      ¬ (TaskView.requestFinalized task row = true ∧ name ∈ TaskView.requestBodyFields) ∧
      task.Differs (.privateData name)) ∨
      (row.column .resultCleanedAt = 0 ∧ name = .resultExpiresAt ∧
        TaskView.expiresEarlier (row.privateData .resultExpiresAt)
          (task.contents.privateData .resultExpiresAt) = true)

section Frames

variable {task : TaskView Snapshot} {row : TaskRow Snapshot}

/-- The row has, of the fields that satisfy a condition, the values of the
object. -/
def HasValues (task : TaskView Snapshot) (row : TaskRow Snapshot)
    (field : TaskField) (condition : Prop) : Prop :=
  condition → row.value field = field.stored (task.contents.value field)

variable {field : TaskField}

theorem patch_frame (stored : row.Stored)
    (carried : HasValues task row field (task.Differs field)) (updatedAt : Int) :
    (row.updates (buildTaskUpdatePatch task.base row.toTaskContents
      task.contents).1 updatedAt).value field = row.value field := by
  cases hasBase : task.base with
  | none =>
    have taken : task.Differs field := by simp [Differs, hasBase]
    rw [carried taken]
    cases field <;> rfl
  | some base =>
    have differs : task.Differs field ↔ task.contents.value field ≠ base.value field := by
      simp [Differs, hasBase]
    rw [HasValues, differs] at carried
    cases field with
    | column name =>
      simp only [value, TaskRow.updates, buildTaskUpdatePatch]
      split
      case isTrue taken => exact (carried taken).symm
      case isFalse => rfl
    | privateData name =>
      simp only [value, TaskRow.updates, buildTaskUpdatePatch]
      split
      case h_1 => rfl
      case h_2 privateData written =>
        split at written
        case isTrue =>
          obtain rfl := Option.some.inj written
          exact stored_merge_kept stored carried
        case isFalse => cases written

omit [DecidableEq Snapshot] in
theorem delete_frame {updatedAt : Int} {updates : TaskUpdates Snapshot} {column : TaskColumn}
    (kept : field ≠ .column column →
      (row.updates updates updatedAt).value field = row.value field) :
    (row.updates (updates.delete column) updatedAt).value field = row.value field := by
  cases field with
  | privateData name => exact kept (by simp)
  | column name =>
    by_cases same : name = column
    · subst same
      simp [value, TaskRow.updates, delete]
    · have others := kept (by simpa using same)
      simpa [value, TaskRow.updates, delete, same] using others

variable {stamp : Int → Int → Int} {clock : Int} {written : Written Snapshot}

omit [DecidableEq Snapshot] in
theorem update_frame (succeeds : task.update stamp clock row = some written)
    (carried : row.value field = field.stored (task.contents.value field)) :
    written.row.value field = row.value field := by
  simp only [update] at succeeds
  split at succeeds
  · cases succeeds
  obtain rfl := Option.some.inj succeeds
  rw [value_store, carried]

variable {fromStatus : TaskStatus} {now : Int}

theorem updateWithStatus_frame {lockOwner : String} (stored : row.Stored)
    (succeeds : task.updateWithStatusAndLease fromStatus lockOwner now clock row = some written)
    (carried : HasValues task row field (ObjectWrite.Carries task row
      (.updateWithStatus fromStatus lockOwner now) field)) :
    written.row.value field = row.value field := by
  obtain ⟨next, won, rfl⟩ := Option.map_eq_some_iff.mp succeeds
  obtain ⟨-, rfl | rfl⟩ := updateWithStatusFrom_cases won
  · rfl
  · dsimp only [Written.ofReload]
    split
    case isTrue keeps =>
      refine delete_frame fun notUntil => delete_frame fun notOwner => ?_
      refine patch_frame stored ?_ _
      intro differs
      refine carried ⟨differs, ?_⟩
      rintro ⟨-, isLease⟩
      rcases List.mem_pair.mp isLease with isOwner | isUntil
      · exact notOwner isOwner
      · exact notUntil isUntil
    case isFalse ends =>
      refine patch_frame stored ?_ _
      intro differs
      refine carried ⟨differs, ?_⟩
      rintro ⟨keeps, -⟩
      exact ends (by simpa [keepsLease] using keeps)

theorem updateWithStatusIfUnlocked_frame (stored : row.Stored)
    (succeeds : task.updateWithStatusIfUnlocked fromStatus now clock row = some written)
    (carried : HasValues task row field (task.Differs field)) :
    written.row.value field = row.value field := by
  simp only [updateWithStatusIfUnlocked] at succeeds
  split at succeeds
  · cases succeeds
  split at succeeds
  · obtain rfl := Option.some.inj succeeds
    rfl
  split at succeeds
  · obtain rfl := Option.some.inj succeeds
    exact patch_frame stored carried _
  · cases succeeds

theorem updateWithStatusFrom_stored {base : Option (TaskContents Snapshot)}
    {candidate : TaskContents Snapshot} {taskUpdatedAt : Int} {lockOwner : String}
    {requireLease : Bool} {next : TaskRow Snapshot} (stored : row.Stored)
    (won : updateWithStatusFrom base candidate taskUpdatedAt fromStatus
      lockOwner now requireLease clock row = some next) : next.Stored := by
  obtain ⟨-, rfl | rfl⟩ := updateWithStatusFrom_cases won
  · exact stored
  · exact stored_updates stored _

theorem ObjectWrite.stored {write : ObjectWrite} (stored : row.Stored)
    (succeeds : write.run stamp task clock row = some written) :
    written.row.Stored := by
  cases write with
  | update =>
    simp only [run, TaskView.update] at succeeds
    split at succeeds
    · cases succeeds
    obtain rfl := Option.some.inj succeeds
    exact stored_store _ _ _
  | updateWithStatus fromStatus lockOwner now =>
    obtain ⟨next, won, rfl⟩ := Option.map_eq_some_iff.mp succeeds
    exact updateWithStatusFrom_stored stored won
  | updateWithStatusIfUnlocked fromStatus now =>
    simp only [run, TaskView.updateWithStatusIfUnlocked] at succeeds
    split at succeeds
    · cases succeeds
    split at succeeds
    · obtain rfl := Option.some.inj succeeds
      exact stored
    split at succeeds
    · obtain rfl := Option.some.inj succeeds
      exact stored_updates stored _
    · cases succeeds
  | updateSettlementStatus fromStatus fromSettlementStatus =>
    simp only [run, TaskView.updateSettlementStatus] at succeeds
    split at succeeds
    · cases succeeds
    obtain rfl := Option.some.inj succeeds
    exact stored_store _ _ _
  | updateSettlementFields | updateAfterAccountingFailure =>
    obtain rfl := Option.some.inj succeeds
    exact stored_store _ _ _

/-! ### Settlements -/

omit [DecidableEq Snapshot] in
theorem changedColumns_frame {name : TaskColumn}
    (carried : HasValues task row (.column name) (task.Differs (.column name))) :
    changedColumns task.base task.contents row.toTaskContents name = row.column name := by
  cases hasBase : task.base with
  | none => exact (carried (by simp [Differs, hasBase])).symm
  | some base =>
    simp only [changedColumns]
    split
    case isTrue taken =>
      exact (carried (by
        simpa [Differs, hasBase, value] using taken)).symm
    case isFalse => rfl

variable {name : PrivateField}

theorem changedFields_frame (stored : row.Stored)
    (carried : HasValues task row (.privateData name) (task.Differs (.privateData name))) :
    name.kind.stored (changedFields task.base task.contents row.toTaskContents name) =
      row.privateData name := by
  cases hasBase : task.base with
  | none => exact (carried (by simp [Differs, hasBase])).symm
  | some base =>
    simp only [changedFields]
    split
    case isTrue taken =>
      exact (carried (by
        simpa [Differs, hasBase, value] using taken)).symm
    case isFalse => exact stored name

omit [DecidableEq Snapshot] in
theorem overlayBillingAdjustment_frame {target : TaskPrivateData Snapshot}
    (kept : name.kind.stored (target name) = row.privateData name)
    (carried : HasValues task row (.privateData name)
      (noLedgerIdentity task.contents.privateData = false ∧ name ∈ ledgerFields)) :
    name.kind.stored (overlayBillingAdjustmentPrivateData target
      task.contents.privateData name) = row.privateData name := by
  unfold overlayBillingAdjustmentPrivateData
  split
  case isTrue => exact kept
  case isFalse identity =>
    unfold overlayFields
    split
    case isTrue listed => exact (carried ⟨by simpa using identity, listed⟩).symm
    case isFalse => exact kept

theorem updateTaskSettlementFields_frame (stored : row.Stored) (clock : Int)
    (carried : HasValues task row field
      (ObjectWrite.Carries task row .updateSettlementFields field)) :
    (task.updateTaskSettlementFields clock row).row.value field = row.value field := by
  simp only [TaskView.updateTaskSettlementFields]
  rw [value_store]
  cases field with
  | column name =>
    simp only [value, TaskField.stored, overlayColumns]
    split
    case isTrue listed => exact changedColumns_frame fun differs => carried ⟨listed, differs⟩
    case isFalse => rfl
  | privateData name =>
    refine overlayBillingAdjustment_frame ?_ fun taken => carried (Or.inr taken)
    unfold overlayFields
    split
    case isTrue listed =>
      exact changedFields_frame stored fun differs => carried (Or.inl ⟨listed, differs⟩)
    case isFalse => exact stored name

omit [DecidableEq Snapshot] in
theorem updateTaskAfterSubmitAccountingFailure_frame (stored : row.Stored) (clock : Int)
    (carried : HasValues task row field
      (ObjectWrite.Carries task row .updateAfterAccountingFailure field)) :
    (task.updateTaskAfterSubmitAccountingFailure clock row).row.value field = row.value field := by
  simp only [TaskView.updateTaskAfterSubmitAccountingFailure]
  rw [value_store]
  cases field with
  | column name =>
    simp only [value, TaskField.stored, overlayColumns]
    split
    case isTrue listed => exact (carried listed).symm
    case isFalse => rfl
  | privateData name =>
    refine overlayBillingAdjustment_frame ?_ fun taken => carried (Or.inr taken)
    unfold overlayFields
    split
    case isTrue listed => exact (carried (Or.inl listed)).symm
    case isFalse => exact stored name

theorem mergedOrOwn_frame (stored : row.Stored)
    (carried : HasValues task row (.privateData name) (task.Differs (.privateData name))) :
    name.kind.stored ((match task.base with
      | none => task.contents.privateData
      | some base => mergeTaskPrivateData row.privateData base.privateData
          task.contents.privateData) name) = row.privateData name := by
  cases hasBase : task.base with
  | none => exact (carried (by simp [Differs, hasBase])).symm
  | some base =>
    refine stored_merge_kept stored fun differs => carried ?_
    simpa [Differs, hasBase, value] using differs

theorem settledPrivateData_frame (stored : row.Stored) {fromSettlementStatus : TaskSettlementStatus}
    (carried : HasValues task row (.privateData name)
      (ObjectWrite.Carries task row (.updateSettlementStatus fromStatus
        fromSettlementStatus) (.privateData name))) :
    name.kind.stored (settledPrivateData task row name) = row.privateData name := by
  by_cases ofRequest : requestFinalized task row = true ∧ name ∈ requestBodyFields
  · simp only [settledPrivateData, if_pos ofRequest.1, overlayFields, if_pos ofRequest.2]
    exact stored name
  -- The fields of the request are out of the way.
  have unfinalized : ∀ privateData : TaskPrivateData Snapshot,
      (if requestFinalized task row = true then
        overlayFields requestBodyFields row.privateData privateData
      else privateData) name = privateData name := by
    intro privateData
    split
    case isTrue finalized => exact if_neg fun listed => ofRequest ⟨finalized, listed⟩
    case isFalse => rfl
  simp only [settledPrivateData]
  rw [unfinalized]
  by_cases isExpiry : name = .resultExpiresAt
  · subst isExpiry
    have ofRow : ∀ privateData : TaskPrivateData Snapshot,
        overlayFields resultFields row.privateData privateData
          .resultExpiresAt = row.privateData .resultExpiresAt :=
      fun _ => if_pos (by decide)
    split
    case isTrue uncleaned =>
      rw [Function.update_self, ofRow, earlierExpiry]
      split
      case isTrue earlier => exact (carried (Or.inr ⟨uncleaned, rfl, earlier⟩)).symm
      case isFalse => exact stored .resultExpiresAt
    case isFalse =>
      exact stored .resultExpiresAt
  · have kept : name.kind.stored (overlayFields resultFields
        row.privateData (match task.base with
          | none => task.contents.privateData
          | some base => mergeTaskPrivateData row.privateData base.privateData
              task.contents.privateData) name) = row.privateData name := by
      unfold overlayFields
      split
      case isTrue => exact stored name
      case isFalse notResult =>
        exact mergedOrOwn_frame stored fun differs =>
          carried (Or.inl ⟨notResult, ofRequest, differs⟩)
    split
    case isTrue =>
      rw [Function.update_of_ne isExpiry]
      exact kept
    case isFalse => exact kept

omit [DecidableEq Snapshot] in
theorem settledColumns_frame {fromSettlementStatus : TaskSettlementStatus} {name : TaskColumn}
    (carried : HasValues task row (.column name)
      (ObjectWrite.Carries task row (.updateSettlementStatus fromStatus
        fromSettlementStatus) (.column name))) :
    overlayColumns settledColumns task.contents.column
      (settledRequestColumns task row) name = row.column name := by
  unfold overlayColumns
  split
  case isTrue listed => exact (carried (Or.inl listed)).symm
  case isFalse =>
    have requests : (if requestFinalized task row = true then row.column
      else overlayColumns [.requestCleanupPending, .requestDeleteAfter]
        task.contents.column row.column) name = row.column name := by
      split
      case isTrue => rfl
      case isFalse unfinalized =>
        unfold overlayColumns
        split
        case isTrue listed =>
          exact (carried (Or.inr (Or.inl ⟨by simpa using unfinalized, listed⟩))).symm
        case isFalse => rfl
    simp only [settledRequestColumns]
    split
    case isTrue uncleaned =>
      by_cases isExpiry : name = .resultExpiresAt
      · subst isExpiry
        rw [Function.update_self, earlierExpiry]
        split
        case isTrue earlier => exact (carried (Or.inr (Or.inr ⟨uncleaned, rfl, earlier⟩))).symm
        case isFalse => rfl
      · rw [Function.update_of_ne isExpiry]
        exact requests
    case isFalse => exact requests

theorem ObjectWrite.frame {write : ObjectWrite} (stored : row.Stored)
    (succeeds : write.run stamp task clock row = some written)
    (carried : HasValues task row field (write.Carries task row field)) :
    written.row.value field = row.value field := by
  cases write with
  | update => exact update_frame succeeds (carried trivial)
  | updateWithStatus fromStatus lockOwner now =>
    exact updateWithStatus_frame stored succeeds carried
  | updateWithStatusIfUnlocked fromStatus now =>
    exact updateWithStatusIfUnlocked_frame stored succeeds carried
  | updateSettlementStatus fromStatus fromSettlementStatus =>
    simp only [run, TaskView.updateSettlementStatus] at succeeds
    split at succeeds
    · cases succeeds
    obtain rfl := Option.some.inj succeeds
    cases field with
    | column name => exact settledColumns_frame carried
    | privateData name => exact settledPrivateData_frame stored carried
  | updateSettlementFields =>
    obtain rfl := Option.some.inj succeeds
    exact updateTaskSettlementFields_frame stored clock carried
  | updateAfterAccountingFailure =>
    obtain rfl := Option.some.inj succeeds
    exact updateTaskAfterSubmitAccountingFailure_frame stored clock carried

end Frames

end NewApi.TaskRows
