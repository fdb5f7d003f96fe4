import NewApi.ImageTasks.TaskBilling
import NewApi.Lib.BulkStatements
import NewApi.Lib.Interleaving
import NewApi.Tasks.TaskStatuses

/-!
# Idempotency keys of image tasks

A request with a `client_task_id` returns the task under its key, or it
reserves the key and creates one; the transaction that creates the task binds
the lock to it.  Old reservations and bound locks whose task is not reused are
reclaimed.  Each statement or transaction is one operation.
-/

namespace NewApi.ImageTasks

open Billing GoStrings Interleaving Tasks

/-! ## Rows -/

/-- The columns of `tasks` that idempotency reads. -/
structure ImageTask where
  id : Int
  taskID : String
  userID : Int
  clientTaskID : String
  status : TaskStatus
  settlementStatus : TaskSettlementStatus := .unset
  finishTime : Int := 0
  resultCleanedAt : Int := 0
  resultDeleteAfter : Int := 0
  resultExpiresAt : Int := 0
  imageTaskResultStored : Bool := false
  /-- `data IS NOT NULL` -/
  hasData : Bool := false
  settlementEvidenceCapturedAt : Int := 0
  publicImageTask : Bool
  tokenID : Int
  requestFingerprint : String
  quota : Int := 0
deriving DecidableEq

namespace ImageTask

def Open (task : ImageTask) : Prop := task.status ≠ .success ∧ task.status ≠ .failure

instance (task : ImageTask) : Decidable task.Open := inferInstanceAs (Decidable (_ ∧ _))

/-- The condition of `imageTaskIdempotencyReusableWhere` on the result. -/
def resultStillAvailable (task : ImageTask) (now : Int) : Bool :=
  task.resultCleanedAt = 0 ∧
    (task.resultDeleteAfter = 0 ∨ now < task.resultDeleteAfter) ∧
    (task.resultExpiresAt = 0 ∨ now < task.resultExpiresAt) ∧
    (task.imageTaskResultStored = true ∨ task.hasData = true)

def reusable (task : ImageTask) (reuseWindow now : Int) : Bool :=
  reuseWindow ≤ 0 ∨ task.Open ∨
    (task.status = .success ∧
      (task.settlementStatus = .pending ∨ task.settlementStatus = .applied) ∧
      task.resultStillAvailable now = true) ∨
    (task.status = .success ∧ task.settlementStatus = .settled ∧
      (task.finishTime = 0 ∨ now - reuseWindow ≤ task.finishTime) ∧
      task.resultStillAvailable now = true)

/-- The tasks that `MarkExpiredOpenImageTaskSettlementReview` reviews. -/
def needsReview (task : ImageTask) (now : Int) : Bool :=
  (task.status = .success ∧ task.settlementStatus = .pending ∧
      ¬ 0 < task.settlementEvidenceCapturedAt) ∧
    (0 < task.resultCleanedAt ∨
      (0 < task.resultDeleteAfter ∧ task.resultDeleteAfter ≤ now) ∨
      (0 < task.resultExpiresAt ∧ task.resultExpiresAt ≤ now))

end ImageTask

structure ImageTaskClientTaskIDLock where
  id : Int
  userID : Int
  clientTaskID : String
  taskPrimaryID : Int := 0
  publicTaskID : String := ""
  fingerprint : String
  createdAt : Int
  updatedAt : Int
deriving DecidableEq

def ImageTaskClientTaskIDLock.key (lock : ImageTaskClientTaskIDLock) :
    Int × String :=
  (lock.userID, lock.clientTaskID)

structure TaskCommit where
  taskPrimaryID : Int
  reservationID : Int
  billing : ImageTaskBilling
  now : Int
  charge : Option ImageTaskCharge

/-- An update of a task by its worker or its settlement.  It keeps the keys, and
a task that has ended has ended for good. -/
structure TaskUpdate where
  apply : ImageTask → ImageTask
  id : ∀ task, (apply task).id = task.id
  userID : ∀ task, (apply task).userID = task.userID
  clientTaskID : ∀ task, (apply task).clientTaskID = task.clientTaskID
  closed : ∀ task, (apply task).Open → task.Open

structure ClientTasks where
  clock : Int
  tasks : KeyedTable ImageTask.id := KeyedTable.empty
  nextTaskID : Int := 1
  locks : KeyedTable ImageTaskClientTaskIDLock.key := KeyedTable.empty
  nextLockID : Int := 1
  db : Database
  /-- History: the tasks that have been committed.  No step reads it. -/
  commits : List TaskCommit := []

structure ImageTaskEnv extends BillingEnv where
  /-- `GetImageTaskIdempotencyReuseWindow`, in seconds -/
  reuseWindow : Int

namespace ClientTasks

def findTask (shared : ClientTasks) (reuseWindow : Int) (userID : Int)
    (clientTaskID : String) (now : Int) : Option ImageTask :=
  shared.tasks.rows.reverse.find? fun task =>
    task.userID = userID ∧ task.clientTaskID = clientTaskID ∧ task.reusable reuseWindow now = true

def createLock (shared : ClientTasks) (lock : ImageTaskClientTaskIDLock) :
    ClientTasks × Option ImageTaskClientTaskIDLock :=
  match shared.locks.create { lock with id := shared.nextLockID } with
  | none => (shared, none)
  | some locks =>
    ({ shared with locks, nextLockID := shared.nextLockID + 1 },
      some { lock with id := shared.nextLockID })

def boundTaskReusable (shared : ClientTasks) (reuseWindow : Int)
    (lock : ImageTaskClientTaskIDLock) (now : Int) : Bool :=
  shared.tasks.rows.any fun task =>
    task.id = lock.taskPrimaryID ∧ task.userID = lock.userID ∧
      task.clientTaskID = lock.clientTaskID ∧
      task.reusable reuseWindow now = true

def updateTasks (shared : ClientTasks) (test : ImageTask → Bool)
    (update : TaskUpdate) : ClientTasks :=
  { shared with tasks := shared.tasks.update test update.apply update.id }

def reviewUpdate : TaskUpdate where
  apply task := { task with settlementStatus := .review }
  id _ := rfl
  userID _ := rfl
  clientTaskID _ := rfl
  closed _ isOpen := isOpen

def markReview (shared : ClientTasks) (taskPrimaryID now : Int) : ClientTasks :=
  shared.updateTasks
    (fun task => task.id = taskPrimaryID ∧
      task.needsReview (if now ≤ 0 then shared.clock else now) = true)
    reviewUpdate

def deleteLocks (shared : ClientTasks) (test : ImageTaskClientTaskIDLock → Bool) :
    ClientTasks × Nat :=
  ({ shared with locks := shared.locks.deleteWhere test }, (shared.locks.rows.filter test).length)

def stale (id createdAt : Int) (lock : ImageTaskClientTaskIDLock) : Bool :=
  lock.id = id ∧ lock.taskPrimaryID = 0 ∧ lock.createdAt = createdAt

def orphaned (id taskPrimaryID updatedAt : Int) (lock : ImageTaskClientTaskIDLock) : Bool :=
  lock.id = id ∧ lock.taskPrimaryID = taskPrimaryID ∧ (0 < updatedAt → lock.updatedAt = updatedAt)

/-- The rows that a reservation may still be bound or released by. -/
def reservedBy (reservation lock : ImageTaskClientTaskIDLock) : Bool :=
  lock.id = reservation.id ∧ lock.userID = reservation.userID ∧
    lock.clientTaskID = trimSpace reservation.clientTaskID ∧
    lock.fingerprint = trimSpace reservation.fingerprint ∧
    lock.taskPrimaryID = 0

/-- The query of `CleanupExpiredImageTaskClientTaskIDLocks`.  The rows are in
the order of their ids. -/
def settledLocks (shared : ClientTasks) (cutoff : Int) (limit : Int) :
    List Int :=
  ((shared.locks.rows.filter fun lock =>
      0 < lock.taskPrimaryID ∧ lock.updatedAt < cutoff ∧
        (shared.tasks.lookup lock.taskPrimaryID).all fun task =>
          ¬ task.Open ∧ 0 < task.finishTime ∧ task.finishTime < cutoff).map
    ImageTaskClientTaskIDLock.id).take limit.toNat

structure Creation where
  task : ImageTask
  billing : ImageTaskBilling
  reservation : ImageTaskClientTaskIDLock

def chargeCreation (env : BillingEnv) (db : Database) (now : Int) (billing : ImageTaskBilling) :
    Except CreationError (Option ImageTaskCharge × Database) :=
  if billing.billable then
    match newImageTaskBillingSessionTx env db now billing with
    | .ok paid => .ok (some paid.1, paid.2)
    | .error failed => .error failed.1
  else .ok (none, db)

def bindLock (locks : KeyedTable ImageTaskClientTaskIDLock.key)
    (reservation : ImageTaskClientTaskIDLock) (task : ImageTask) (now : Int) :
    Option (KeyedTable ImageTaskClientTaskIDLock.key) :=
  if (locks.rows.filter (reservedBy reservation)).length = 1 then
    some
      (locks.update (reservedBy reservation)
        (fun lock =>
          { lock with
            taskPrimaryID := task.id
            publicTaskID := task.taskID
            updatedAt := now })
        fun _ => rfl)
  else none

def commit (env : BillingEnv) (shared : ClientTasks) (creation : Creation) :
    ClientTasks × Except CreationError Unit :=
  if creation.billing.quotaClamp ∨ creation.billing.preConsumedQuota < 0 then
    (shared, .error .modelPrice)
  else
    match chargeCreation env shared.db shared.clock creation.billing with
    | .error err => (shared, .error err)
    | .ok charged =>
      let task :=
        { creation.task with
          id := shared.nextTaskID
          quota := (charged.1.map ImageTaskCharge.quota).getD 0 }
      match shared.tasks.create task,
          bindLock shared.locks creation.reservation task shared.clock with
      | some tasks, some locks =>
        ({ shared with
            tasks
            nextTaskID := shared.nextTaskID + 1
            locks
            db := charged.2
            commits :=
              { taskPrimaryID := task.id
                reservationID := creation.reservation.id
                billing := creation.billing
                now := shared.clock
                charge := charged.1 } :: shared.commits },
          .ok ())
      | _, _ => (shared, .error .updateData)

end ClientTasks

end NewApi.ImageTasks
