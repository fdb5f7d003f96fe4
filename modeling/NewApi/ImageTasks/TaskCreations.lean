import NewApi.ImageTasks.ClientTaskLocks

/-!
# Creations of image tasks

The functions around an idempotency key as programs of statements and
transactions, each of which is one operation: `createImageTaskInternal`, the
reclaiming of a lock and the cleanup of settled locks.
-/

namespace NewApi.ImageTasks

open Billing GoStrings Interleaving Tasks ClientTasks

inductive TaskOp where
  /-- `GetDBTimestamp` and `common.GetTimestamp` -/
  | now
  | findTask (userID : Int) (clientTaskID : String) (now : Int)
  | createLock (lock : ImageTaskClientTaskIDLock)
  /-- `GetImageTaskClientTaskIDLock` -/
  | findLock (userID : Int) (clientTaskID : String)
  | boundTaskReusable (lock : ImageTaskClientTaskIDLock) (now : Int)
  | markReview (taskPrimaryID now : Int)
  /-- `DeleteStaleImageTaskClientTaskIDLock` -/
  | deleteStale (id createdAt : Int)
  /-- `DeleteOrphanedImageTaskClientTaskIDLock` -/
  | deleteOrphaned (id taskPrimaryID updatedAt : Int)
  | release (reservation : ImageTaskClientTaskIDLock)
  | commit (creation : Creation)
  /-- The query of `CleanupExpiredImageTaskClientTaskIDLocks` -/
  | settledLocks (cutoff limit : Int)
  /-- The deletion of `CleanupExpiredImageTaskClientTaskIDLocks` -/
  | deleteLocks (ids : List Int)

@[reducible]
def TaskAnswer : TaskOp → Type
  | .now => Int
  | .findTask .. => Option ImageTask
  | .createLock _ => Option ImageTaskClientTaskIDLock
  | .findLock .. => Option ImageTaskClientTaskIDLock
  | .boundTaskReusable .. => Bool
  | .markReview .. => Unit
  | .deleteStale .. => Bool
  | .deleteOrphaned .. => Bool
  | .release _ => Unit
  | .commit _ => Except CreationError Unit
  | .settledLocks .. => List Int
  | .deleteLocks _ => Nat

def ClientTasks.perform (env : ImageTaskEnv) :
    (op : TaskOp) → ClientTasks → ClientTasks × TaskAnswer op
  | .now, shared => (shared, shared.clock)
  | .findTask userID clientTaskID now, shared =>
    (shared, shared.findTask env.reuseWindow userID clientTaskID now)
  | .createLock lock, shared => shared.createLock lock
  | .findLock userID clientTaskID, shared => (shared, shared.locks.lookup (userID, clientTaskID))
  | .boundTaskReusable lock now, shared =>
    (shared, shared.boundTaskReusable env.reuseWindow lock now)
  | .markReview taskPrimaryID now, shared => (shared.markReview taskPrimaryID now, ())
  | .deleteStale id createdAt, shared =>
    ((shared.deleteLocks (stale id createdAt)).1,
      decide (0 < (shared.deleteLocks (stale id createdAt)).2))
  | .deleteOrphaned id taskPrimaryID updatedAt, shared =>
    ((shared.deleteLocks (orphaned id taskPrimaryID updatedAt)).1,
      decide (0 < (shared.deleteLocks (orphaned id taskPrimaryID updatedAt)).2))
  | .release reservation, shared => ((shared.deleteLocks (reservedBy reservation)).1, ())
  | .commit creation, shared => shared.commit env.toBillingEnv creation
  | .settledLocks cutoff limit, shared => (shared, shared.settledLocks cutoff limit)
  | .deleteLocks ids, shared => shared.deleteLocks fun lock => ids.contains lock.id

abbrev TaskCode (α : Type) := Program TaskAnswer α

abbrev runTask (op : TaskOp) : TaskCode (TaskAnswer op) := Program.perform op

def imageTaskClientTaskIDReservationStaleSeconds : Int := 600

def deleteStaleImageTaskClientTaskIDLock (id createdAt : Int) : TaskCode Bool :=
  if id ≤ 0 ∨ createdAt ≤ 0 then pure false
  else runTask (.deleteStale id createdAt)

def deleteOrphanedImageTaskClientTaskIDLock (id taskPrimaryID updatedAt : Int) :
    TaskCode Bool :=
  if id ≤ 0 ∨ taskPrimaryID ≤ 0 then pure false
  else runTask (.deleteOrphaned id taskPrimaryID updatedAt)

def imageTaskClientTaskIDLockBoundTaskReusable
    (lock : ImageTaskClientTaskIDLock) (now : Int) : TaskCode Bool :=
  if lock.taskPrimaryID ≤ 0 then pure false
  else runTask (.boundTaskReusable lock now)

def markExpiredOpenImageTaskSettlementReview (taskPrimaryID now : Int) :
    TaskCode Unit :=
  if taskPrimaryID ≤ 0 then pure ()
  else runTask (.markReview taskPrimaryID now)

def reclaimImageTaskClientTaskIDLockIfStale
    (lock : ImageTaskClientTaskIDLock) (now : Int) : TaskCode Bool :=
  if lock.taskPrimaryID = 0 then
    if lock.createdAt ≤ 0 ∨
        now - lock.createdAt ≤ imageTaskClientTaskIDReservationStaleSeconds then
      pure false
    else deleteStaleImageTaskClientTaskIDLock lock.id lock.createdAt
  else do
    let reusable ← imageTaskClientTaskIDLockBoundTaskReusable lock now
    if reusable then pure false
    else do
      -- An open settlement goes to review before a new task may be charged.
      markExpiredOpenImageTaskSettlementReview lock.taskPrimaryID now
      deleteOrphanedImageTaskClientTaskIDLock lock.id lock.taskPrimaryID lock.updatedAt

abbrev Reservation := Option ImageTaskClientTaskIDLock × Bool

def newReservation (userID : Int) (clientTaskID fingerprint : String)
    (now : Int) : ImageTaskClientTaskIDLock where
  id := 0
  userID := userID
  clientTaskID := clientTaskID
  fingerprint := trimSpace fingerprint
  createdAt := now
  updatedAt := now

def getImageTaskClientTaskIDLock (userID : Int) (clientTaskID : String) :
    TaskCode (Option ImageTaskClientTaskIDLock) :=
  if userID ≤ 0 ∨ trimSpace clientTaskID = "" then pure none
  else runTask (.findLock userID (trimSpace clientTaskID))

def reserveReclaimed (userID : Int) (clientTaskID fingerprint : String)
    (now : Int) : TaskCode Reservation := do
  let created ← runTask (.createLock (newReservation userID clientTaskID fingerprint now))
  if created.isSome then pure (created, true)
  else do
    let existing ← getImageTaskClientTaskIDLock userID clientTaskID
    pure (existing, false)

def reserveImageTaskClientTaskID (userID : Int) (clientTaskID fingerprint : String) :
    TaskCode Reservation :=
  let clientTaskID := trimSpace clientTaskID
  if userID ≤ 0 ∨ clientTaskID = "" then pure (none, false)
  else do
    let now ← runTask .now
    let created ← runTask (.createLock (newReservation userID clientTaskID fingerprint now))
    if created.isSome then pure (created, true)
    else do
      let existing ← getImageTaskClientTaskIDLock userID clientTaskID
      match existing with
      | none => pure (none, false)
      | some lock => do
          let deleted ← reclaimImageTaskClientTaskIDLockIfStale lock now
          if deleted then reserveReclaimed userID clientTaskID fingerprint now
          else pure (existing, false)

def releaseImageTaskClientTaskIDReservation
    (reservation : ImageTaskClientTaskIDLock) : TaskCode Unit :=
  if reservation.id ≤ 0 ∨ reservation.userID ≤ 0 ∨
      trimSpace reservation.clientTaskID = "" then
    pure ()
  else runTask (.release reservation)

/-! ## Creations -/

structure ImageTaskRequest where
  userID : Int
  tokenID : Int
  clientTaskID : String
  taskID : String
  fingerprint : String
  /-- `isPublicImageTaskCreateRequest` -/
  strictIdempotency : Bool
  /-- How often each wait for a reservation polls before the deadline, as long
  as it has not passed. -/
  waits : List Nat
  /-- The price of the task, unless the request is refused before its task is
  created. -/
  prepared : Option ImageTaskBilling

inductive CreationOutcome where
  | existing (task : ImageTask)
  /-- `imageTaskIdempotencyOwnershipConflictError` -/
  | ownershipConflict
  /-- `imageTaskIdempotencyConflictError` -/
  | idempotencyConflict
  /-- `imageTaskIdempotencyInProgressError` -/
  | inProgress
  | invalid
  | refused
  | failed (err : CreationError)
  | created
  | reclaimed (deleted : Bool)
  | cleaned (deleted : Nat)
deriving DecidableEq

def maxImageTaskClientTaskIDLength : Nat := 191

def normalizeImageTaskClientTaskID (value : String) : Option String :=
  let value := trimSpace value
  if value = "" then some ""
  else if maxImageTaskClientTaskIDLength < value.utf8ByteSize then none
  else if value.toList.any fun char =>
      char = ',' || char = '\r' || char = '\n' || char = '\t' || char = ' ' then
    none
  else some value

/-- `imageTaskIdempotencyFingerprintConflicts` and
`imageTaskReservationFingerprintConflicts`. -/
def fingerprintConflicts (stored fingerprint : String) : Bool :=
  if trimSpace stored = "" ∨ trimSpace fingerprint = "" then false
  else decide (stored ≠ fingerprint)

def publicImageTaskAuthorized (request : ImageTaskRequest) (task : ImageTask) :
    Bool :=
  task.publicImageTask = true ∧ task.userID = request.userID ∧
    0 < request.tokenID ∧ request.tokenID = task.tokenID

def answerExisting (request : ImageTaskRequest) (task : ImageTask) :
    CreationOutcome :=
  if request.strictIdempotency then
    if publicImageTaskAuthorized request task = false then .ownershipConflict
    else if fingerprintConflicts task.requestFingerprint request.fingerprint then
      .idempotencyConflict
    else .existing task
  else .existing task

def getImageTaskByClientTaskID (userID : Int) (clientTaskID : String) :
    TaskCode (Option ImageTask) :=
  if userID ≤ 0 ∨ trimSpace clientTaskID = "" then pure none
  else do
    let now ← runTask .now
    runTask (.findTask userID (trimSpace clientTaskID) now)

/-- `waitForImageTaskIdempotencyReservation`: the task, and whether the key has
been released. -/
def waitForImageTaskIdempotencyReservation (userID : Int) (clientTaskID : String) :
    Nat → TaskCode (Option ImageTask × Bool)
  | 0 => pure (none, false)
  | polls + 1 => do
      let existing ← getImageTaskByClientTaskID userID clientTaskID
      if existing.isSome then pure (existing, false)
      else do
        let lock ← getImageTaskClientTaskIDLock userID clientTaskID
        if lock.isNone then pure (none, true)
        else waitForImageTaskIdempotencyReservation userID clientTaskID polls

def awaitReservation (request : ImageTaskRequest) (clientTaskID : String) :
    List Nat → Reservation → TaskCode (Except CreationOutcome Reservation)
  | waits, reservation =>
    if reservation.2 then pure (.ok reservation)
    else if request.strictIdempotency && reservation.1.any fun lock =>
        fingerprintConflicts lock.fingerprint request.fingerprint then
      pure (.error .idempotencyConflict)
    else
      match waits with
      | [] => pure (.error .inProgress)
      | polls :: rest => do
          let waited ← waitForImageTaskIdempotencyReservation request.userID clientTaskID polls
          match waited.1 with
          | some task => pure (.error (answerExisting request task))
          | none =>
            if waited.2 then do
              let reservation ←
                reserveImageTaskClientTaskID request.userID clientTaskID request.fingerprint
              awaitReservation request clientTaskID rest reservation
            else pure (.error .inProgress)

def newImageTask (request : ImageTaskRequest) (clientTaskID : String) :
    ImageTask where
  id := 0
  taskID := request.taskID
  userID := request.userID
  clientTaskID := clientTaskID
  status := .queued
  publicImageTask := request.strictIdempotency
  tokenID := request.tokenID
  requestFingerprint := request.fingerprint

def createReserved (request : ImageTaskRequest) (clientTaskID : String)
    (reservation : ImageTaskClientTaskIDLock) : TaskCode CreationOutcome :=
  match request.prepared with
  | none => do
      releaseImageTaskClientTaskIDReservation reservation
      pure .refused
  | some billing => do
      let committed ←
        runTask
          (.commit
            { task := newImageTask request clientTaskID
              billing
              reservation })
      match committed with
      | .ok _ => pure .created
      | .error err => do
          releaseImageTaskClientTaskIDReservation reservation
          pure (.failed err)

/-- A request without a key reserves nothing and is not followed here. -/
def createImageTaskInternal (request : ImageTaskRequest) :
    TaskCode CreationOutcome :=
  match normalizeImageTaskClientTaskID request.clientTaskID with
  | none => pure .invalid
  | some clientTaskID =>
    if clientTaskID = "" then pure .invalid
    else do
      let existing ← getImageTaskByClientTaskID request.userID clientTaskID
      match existing with
      | some task => pure (answerExisting request task)
      | none => do
          let first ← reserveImageTaskClientTaskID request.userID clientTaskID request.fingerprint
          let reserved ← awaitReservation request clientTaskID request.waits first
          match reserved with
          | .error outcome => pure outcome
          | .ok reservation =>
            match reservation.1 with
            | none => pure .refused
            | some lock => createReserved request clientTaskID lock

/-- `ReclaimImageTaskClientTaskIDLockIfStale`, for a lock that has been read. -/
def reclaimLock (userID : Int) (clientTaskID : String) :
    TaskCode CreationOutcome := do
  let lock ← getImageTaskClientTaskIDLock userID clientTaskID
  match lock with
  | none => pure (.reclaimed false)
  | some lock => do
      let now ← runTask .now
      let deleted ← reclaimImageTaskClientTaskIDLockIfStale lock now
      pure (.reclaimed deleted)

def cleanupExpiredImageTaskClientTaskIDLocks (cutoff limit : Int) :
    TaskCode CreationOutcome :=
  if cutoff ≤ 0 then pure (.cleaned 0)
  else do
    let ids ← runTask (.settledLocks cutoff (if limit ≤ 0 then 1000 else limit))
    if ids.isEmpty then pure (.cleaned 0)
    else do
      let deleted ← runTask (.deleteLocks ids)
      pure (.cleaned deleted)

inductive TaskCall where
  | create (request : ImageTaskRequest)
  | reclaim (userID : Int) (clientTaskID : String)
  | cleanup (cutoff limit : Int)

def TaskCall.code : TaskCall → TaskCode CreationOutcome
  | .create request => createImageTaskInternal request
  | .reclaim userID clientTaskID => reclaimLock userID clientTaskID
  | .cleanup cutoff limit => cleanupExpiredImageTaskClientTaskIDLocks cutoff limit

inductive TaskEvent where
  | elapse (seconds : Nat)
  | update (id : Int) (update : TaskUpdate)

def TaskEvent.run : TaskEvent → ClientTasks → ClientTasks
  | .elapse seconds, shared => { shared with clock := shared.clock + seconds }
  | .update id change, shared => shared.updateTasks (fun task => task.id = id) change

def taskMachine (env : ImageTaskEnv) :
    Machine TaskAnswer TaskCall TaskEvent ClientTasks CreationOutcome where
  code := TaskCall.code
  perform := ClientTasks.perform env
  outside := TaskEvent.run

def taskStart (clock : Int) (db : Database) :
    Config TaskAnswer TaskCall ClientTasks CreationOutcome where
  shared := { clock, db }
  threads := []

def runTasks (env : ImageTaskEnv) (clock : Int) (db : Database)
    (actions : List (Action TaskCall TaskEvent)) :
    Config TaskAnswer TaskCall ClientTasks CreationOutcome :=
  (taskMachine env).run (taskStart clock db) actions

end NewApi.ImageTasks
