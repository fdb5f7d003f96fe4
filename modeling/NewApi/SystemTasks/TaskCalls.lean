import NewApi.SystemTasks.TaskLocks

/-!
# Calls on system tasks

The functions of the runners as programs of statements and transactions, each
of which is one operation.  A call reads the clock in an operation of its own;
functions that take `now` as an argument have it from their caller.  The
statements themselves do not fail.
-/

namespace NewApi.SystemTasks

open GoStrings Interleaving

inductive Op where
  /-- `common.GetTimestamp()` -/
  | getTimestamp
  /-- The pending task of `ClaimSystemTask` -/
  | findPending (id : Int) (taskType : String)
  /-- The insert of `acquireSystemTaskLock` -/
  | createLock (lock : SystemTaskLock)
  /-- The query after a failed insert -/
  | findLock (type : String)
  /-- The transaction of `acquireSystemTaskLock` -/
  | replaceLock (type taskID lockedBy : String) (now lockUntil : Int)
  /-- The update of `ClaimSystemTask` -/
  | startTask (id : Int) (taskType lockType taskID runnerID : String) (now : Int)
  /-- The last query of `ClaimSystemTask` -/
  | reload (id : Int)
  /-- `ReleaseSystemTaskLock` -/
  | deleteLocks (taskID lockedBy : String)
  | renewLock (taskID lockedBy : String) (lockUntil now : Int)
  /-- The update of `UpdateSystemTaskState` -/
  | writeState (taskID lockedBy state : String) (now : Int)
  /-- The count of `UpdateSystemTaskState` -/
  | countHeld (taskID lockedBy : String) (now : Int)
  | lockExecution (taskID lockedBy : String) (first second : Int)
  | finish (taskID lockedBy : String) (status : SystemTaskStatus)
      (terminal : status.isTerminal = true) (result errorMessage : String)
      (now : Int)
  | markFailed (taskID lockedBy errorMessage : String)
  | cancel (taskID : String) (types : List String) (errorMessage : String)
  /-- The query of `CleanupInactiveSystemTaskLocks` -/
  | listLocks (lockType : String) (now : Int)
  | cleanupLock (candidate : SystemTaskLock) (now : Int)
  /-- The query of `ExpireStaleSystemTaskLocks` -/
  | listStale (now : Int)
  | expireLock (staleLock : SystemTaskLock) (now : Int)
  /-- The query of `RecoverOrphanedRunningSystemTasks` -/
  | listRunning
  | recoverTask (candidate : SystemTask) (now : Int)

@[reducible]
def Answer : Op → Type
  | .getTimestamp => Int
  | .findPending .. => Option SystemTask
  | .createLock _ => Bool
  | .findLock _ => Option SystemTaskLock
  | .replaceLock .. => Option Bool
  | .startTask .. => Bool
  | .reload _ => Option SystemTask
  | .deleteLocks .. => Unit
  | .renewLock .. => Bool
  | .writeState .. => Bool
  | .countHeld .. => Bool
  | .lockExecution .. => Bool
  | .finish .. => Bool
  | .markFailed .. => Unit
  | .cancel .. => Option SystemTask × Bool
  | .listLocks .. => List SystemTaskLock
  | .cleanupLock .. => Unit
  | .listStale _ => List SystemTaskLock
  | .expireLock .. => Unit
  | .listRunning => List SystemTask
  | .recoverTask .. => Unit

def Shared.perform : (op : Op) → Shared → Shared × Answer op
  | .getTimestamp, shared => (shared, shared.clock)
  | .findPending id taskType, shared =>
    (shared, shared.tasks.rows.find? fun task =>
      task.id = id ∧ task.type = taskType ∧ task.status = .pending)
  | .createLock lock, shared =>
    match shared.locks.create lock with
    | some locks => ({ shared with locks }, true)
    | none => (shared, false)
  | .findLock type, shared => (shared, shared.locks.lookup type)
  | .replaceLock type taskID lockedBy now lockUntil, shared =>
    shared.replaceLock type taskID lockedBy now lockUntil
  | .startTask id taskType lockType taskID runnerID now, shared =>
    (shared.startTask id taskType lockType taskID runnerID now,
      shared.tasks.rows.any (shared.startable id taskType lockType taskID runnerID now))
  | .reload id, shared => (shared, shared.tasks.rows.find? fun task => task.id = id)
  | .deleteLocks taskID lockedBy, shared =>
    (shared.deleteLocksWhere fun lock => lock.taskID = taskID ∧ lock.lockedBy = lockedBy, ())
  | .renewLock taskID lockedBy lockUntil now, shared =>
    shared.renewLock taskID lockedBy lockUntil now
  | .writeState taskID lockedBy state now, shared => shared.writeState taskID lockedBy state now
  | .countHeld taskID lockedBy now, shared => (shared, shared.held taskID lockedBy now)
  | .lockExecution taskID lockedBy first second, shared =>
    (shared, shared.lockExecution taskID lockedBy first second)
  | .finish taskID lockedBy status terminal result errorMessage now, shared =>
    shared.finish taskID lockedBy status terminal result errorMessage now
  | .markFailed taskID lockedBy errorMessage, shared =>
    (shared.markFailed taskID lockedBy errorMessage, ())
  | .cancel taskID types errorMessage, shared => shared.cancel taskID types errorMessage
  | .listLocks lockType now, shared =>
    (shared, shared.locks.rows.filter fun lock => lock.type = lockType ∧ now ≤ lock.lockedUntil)
  | .cleanupLock candidate now, shared => (shared.cleanupLock candidate now, ())
  | .listStale now, shared => (shared, shared.locks.rows.filter fun lock => lock.lockedUntil < now)
  | .expireLock staleLock now, shared => (shared.expireLock staleLock now, ())
  | .listRunning, shared => (shared, shared.tasks.rows.filter fun task => task.status = .running)
  | .recoverTask candidate now, shared => (shared.recoverTask candidate now, ())

inductive Outcome where
  /-- No error, with what `ClaimSystemTask` has claimed -/
  | claimed (task : Option SystemTask)
  /-- No error -/
  | accepted
  /-- `ErrSystemTaskLockLost` -/
  | lockLost
  /-- What `CancelSystemTask` returns -/
  | cancelled (task : Option SystemTask) (done : Bool)
  /-- Another error -/
  | refused

abbrev Code (α : Type) := Program Answer α

abbrev run (op : Op) : Code (Answer op) := Program.perform op

def forEach {α : Type} (body : α → Code Unit) : List α → Code Unit
  | [] => pure ()
  | item :: items => do
      body item
      forEach body items

def markSystemTaskFailedForRunner (taskID lockedBy errorMessage : String) :
    Code Outcome := do
  let taskID := trimSpace taskID
  let lockedBy := trimSpace lockedBy
  if taskID = "" ∨ lockedBy = "" then return .refused
  let errorMessage := trimSpace errorMessage
  let errorMessage := if errorMessage = "" then "system task lease renewal failed" else errorMessage
  run (.markFailed taskID lockedBy errorMessage)
  return .accepted

def acquireSystemTaskLock (taskType taskID lockedBy : String)
    (now lockUntil : Int) : Code (Option Bool) := do
  let created ← run (.createLock
    { type := taskType, taskID, lockedBy, lockedUntil := lockUntil, updatedAt := now })
  if created then return some true
  match ← run (.findLock taskType) with
  | none => return none
  | some _ => run (.replaceLock taskType taskID lockedBy now lockUntil)

def claimSystemTask (id : Int) (taskType lockType runnerID : String)
    (lockUntil : Int) : Code Outcome := do
  let now ← run .getTimestamp
  match ← run (.findPending id taskType) with
  | none => return .claimed none
  | some task =>
    let lockType := if lockType = "" then taskType else lockType
    match ← acquireSystemTaskLock lockType task.taskID runnerID now lockUntil with
    | none => return .refused
    | some false => return .claimed none
    | some true =>
      let won ← run (.startTask id taskType lockType task.taskID runnerID now)
      if !won then
        run (.deleteLocks task.taskID runnerID)
        return .claimed none
      match ← run (.reload id) with
      | some task => return .claimed (some task)
      | none =>
        run (.deleteLocks task.taskID runnerID)
        let _ ← markSystemTaskFailedForRunner task.taskID runnerID "record not found"
        return .refused

def renewSystemTaskLock (taskID lockedBy : String) (lockUntil : Int) :
    Code Outcome := do
  let now ← run .getTimestamp
  if ← run (.renewLock taskID lockedBy lockUntil now) then return .accepted
  else return .lockLost

def updateSystemTaskState (taskID lockedBy state : String) : Code Outcome := do
  let now ← run .getTimestamp
  if ← run (.writeState taskID lockedBy state now) then return .accepted
  else if ← run (.countHeld taskID lockedBy now) then return .accepted
  else return .lockLost

def lockSystemTaskForExecution (taskID lockedBy : String) : Code Outcome := do
  let taskID := trimSpace taskID
  if taskID = "" then return .accepted
  let lockedBy := trimSpace lockedBy
  let first ← run .getTimestamp
  let second ← run .getTimestamp
  if ← run (.lockExecution taskID lockedBy first second) then return .accepted
  else return .lockLost

def finishSystemTask (taskID lockedBy : String) (status : SystemTaskStatus)
    (result errorMessage : String) : Code Outcome := do
  let taskID := trimSpace taskID
  let lockedBy := trimSpace lockedBy
  if taskID = "" ∨ lockedBy = "" then return .refused
  if terminal : status.isTerminal = true then
    let now ← run .getTimestamp
    if ← run (.finish taskID lockedBy status terminal result errorMessage
        now) then
      return .accepted
    else return .lockLost
  else return .refused

def normalizeSystemTaskLookupValues (values : List String) : List String :=
  ((values.map trimSpace).filter (· ≠ "")).eraseDups

def cancelSystemTask (taskID : String) (taskTypes : List String)
    (errorMessage : String) : Code Outcome := do
  let taskID := trimSpace taskID
  if taskID = "" then return .refused
  let errorMessage := if trimSpace errorMessage = "" then "task cancelled" else errorMessage
  let answer ← run (.cancel taskID (normalizeSystemTaskLookupValues taskTypes) errorMessage)
  return .cancelled answer.1 answer.2

def releaseSystemTaskLock (taskID lockedBy : String) : Code Outcome := do
  run (.deleteLocks taskID lockedBy)
  return .accepted

def cleanupInactiveSystemTaskLocks (lockType : String) (now : Int) :
    Code Outcome := do
  let lockType := trimSpace lockType
  if lockType = "" then return .refused
  let now ← if now ≤ 0 then run .getTimestamp else pure now
  let locks ← run (.listLocks lockType now)
  forEach (fun candidate => run (.cleanupLock candidate now)) locks
  return .accepted

def recoverOrphanedRunningSystemTasks (now : Int) : Code Outcome := do
  let runningTasks ← run .listRunning
  forEach (fun candidate => run (.recoverTask candidate now)) runningTasks
  return .accepted

def expireStaleSystemTaskLocks (now : Int) : Code Outcome := do
  let staleLocks ← run (.listStale now)
  forEach (fun staleLock => run (.expireLock staleLock now)) staleLocks
  recoverOrphanedRunningSystemTasks now

inductive Call where
  | claim (id : Int) (taskType lockType runnerID : String) (lockUntil : Int)
  | renew (taskID lockedBy : String) (lockUntil : Int)
  | updateState (taskID lockedBy state : String)
  | lockForExecution (taskID lockedBy : String)
  | finish (taskID lockedBy : String) (status : SystemTaskStatus) (result errorMessage : String)
  | cancel (taskID : String) (taskTypes : List String) (errorMessage : String)
  | markFailed (taskID lockedBy errorMessage : String)
  | release (taskID lockedBy : String)
  | cleanupInactive (lockType : String) (now : Int)
  | expireStale (now : Int)
  | recoverOrphaned (now : Int)
deriving DecidableEq

def Call.code : Call → Code Outcome
  | .claim id taskType lockType runnerID lockUntil =>
    claimSystemTask id taskType lockType runnerID lockUntil
  | .renew taskID lockedBy lockUntil => renewSystemTaskLock taskID lockedBy lockUntil
  | .updateState taskID lockedBy state => updateSystemTaskState taskID lockedBy state
  | .lockForExecution taskID lockedBy => lockSystemTaskForExecution taskID lockedBy
  | .finish taskID lockedBy status result errorMessage =>
    finishSystemTask taskID lockedBy status result errorMessage
  | .cancel taskID taskTypes errorMessage => cancelSystemTask taskID taskTypes errorMessage
  | .markFailed taskID lockedBy errorMessage =>
    markSystemTaskFailedForRunner taskID lockedBy errorMessage
  | .release taskID lockedBy => releaseSystemTaskLock taskID lockedBy
  | .cleanupInactive lockType now => cleanupInactiveSystemTaskLocks lockType now
  | .expireStale now => expireStaleSystemTaskLocks now
  | .recoverOrphaned now => recoverOrphanedRunningSystemTasks now

inductive Event where
  | elapse (seconds : Nat)
  /-- The insert of `CreateSystemTaskWithActiveKey` -/
  | submit (id : Int) (taskID taskType : String) (activeKey : Option String) (state : String)

def Shared.submit (shared : Shared) (task : SystemTask) : Shared :=
  if fresh : task.id ∉ shared.tasks.rows.map SystemTask.id then
    match created : shared.tasks.create task with
    | none => shared
    | some tasks =>
      { shared with
        tasks
        ids := by
          rw [KeyedTable.rows_create created, List.map_append, List.map_singleton]
          exact List.nodup_append.mpr ⟨shared.ids, List.nodup_singleton _, by
            intro first firstListed second secondListed same
            rw [List.mem_singleton] at secondListed
            rw [same, secondListed] at firstListed
            exact fresh firstListed⟩
        started := by
          intro start listed
          obtain ⟨old, found, notPending⟩ := shared.started start listed
          obtain ⟨absent, described⟩ := KeyedTable.lookup_create created
          refine ⟨old, ?_, notPending⟩
          rw [described, if_neg, found]
          rintro same
          rw [same, found] at absent
          cases absent }
  else shared

def Event.run : Event → Shared → Shared
  | .elapse seconds, shared => { shared with clock := shared.clock + seconds }
  | .submit id taskID type activeKey state, shared =>
    shared.submit { id, taskID, type, activeKey, state }

def machine : Machine Answer Call Event Shared Outcome where
  code := Call.code
  perform := Shared.perform
  outside := Event.run

def startConfig (shared : Shared) : Config Answer Call Shared Outcome where
  shared := shared
  threads := []

end NewApi.SystemTasks
