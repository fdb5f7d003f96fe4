import NewApi.Lib.BulkStatements
import NewApi.Lib.GoStrings
import NewApi.Lib.Interleaving

/-!
# System tasks and their locks

The tables `system_tasks` and `system_task_locks`, and the statements and
transactions that run against them.  A runner takes the lock of a type for one
task, then turns the task from pending to running; the lock expires unless it
is renewed.
-/

namespace NewApi.SystemTasks

open GoStrings Interleaving

inductive SystemTaskStatus where
  | pending
  | running
  | succeeded
  | failed
  | cancelled
deriving DecidableEq

def SystemTaskStatus.isTerminal : SystemTaskStatus → Bool
  | .pending | .running => false
  | .succeeded | .failed | .cancelled => true

structure SystemTask where
  id : Int
  taskID : String
  type : String
  status : SystemTaskStatus := .pending
  activeKey : Option String := none
  state : String := ""
  result : String := ""
  error : String := ""
  lockedBy : String := ""
  updatedAt : Int := 0
deriving DecidableEq

structure SystemTaskLock where
  type : String
  taskID : String
  lockedBy : String
  lockedUntil : Int
  updatedAt : Int := 0
deriving DecidableEq

structure SystemTaskStart where
  lockType : String
  taskID : String
  runnerID : String
deriving DecidableEq

/-- An assignment to the columns of a task.  It keeps the keys, and no task
becomes pending by it. -/
structure TaskChange where
  apply : SystemTask → SystemTask
  id : ∀ task, (apply task).id = task.id
  taskID : ∀ task, (apply task).taskID = task.taskID
  status : ∀ task, (apply task).status = .pending → task.status = .pending

namespace TaskChange

def ends (status : SystemTaskStatus) (terminal : status.isTerminal = true)
    (message : String) (now : Int) : TaskChange where
  apply task := { task with status, activeKey := none, error := message, updatedAt := now }
  id _ := rfl
  taskID _ := rfl
  status task isPending := by
    simp only at isPending
    rw [isPending] at terminal
    cases terminal

def finishes (status : SystemTaskStatus) (terminal : status.isTerminal = true)
    (result message : String) (now : Int) : TaskChange where
  apply task :=
    { task with
      status
      activeKey := none
      result
      error := message
      updatedAt := now }
  id _ := rfl
  taskID _ := rfl
  status task isPending := by
    simp only at isPending
    rw [isPending] at terminal
    cases terminal

def starts (runnerID : String) (now : Int) : TaskChange where
  apply task := { task with status := .running, lockedBy := runnerID, updatedAt := now }
  id _ := rfl
  taskID _ := rfl
  status _ := nofun

def writesState (state : String) (now : Int) : TaskChange where
  apply task := { task with state, updatedAt := now }
  id _ := rfl
  taskID _ := rfl
  status _ isPending := isPending

def writesResult (result : String) (now : Int) : TaskChange where
  apply task := { task with result, updatedAt := now }
  id _ := rfl
  taskID _ := rfl
  status _ isPending := isPending

end TaskChange

structure Shared where
  clock : Int
  /-- `RowsAffected` counts the rows whose values change, as MySQL has it, not
  those that are matched. -/
  countsChanged : Bool
  tasks : KeyedTable SystemTask.taskID
  locks : KeyedTable SystemTaskLock.type
  ids : (tasks.rows.map SystemTask.id).Nodup
  /-- History: the tasks that were started.  No step reads it. -/
  starts : List SystemTaskStart := []
  started : ∀ start ∈ starts, ∃ task, tasks.lookup start.taskID = some task ∧ task.status ≠ .pending

namespace Shared

theorem ids_update (shared : Shared) (test : SystemTask → Bool) (change : TaskChange) :
    ((shared.tasks.update test change.apply change.taskID).rows.map SystemTask.id).Nodup := by
  have sameIds : (shared.tasks.update test change.apply change.taskID).rows.map
      SystemTask.id = shared.tasks.rows.map SystemTask.id := by
    simp only [KeyedTable.update, List.map_map]
    refine List.map_congr_left ?_
    intro task _
    simp only [Function.comp_apply]
    split
    · exact change.id task
    · rfl
  rw [sameIds]
  exact shared.ids

theorem started_update (shared : Shared) (test : SystemTask → Bool)
    (change : TaskChange) {taskID : String}
    (started : ∃ task, shared.tasks.lookup taskID = some task ∧ task.status ≠ .pending) :
    ∃ task, (shared.tasks.update test change.apply change.taskID).lookup
      taskID = some task ∧ task.status ≠ .pending := by
  obtain ⟨task, found, notPending⟩ := started
  rw [KeyedTable.lookup_update, found]
  refine ⟨_, rfl, ?_⟩
  by_cases passes : test task = true
  · simp only [passes, if_true]
    exact fun isPending => notPending (change.status task isPending)
  · simp only [passes]
    exact notPending

def updateTasks (shared : Shared) (test : SystemTask → Bool) (change : TaskChange) : Shared :=
  { shared with
    tasks := shared.tasks.update test change.apply change.taskID
    ids := shared.ids_update test change
    started := fun start listed => shared.started_update test change (shared.started start listed) }

def deleteLocksWhere (shared : Shared) (test : SystemTaskLock → Bool) :
    Shared :=
  { shared with locks := shared.locks.deleteWhere test }

def hasLock (shared : Shared) (taskID lockedBy : String) (now : Int) : Bool :=
  shared.locks.rows.any fun lock =>
    lock.taskID = taskID ∧ lock.lockedBy = lockedBy ∧ now ≤ lock.lockedUntil

def held (shared : Shared) (taskID lockedBy : String) (now : Int) : Bool :=
  (shared.tasks.rows.any fun task =>
      task.taskID = taskID ∧ task.status = .running ∧ task.lockedBy = lockedBy) &&
    shared.hasLock taskID lockedBy now

def markSystemTaskLeaseExpired (shared : Shared) (taskID : String) : Shared :=
  shared.updateTasks
    (fun task => task.taskID = taskID ∧ task.status = .running)
    (.ends .failed rfl "task lease expired" shared.clock)

/-- The transaction of `acquireSystemTaskLock`; nothing is returned when there
is no lock of the type. -/
def replaceLock (shared : Shared) (type taskID lockedBy : String)
    (now lockUntil : Int) : Shared × Option Bool :=
  match shared.locks.lookup type with
  | none => (shared, none)
  | some current =>
    let existingTask := shared.tasks.lookup current.taskID
    if now ≤ current.lockedUntil ∧ existingTask.any (fun task =>
        task.status = .running ∨
          (task.status = .pending ∧ trimSpace task.lockedBy ≠ "")) = true then
      (shared, some false)
    else
      -- The old run ends in the transaction that replaces its lock.
      let expired :=
        if current.lockedUntil < now ∧ existingTask.any (fun task =>
            task.status = .running) = true then
          shared.markSystemTaskLeaseExpired current.taskID
        else shared
      let lock : SystemTaskLock :=
        { type := current.type, taskID, lockedBy, lockedUntil := lockUntil, updatedAt := now }
      if shared.countsChanged ∧ lock = current then (expired, some false)
      else ({ expired with locks := shared.locks.save lock }, some true)

def startable (shared : Shared) (id : Int)
    (taskType lockType taskID runnerID : String) (now : Int) (task : SystemTask) : Bool :=
  task.id = id ∧ task.type = taskType ∧ task.status = .pending ∧
    shared.locks.rows.any (fun lock =>
      lock.type = lockType ∧ lock.taskID = taskID ∧
        lock.lockedBy = runnerID ∧ now ≤ lock.lockedUntil) = true

def startTask (shared : Shared) (id : Int)
    (taskType lockType taskID runnerID : String) (now : Int) : Shared :=
  let test := shared.startable id taskType lockType taskID runnerID now
  { shared with
    tasks := shared.tasks.update test (TaskChange.starts runnerID now).apply
      (TaskChange.starts runnerID now).taskID
    ids := shared.ids_update test (.starts runnerID now)
    starts := shared.starts ++ (shared.tasks.rows.filter test).map fun task =>
      { lockType, taskID := task.taskID, runnerID }
    started := by
      intro start listed
      rcases List.mem_append.mp listed with earlier | now_
      · exact shared.started_update test _ (shared.started start earlier)
      obtain ⟨task, passes, rfl⟩ := List.mem_map.mp now_
      obtain ⟨member, passed⟩ := List.mem_filter.mp passes
      have found : shared.tasks.lookup task.taskID = some task :=
        KeyedTable.lookup_eq_some_iff.mpr ⟨member, rfl⟩
      refine ⟨(TaskChange.starts runnerID now).apply task, ?_, nofun⟩
      rw [KeyedTable.lookup_update, found, Option.map_some, if_pos passed] }

def renewable (shared : Shared) (taskID lockedBy : String) (now : Int)
    (lock : SystemTaskLock) : Bool :=
  lock.taskID = taskID ∧ lock.lockedBy = lockedBy ∧ now ≤ lock.lockedUntil ∧
    shared.tasks.rows.any (fun task =>
      task.taskID = lock.taskID ∧ task.lockedBy = lockedBy ∧ task.status = .running) = true

def renewLock (shared : Shared) (taskID lockedBy : String) (lockUntil now : Int) : Shared × Bool :=
  let test := shared.renewable taskID lockedBy now
  let change := fun lock : SystemTaskLock =>
    { lock with lockedUntil := lockUntil, updatedAt := now }
  ({ shared with locks := shared.locks.update test change fun _ => rfl },
    shared.locks.rows.any fun lock =>
      test lock = true ∧ (shared.countsChanged = true → change lock ≠ lock))

def writeState (shared : Shared) (taskID lockedBy state : String) (now : Int) :
    Shared × Bool :=
  let test := fun task : SystemTask =>
    task.taskID = taskID ∧ task.status = .running ∧
      task.lockedBy = lockedBy ∧ shared.hasLock taskID lockedBy now = true
  (shared.updateTasks (fun task => test task) (.writesState state now),
    shared.tasks.rows.any fun task =>
      test task ∧ (shared.countsChanged = true →
        (TaskChange.writesState state now).apply task ≠ task))

/-- The query of `LockSystemTaskForExecution`, which reads the clock twice.
On SQLite the write that follows finds the same row. -/
def lockExecution (shared : Shared) (taskID lockedBy : String) (first second : Int) : Bool :=
  shared.tasks.rows.any fun task =>
    task.taskID = taskID ∧ task.status = .running ∧
      (lockedBy ≠ "" → task.lockedBy = lockedBy) ∧
      shared.locks.rows.any (fun lock =>
        lock.taskID = task.taskID ∧ first ≤ lock.lockedUntil) = true ∧
      (lockedBy ≠ "" → shared.hasLock task.taskID lockedBy second = true)

def finish (shared : Shared) (taskID lockedBy : String)
    (status : SystemTaskStatus) (terminal : status.isTerminal = true)
    (result errorMessage : String) (now : Int) : Shared × Bool :=
  match shared.tasks.lookup taskID with
  | none => (shared, false)
  | some task =>
    if task.lockedBy = lockedBy ∧ task.status.isTerminal = true then
      -- A cancelled task gets the result of the run that was cancelled.
      let answered :=
        if task.status = .cancelled ∧ result ≠ "" ∧
            trimSpace task.result = "" then
          shared.updateTasks (fun other => other.id = task.id) (.writesResult result now)
        else shared
      (answered.deleteLocksWhere fun lock => lock.taskID = taskID ∧ lock.lockedBy = lockedBy, true)
    else if task.status ≠ .running ∨ task.lockedBy ≠ lockedBy then (shared, false)
    else if shared.hasLock taskID lockedBy now = false then (shared, false)
    else
      ((shared.updateTasks
          (fun other => other.id = task.id ∧ other.status = .running ∧ other.lockedBy = lockedBy)
          (.finishes status terminal result errorMessage now)).deleteLocksWhere
        fun lock => lock.taskID = taskID ∧ lock.lockedBy = lockedBy, true)

def markFailed (shared : Shared) (taskID lockedBy errorMessage : String) :
    Shared :=
  match shared.tasks.lookup taskID with
  | none => shared
  | some task =>
    if task.status ≠ .running ∨ task.lockedBy ≠ lockedBy then shared
    else
      (shared.updateTasks
          (fun other => other.id = task.id ∧ other.status = .running ∧ other.lockedBy = lockedBy)
          (.ends .failed rfl errorMessage shared.clock)).deleteLocksWhere
        fun lock => lock.taskID = task.taskID ∧ lock.lockedBy = lockedBy

def cancel (shared : Shared) (taskID : String) (types : List String)
    (errorMessage : String) : Shared × Option SystemTask × Bool :=
  match (shared.tasks.lookup taskID).filter fun task => types = [] ∨ task.type ∈ types with
  | none => (shared, none, false)
  | some task =>
    let noLocks := fun lock : SystemTaskLock => decide (lock.taskID = task.taskID)
    if task.status ≠ .pending ∧ task.status ≠ .running then
      (shared.deleteLocksWhere noLocks, some task, false)
    else
      let cancelled := shared.updateTasks
        (fun other => other.id = task.id ∧ (other.status = .pending ∨ other.status = .running))
        (.ends .cancelled rfl errorMessage shared.clock)
      (cancelled.deleteLocksWhere noLocks,
        cancelled.tasks.rows.find? (fun other => other.id = task.id), true)

def cleanupLock (shared : Shared) (candidate : SystemTaskLock) (now : Int) :
    Shared :=
  if (shared.tasks.lookup candidate.taskID).any (fun task =>
      task.status = .pending ∨ task.status = .running) = true then shared
  else
    shared.deleteLocksWhere fun lock =>
      lock.type = candidate.type ∧ lock.taskID = candidate.taskID ∧
        lock.lockedBy = candidate.lockedBy ∧ now ≤ lock.lockedUntil

def expireLock (shared : Shared) (staleLock : SystemTaskLock) (now : Int) :
    Shared :=
  match shared.locks.rows.find? fun lock =>
      lock.type = staleLock.type ∧ lock.taskID = staleLock.taskID ∧
        lock.lockedBy = staleLock.lockedBy ∧ lock.lockedUntil < now with
  | none => shared
  | some currentLock =>
    let deleted := shared.deleteLocksWhere fun lock => lock.type = currentLock.type
    if (shared.tasks.lookup staleLock.taskID).any (fun task =>
        task.status = .running ∧ task.lockedBy = currentLock.lockedBy) = true then
      deleted.markSystemTaskLeaseExpired staleLock.taskID
    else deleted

def recoverTask (shared : Shared) (candidate : SystemTask) (now : Int) :
    Shared :=
  match shared.tasks.rows.find? fun task => task.id = candidate.id ∧ task.status = .running with
  | none => shared
  | some task =>
    if shared.hasLock task.taskID task.lockedBy now then shared
    else
      shared.updateTasks
        (fun other => other.id = task.id ∧ other.status = .running ∧ other.lockedBy = task.lockedBy)
        (.ends .failed rfl "task lease missing" shared.clock)

end Shared

end NewApi.SystemTasks
