import NewApi.SystemTasks.TaskCalls

/-!
# Steps of the system tasks

What one operation can do: a task only goes forward, it starts under a lock of
its runner, and a lock is taken away only when its task has ended, was never
started, or has lost all locks of the runner.
-/

namespace NewApi.SystemTasks

open Interleaving KeyedTable

/-! ## Tasks that go on -/

structure SystemTask.Keeps (task next : SystemTask) : Prop where
  id : next.id = task.id
  status : next.status = task.status ∨
    (task.status.isTerminal = false ∧ next.status.isTerminal = true)
  lockedBy : next.status = .running → next.lockedBy = task.lockedBy

namespace SystemTask.Keeps

theorem refl (task : SystemTask) : task.Keeps task where
  id := rfl
  status := Or.inl rfl
  lockedBy _ := rfl

theorem running {task next : SystemTask} (keeps : task.Keeps next)
    (isRunning : next.status = .running) : task.status = .running := by
  rcases keeps.status with same | ⟨-, terminal⟩
  · rw [← same]
    exact isRunning
  · rw [isRunning] at terminal
    cases terminal

theorem trans {first second third : SystemTask} (before : first.Keeps second)
    (after : second.Keeps third) : first.Keeps third where
  id := after.id.trans before.id
  status := by
    rcases after.status with same | ⟨active, terminal⟩
    · rw [same]
      exact before.status
    · rcases before.status with sameBefore | ⟨-, ended⟩
      · exact Or.inr ⟨sameBefore ▸ active, terminal⟩
      · rw [active] at ended
        cases ended
  lockedBy isRunning := (after.lockedBy isRunning).trans (before.lockedBy (after.running isRunning))

end SystemTask.Keeps

variable {task : SystemTask}

section

variable {status : SystemTaskStatus} {terminal : status.isTerminal = true} {now : Int}
  (active : task.status.isTerminal = false)
include active

theorem TaskChange.keeps_ends {message : String} :
    task.Keeps ((TaskChange.ends status terminal message now).apply task) where
  id := rfl
  status := Or.inr ⟨active, terminal⟩
  lockedBy _ := rfl

theorem TaskChange.keeps_finishes {result message : String} :
    task.Keeps ((TaskChange.finishes status terminal result message now).apply task) where
  id := rfl
  status := Or.inr ⟨active, terminal⟩
  lockedBy _ := rfl

end

namespace Shared

structure Settles (shared next : Shared) : Prop where
  starts : next.starts = shared.starts
  found : ∀ {taskID task}, shared.tasks.lookup taskID = some task →
    ∃ later, next.tasks.lookup taskID = some later ∧ task.Keeps later
  absent : ∀ {taskID}, shared.tasks.lookup taskID = none → next.tasks.lookup taskID = none

theorem Settles.of_tasks {shared next : Shared}
    (starts : next.starts = shared.starts) (tasks : next.tasks = shared.tasks) :
    shared.Settles next where
  starts := starts
  found := by
    intro taskID task found
    rw [tasks]
    exact ⟨task, found, .refl task⟩
  absent := by
    intro taskID absent
    rw [tasks]
    exact absent

theorem Settles.trans {first second third : Shared}
    (before : first.Settles second) (after : second.Settles third) :
    first.Settles third where
  starts := after.starts.trans before.starts
  found := by
    intro taskID task found
    obtain ⟨middle, middleFound, beforeKeeps⟩ := before.found found
    obtain ⟨later, laterFound, afterKeeps⟩ := after.found middleFound
    exact ⟨later, laterFound, beforeKeeps.trans afterKeeps⟩
  absent absent := after.absent (before.absent absent)

theorem Settles.before {shared next : Shared} (settles : shared.Settles next)
    {taskID : String} {later : SystemTask} (found : next.tasks.lookup taskID = some later) :
    ∃ task, shared.tasks.lookup taskID = some task ∧ task.Keeps later := by
  cases before : shared.tasks.lookup taskID with
  | none =>
    rw [settles.absent before] at found
    cases found
  | some task =>
    obtain ⟨other, otherFound, keeps⟩ := settles.found before
    rw [found] at otherFound
    cases otherFound
    exact ⟨task, rfl, keeps⟩

section

variable (shared : Shared)
include shared

theorem settles_updateTasks {test : SystemTask → Bool} {change : TaskChange}
    (keeps : ∀ task, test task = true → task.Keeps (change.apply task)) :
    shared.Settles (shared.updateTasks test change) where
  starts := rfl
  found := by
    intro taskID task found
    simp only [updateTasks, lookup_update, found, Option.map_some]
    refine ⟨_, rfl, ?_⟩
    by_cases passes : test task = true
    · simp only [passes, if_true]
      exact keeps task passes
    · simp only [passes]
      exact .refl task
  absent := by
    intro taskID absent
    simp only [updateTasks, lookup_update, absent, Option.map_none]

theorem settles_markSystemTaskLeaseExpired (taskID : String) :
    shared.Settles (shared.markSystemTaskLeaseExpired taskID) := by
  refine shared.settles_updateTasks ?_
  intro task passes
  refine TaskChange.keeps_ends ?_
  rw [(of_decide_eq_true passes).2]
  rfl

theorem settles_replaceLock (type taskID lockedBy : String) (now lockUntil : Int) :
    shared.Settles (shared.replaceLock type taskID lockedBy now lockUntil).1 := by
  have same : shared.Settles shared := .of_tasks rfl rfl
  unfold replaceLock
  split
  · exact same
  case h_2 current stored =>
    dsimp only
    split
    · exact same
    have expired : shared.Settles
        (if current.lockedUntil < now ∧ (shared.tasks.lookup
            current.taskID).any (fun task => task.status = .running) = true then
          shared.markSystemTaskLeaseExpired current.taskID
        else shared) := by
      split
      · exact shared.settles_markSystemTaskLeaseExpired _
      · exact same
    split
    · exact expired
    · exact expired.trans (.of_tasks rfl rfl)

theorem settles_finish (taskID lockedBy : String) (status : SystemTaskStatus)
    (terminal : status.isTerminal = true) (result errorMessage : String) (now : Int) :
    shared.Settles (shared.finish taskID lockedBy status terminal result errorMessage now).1 := by
  have same : shared.Settles shared := .of_tasks rfl rfl
  unfold finish
  split
  · exact same
  split
  · have answered : ∀ test, shared.Settles
        (shared.updateTasks test (.writesResult result now)) := fun _ =>
      shared.settles_updateTasks fun task _ => ⟨rfl, Or.inl rfl, fun _ => rfl⟩
    split
    · exact (answered _).trans (.of_tasks rfl rfl)
    · exact .of_tasks rfl rfl
  split
  · exact same
  split
  · exact same
  · refine Settles.trans (shared.settles_updateTasks ?_) (.of_tasks rfl rfl)
    intro task passes
    refine TaskChange.keeps_finishes ?_
    rw [(of_decide_eq_true passes).2.1]
    rfl

theorem settles_markFailed (taskID lockedBy errorMessage : String) :
    shared.Settles (shared.markFailed taskID lockedBy errorMessage) := by
  have same : shared.Settles shared := .of_tasks rfl rfl
  unfold markFailed
  split
  · exact same
  split
  · exact same
  · refine Settles.trans (shared.settles_updateTasks ?_) (.of_tasks rfl rfl)
    intro task passes
    refine TaskChange.keeps_ends ?_
    rw [(of_decide_eq_true passes).2.1]
    rfl

theorem settles_cancel (taskID : String) (types : List String) (errorMessage : String) :
    shared.Settles (shared.cancel taskID types errorMessage).1 := by
  unfold cancel
  split
  · exact .of_tasks rfl rfl
  split
  · exact .of_tasks rfl rfl
  refine Settles.trans (shared.settles_updateTasks ?_) (.of_tasks rfl rfl)
  intro task passes
  refine TaskChange.keeps_ends ?_
  rcases (of_decide_eq_true passes).2 with isPending | isRunning
  · rw [isPending]
    rfl
  · rw [isRunning]
    rfl

theorem settles_expireLock (staleLock : SystemTaskLock) (now : Int) :
    shared.Settles (shared.expireLock staleLock now) := by
  unfold expireLock
  split
  · exact .of_tasks rfl rfl
  case h_2 currentLock located =>
    split
    · have expired := settles_markSystemTaskLeaseExpired
        (shared.deleteLocksWhere fun lock => lock.type = currentLock.type)
        staleLock.taskID
      exact ⟨expired.starts, expired.found, expired.absent⟩
    · exact .of_tasks rfl rfl

theorem settles_recoverTask (candidate : SystemTask) (now : Int) :
    shared.Settles (shared.recoverTask candidate now) := by
  unfold recoverTask
  split
  · exact .of_tasks rfl rfl
  split
  · exact .of_tasks rfl rfl
  · refine shared.settles_updateTasks ?_
    intro task passes
    refine TaskChange.keeps_ends ?_
    rw [(of_decide_eq_true passes).2.1]
    rfl

end

end Shared

def Op.isStart : Op → Bool
  | .startTask .. => true
  | _ => false

namespace Shared

theorem settles_perform (op : Op) (shared : Shared)
    (other : op.isStart = false) : shared.Settles (shared.perform op).1 := by
  cases op with
  | startTask id taskType lockType taskID runnerID now => cases other
  | createLock lock =>
    simp only [Shared.perform]
    split
    · exact .of_tasks rfl rfl
    · exact .of_tasks rfl rfl
  | replaceLock type taskID lockedBy now lockUntil =>
    exact shared.settles_replaceLock type taskID lockedBy now lockUntil
  | writeState taskID lockedBy state now =>
    exact shared.settles_updateTasks fun task _ => ⟨rfl, Or.inl rfl, fun _ => rfl⟩
  | finish taskID lockedBy status terminal result errorMessage now =>
    exact shared.settles_finish taskID lockedBy status terminal result errorMessage now
  | markFailed taskID lockedBy errorMessage =>
    exact shared.settles_markFailed taskID lockedBy errorMessage
  | cancel taskID types errorMessage => exact shared.settles_cancel taskID types errorMessage
  | cleanupLock candidate now =>
    simp only [Shared.perform, cleanupLock]
    split
    · exact .of_tasks rfl rfl
    · exact .of_tasks rfl rfl
  | expireLock staleLock now => exact shared.settles_expireLock staleLock now
  | recoverTask candidate now => exact shared.settles_recoverTask candidate now
  | getTimestamp | findPending | findLock | reload | deleteLocks | renewLock
  | countHeld | lockExecution | listLocks | listStale | listRunning => exact .of_tasks rfl rfl

end Shared

structure SystemTask.Advances (task later : SystemTask) : Prop where
  id : later.id = task.id
  status : later.status = task.status ∨
    (task.status = .pending ∧ later.status = .running) ∨
    (task.status.isTerminal = false ∧ later.status.isTerminal = true)

theorem SystemTask.Keeps.advances {later : SystemTask} (keeps : task.Keeps later) :
    task.Advances later where
  id := keeps.id
  status := keeps.status.imp (fun same => same) Or.inr

theorem SystemTask.Advances.trans {first second third : SystemTask}
    (before : first.Advances second) (after : second.Advances third) :
    first.Advances third where
  id := after.id.trans before.id
  status := by
    rcases before.status with same | ⟨isPending, isRunning⟩ | ⟨active, ended⟩
    · rw [← same]
      exact after.status
    · rcases after.status with same | ⟨again, -⟩ | ⟨-, ended⟩
      · exact Or.inr (Or.inl ⟨isPending, same.trans isRunning⟩)
      · rw [isRunning] at again
        cases again
      · exact Or.inr (Or.inr ⟨by rw [isPending]; rfl, ended⟩)
    · rcases after.status with same | ⟨again, -⟩ | ⟨again, -⟩
      · exact Or.inr (Or.inr ⟨active, by rw [same]; exact ended⟩)
      · rw [again] at ended
        cases ended
      · rw [ended] at again
        cases again

def Shared.Persists (shared later : Shared) : Prop :=
  ∀ ⦃taskID task⦄, shared.tasks.lookup taskID = some task →
    ∃ next, later.tasks.lookup taskID = some next ∧ task.Advances next

theorem Shared.Persists.refl (shared : Shared) : shared.Persists shared :=
  fun _ _ found => ⟨_, found, (SystemTask.Keeps.refl _).advances⟩

theorem Shared.Persists.trans {first second third : Shared}
    (before : first.Persists second) (after : second.Persists third) :
    first.Persists third := by
  intro taskID task found
  obtain ⟨middle, middleFound, beforeAdvances⟩ := before found
  obtain ⟨later, laterFound, afterAdvances⟩ := after middleFound
  exact ⟨later, laterFound, beforeAdvances.trans afterAdvances⟩

theorem Shared.Settles.persists {shared next : Shared}
    (settles : shared.Settles next) : shared.Persists next := by
  intro taskID task found
  obtain ⟨later, laterFound, keeps⟩ := settles.found found
  exact ⟨later, laterFound, keeps.advances⟩

namespace Shared

theorem lookup_startTask (shared : Shared) (id : Int)
    (taskType lockType taskID runnerID : String) (now : Int) (other : String) :
    (shared.startTask id taskType lockType taskID runnerID now).tasks.lookup other =
      (shared.tasks.lookup other).map fun task =>
        if shared.startable id taskType lockType taskID runnerID now task then
          (TaskChange.starts runnerID now).apply task
        else task := by
  simp only [startTask, lookup_update]

theorem persists_startTask (shared : Shared) (id : Int)
    (taskType lockType taskID runnerID : String) (now : Int) :
    shared.Persists (shared.startTask id taskType lockType taskID runnerID now) := by
  intro other task found
  rw [lookup_startTask, found]
  refine ⟨_, rfl, ?_⟩
  by_cases passes : shared.startable id taskType lockType taskID runnerID now task = true
  · simp only [passes, if_true]
    have isPending := (of_decide_eq_true passes).2.2.1
    exact ⟨rfl, Or.inr (Or.inl ⟨isPending, rfl⟩)⟩
  · simp only [passes]
    exact (SystemTask.Keeps.refl task).advances

theorem persists_perform (op : Op) (shared : Shared) : shared.Persists (shared.perform op).1 := by
  cases op with
  | startTask id taskType lockType taskID runnerID now =>
    exact shared.persists_startTask id taskType lockType taskID runnerID now
  | _ => exact (shared.settles_perform _ rfl).persists

/-- A running task was running before, or it has just been started under a
lock of its runner. -/
def StartsHeld (shared next : Shared) : Prop :=
  ∀ taskID later, next.tasks.lookup taskID = some later →
    later.status = .running →
      (∃ task, shared.tasks.lookup taskID = some task ∧
        task.status = .running ∧ later.lockedBy = task.lockedBy ∧
        ∀ start ∈ next.starts, start.taskID = taskID → start ∈ shared.starts) ∨
      ∀ start ∈ next.starts, start.taskID = taskID →
        ∃ lock ∈ shared.locks.rows, lock.type = start.lockType ∧
          lock.taskID = taskID ∧ lock.lockedBy = start.runnerID

theorem Settles.startsHeld {shared next : Shared}
    (settles : shared.Settles next) : shared.StartsHeld next := by
  intro taskID later found isRunning
  obtain ⟨task, taskFound, keeps⟩ := settles.before found
  refine Or.inl ⟨task, taskFound, keeps.running isRunning, keeps.lockedBy isRunning, ?_⟩
  intro start listed _
  rw [settles.starts] at listed
  exact listed

def Reads (shared : Shared) : Op → Prop
  | .startTask id _ _ taskID _ _ => ∃ task, shared.tasks.lookup taskID = some task ∧ task.id = id
  | _ => True

theorem Persists.reads {shared later : Shared} (persists : shared.Persists later)
    {op : Op} (reads : shared.Reads op) : later.Reads op := by
  cases op with
  | startTask id taskType lockType taskID runnerID now =>
    obtain ⟨task, found, isRead⟩ := reads
    obtain ⟨next, nextFound, advances⟩ := persists found
    exact ⟨next, nextFound, advances.id.trans isRead⟩
  | _ => trivial

theorem startsHeld_startTask (shared : Shared) {id : Int}
    {taskType lockType taskID runnerID : String} {now : Int}
    (reads : shared.Reads (.startTask id taskType lockType taskID runnerID now)) :
    shared.StartsHeld (shared.startTask id taskType lockType taskID runnerID now) := by
  intro other later found isRunning
  rw [lookup_startTask] at found
  obtain ⟨task, taskFound, rfl⟩ := Option.map_eq_some_iff.mp found
  by_cases passes : shared.startable id taskType lockType taskID runnerID now task = true
  · right
    have isPending := (of_decide_eq_true passes).2.2.1
    intro start listed ofTask
    rcases List.mem_append.mp listed with earlier | starting
    · obtain ⟨stored, storedFound, notPending⟩ := shared.started start earlier
      rw [ofTask, taskFound] at storedFound
      cases storedFound
      exact absurd isPending notPending
    · obtain ⟨row, passing, rfl⟩ := List.mem_map.mp starting
      obtain ⟨rowMember, rowPasses⟩ := List.mem_filter.mp passing
      obtain ⟨isId, -, -, locked⟩ := of_decide_eq_true rowPasses
      obtain ⟨lock, listedLock, matchesLock⟩ := List.any_eq_true.mp locked
      obtain ⟨ofType, lockTask, ofRunner, -⟩ := of_decide_eq_true matchesLock
      obtain ⟨known, knownFound, isKnown⟩ := reads
      obtain ⟨knownMember, knownKey⟩ := lookup_eq_some_iff.mp knownFound
      have sameRow : row = known := List.inj_on_of_nodup_map shared.ids rowMember
        knownMember (isId.trans isKnown.symm)
      have sameTask : lock.taskID = other := by
        rw [lockTask, ← knownKey, ← sameRow]
        exact ofTask
      exact ⟨lock, listedLock, ofType, sameTask, ofRunner⟩
  · left
    simp only [passes] at isRunning ⊢
    refine ⟨task, taskFound, isRunning, rfl, ?_⟩
    intro start listed ofTask
    rcases List.mem_append.mp listed with earlier | starting
    · exact earlier
    obtain ⟨row, passing, rfl⟩ := List.mem_map.mp starting
    obtain ⟨rowMember, rowPasses⟩ := List.mem_filter.mp passing
    have rowFound : shared.tasks.lookup other = some row :=
      lookup_eq_some_iff.mpr ⟨rowMember, ofTask⟩
    rw [taskFound] at rowFound
    cases rowFound
    exact absurd rowPasses passes

theorem startsHeld_perform (op : Op) (shared : Shared)
    (reads : shared.Reads op) : shared.StartsHeld (shared.perform op).1 := by
  cases op with
  | startTask id taskType lockType taskID runnerID now => exact shared.startsHeld_startTask reads
  | _ => exact (shared.settles_perform _ rfl).startsHeld

end Shared

end NewApi.SystemTasks
