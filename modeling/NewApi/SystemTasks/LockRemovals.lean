import NewApi.SystemTasks.LockSteps

/-!
# Locks that are taken away

A lock of a runner for a task leaves the table only in a step after which the
task does not run under the runner, or together with all locks of the runner
for the task.
-/

namespace NewApi.SystemTasks

open Interleaving KeyedTable

def SystemTaskLock.IsOf (lock : SystemTaskLock) (taskID lockedBy : String) :
    Prop :=
  lock.taskID = taskID ∧ lock.lockedBy = lockedBy

instance (lock : SystemTaskLock) (taskID lockedBy : String) :
    Decidable (lock.IsOf taskID lockedBy) :=
  inferInstanceAs (Decidable (_ ∧ _))

namespace Shared

def Runs (shared : Shared) (taskID lockedBy : String) : Prop :=
  ∃ task, shared.tasks.lookup taskID = some task ∧ task.status = .running ∧ task.lockedBy = lockedBy

def NoLock (shared : Shared) (taskID lockedBy : String) : Prop :=
  ∀ lock ∈ shared.locks.rows, ¬ lock.IsOf taskID lockedBy

def Releases (shared next : Shared) : Prop :=
  ∀ lock ∈ shared.locks.rows,
    (∃ kept ∈ next.locks.rows, kept.type = lock.type ∧ kept.IsOf lock.taskID lock.lockedBy) ∨
    ¬ next.Runs lock.taskID lock.lockedBy ∨
    next.NoLock lock.taskID lock.lockedBy

variable {shared : Shared}

theorem releases_of_subset {next : Shared}
    (subset : ∀ lock ∈ shared.locks.rows, lock ∈ next.locks.rows) :
    shared.Releases next :=
  fun lock listed => Or.inl ⟨lock, subset lock listed, rfl, rfl, rfl⟩

theorem releases_of_delete {next : Shared} {test : SystemTaskLock → Bool}
    (deleted : next.locks = shared.locks.deleteWhere test)
    (accounts : ∀ lock ∈ shared.locks.rows, test lock = true →
      ¬ next.Runs lock.taskID lock.lockedBy ∨ next.NoLock lock.taskID lock.lockedBy) :
    shared.Releases next := by
  intro lock listed
  by_cases passes : test lock = true
  · exact Or.inr (accounts lock listed passes)
  · refine Or.inl ⟨lock, ?_, rfl, rfl, rfl⟩
    rw [deleted]
    exact List.mem_filter.mpr ⟨listed, by simpa using passes⟩

section

variable {taskID lockedBy : String} {task : SystemTask}
  (found : shared.tasks.lookup taskID = some task)
include found

theorem not_runs_of_ended {test : SystemTask → Bool} {change : TaskChange}
    (passes : test task = true) (ended : (change.apply task).status.isTerminal = true) :
    ¬ (shared.updateTasks test change).Runs taskID lockedBy := by
  rintro ⟨later, laterFound, isRunning, -⟩
  simp only [updateTasks, lookup_update, found, Option.map_some,
    passes, if_true, Option.some.injEq] at laterFound
  rw [laterFound, isRunning] at ended
  cases ended

theorem not_runs_of_terminal (notRunning : task.status ≠ .running) :
    ¬ shared.Runs taskID lockedBy := by
  rintro ⟨later, laterFound, isRunning, -⟩
  rw [found] at laterFound
  cases laterFound
  exact notRunning isRunning

end

theorem releases_renewLock (shared : Shared) (taskID lockedBy : String) (lockUntil now : Int) :
    shared.Releases (shared.renewLock taskID lockedBy lockUntil now).1 := by
  intro lock listed
  left
  refine ⟨_, List.mem_map.mpr ⟨lock, listed, rfl⟩, ?_, ?_, ?_⟩ <;> split <;> rfl

theorem releases_replaceLock (shared : Shared)
    (type taskID lockedBy : String) (now lockUntil : Int) :
    shared.Releases (shared.replaceLock type taskID lockedBy now lockUntil).1 := by
  have same : shared.Releases shared := releases_of_subset fun _ listed => listed
  unfold replaceLock
  split
  · exact same
  case h_2 current stored =>
    dsimp only
    split
    · exact same
    case isFalse notLive =>
      have expired : ∀ owner, ¬ Runs
          (if current.lockedUntil < now ∧ (shared.tasks.lookup
              current.taskID).any (fun task => task.status = .running) = true then
            shared.markSystemTaskLeaseExpired current.taskID
          else shared) current.taskID owner := by
        intro owner
        cases found : shared.tasks.lookup current.taskID with
        | none =>
          rintro ⟨task, taskFound, -⟩
          simp [found] at taskFound
        | some task =>
          by_cases isRunning : task.status = .running
          · have isExpired : current.lockedUntil < now := by
              by_contra notExpired
              refine notLive ⟨not_lt.mp notExpired, ?_⟩
              simp [found, isRunning]
            rw [if_pos ⟨isExpired, by simp [isRunning]⟩]
            refine not_runs_of_ended found ?_ rfl
            exact decide_eq_true ⟨(lookup_eq_some_iff.mp found).2, isRunning⟩
          · rw [if_neg (by simp [isRunning])]
            exact not_runs_of_terminal found isRunning
      have locks : ∀ condition : Prop, [Decidable condition] →
          (if condition then shared.markSystemTaskLeaseExpired current.taskID
            else shared).locks = shared.locks := by
        intro condition decidable
        split <;> rfl
      split
      · refine releases_of_subset ?_
        intro lock listed
        rw [locks]
        exact listed
      · intro lock listed
        by_cases isCurrent : lock = current
        · subst isCurrent
          exact Or.inr (Or.inl (expired _))
        · left
          refine ⟨lock, List.mem_map.mpr ⟨lock, listed, ?_⟩, rfl, rfl, rfl⟩
          rw [if_neg]
          intro sameType
          obtain ⟨currentListed, -⟩ := lookup_eq_some_iff.mp stored
          exact isCurrent (List.inj_on_of_nodup_map shared.locks.unique listed
            currentListed sameType)

theorem releases_finish (shared : Shared) (taskID lockedBy : String)
    (status : SystemTaskStatus) (terminal : status.isTerminal = true)
    (result errorMessage : String) (now : Int) :
    shared.Releases (shared.finish taskID lockedBy status terminal result errorMessage now).1 := by
  have same : shared.Releases shared := releases_of_subset fun _ listed => listed
  unfold finish
  split
  · exact same
  case h_2 task found =>
    split
    case isTrue ended =>
      have notRunning : task.status ≠ .running := by
        intro isRunning
        have terminalTask := ended.2
        rw [isRunning] at terminalTask
        cases terminalTask
      refine @releases_of_delete shared _ (fun lock =>
        lock.taskID = taskID ∧ lock.lockedBy = lockedBy) ?_ ?_
      · split <;> rfl
      · intro lock _ passes
        obtain ⟨rfl, rfl⟩ := of_decide_eq_true passes
        left
        split
        · rintro ⟨later, laterFound, isRunning, -⟩
          simp only [deleteLocksWhere, updateTasks, lookup_update,
            found, Option.map_some, Option.some.injEq] at laterFound
          subst laterFound
          refine notRunning ?_
          simpa [TaskChange.writesResult] using isRunning
        · exact not_runs_of_terminal found notRunning
    case isFalse =>
      split
      · exact same
      case isFalse owned =>
        split
        · exact same
        refine releases_of_delete rfl ?_
        intro lock _ passes
        obtain ⟨rfl, rfl⟩ := of_decide_eq_true passes
        left
        have isRunning : task.status = .running := by
          by_contra notRunning
          exact owned (Or.inl notRunning)
        have isOwner : task.lockedBy = lock.lockedBy := by
          by_contra notOwner
          exact owned (Or.inr notOwner)
        exact not_runs_of_ended found (decide_eq_true ⟨rfl, isRunning, isOwner⟩) terminal

theorem releases_markFailed (shared : Shared) (taskID lockedBy errorMessage : String) :
    shared.Releases (shared.markFailed taskID lockedBy errorMessage) := by
  have same : shared.Releases shared := releases_of_subset fun _ listed => listed
  unfold markFailed
  split
  · exact same
  case h_2 task found =>
    split
    · exact same
    case isFalse owned =>
      refine releases_of_delete rfl ?_
      intro lock _ passes
      obtain ⟨ofTask, rfl⟩ := of_decide_eq_true passes
      left
      have isRunning : task.status = .running := by
        by_contra notRunning
        exact owned (Or.inl notRunning)
      have isOwner : task.lockedBy = lock.lockedBy := by
        by_contra notOwner
        exact owned (Or.inr notOwner)
      have taskFound : shared.tasks.lookup lock.taskID = some task := by
        rw [ofTask, (lookup_eq_some_iff.mp found).2]
        exact found
      exact not_runs_of_ended taskFound (decide_eq_true ⟨rfl, isRunning, isOwner⟩) rfl

theorem releases_cancel (shared : Shared) (taskID : String)
    (types : List String) (errorMessage : String) :
    shared.Releases (shared.cancel taskID types errorMessage).1 := by
  have same : shared.Releases shared := releases_of_subset fun _ listed => listed
  unfold cancel
  split
  · exact same
  case h_2 task filtered =>
    have found : shared.tasks.lookup task.taskID = some task := by
      have stored := (Option.filter_eq_some_iff.mp filtered).1
      rw [(lookup_eq_some_iff.mp stored).2]
      exact stored
    split
    case isTrue ended =>
      refine releases_of_delete rfl ?_
      intro lock _ passes
      have ofTask : lock.taskID = task.taskID := of_decide_eq_true passes
      left
      rw [ofTask]
      exact not_runs_of_terminal found ended.2
    case isFalse active =>
      refine releases_of_delete rfl ?_
      intro lock _ passes
      have ofTask : lock.taskID = task.taskID := of_decide_eq_true passes
      left
      have isActive : task.status = .pending ∨ task.status = .running := by
        by_contra neither
        exact active (not_or.mp neither)
      rw [ofTask]
      exact not_runs_of_ended found (decide_eq_true ⟨rfl, isActive⟩) rfl

theorem releases_cleanupLock (shared : Shared) (candidate : SystemTaskLock)
    (now : Int) : shared.Releases (shared.cleanupLock candidate now) := by
  unfold cleanupLock
  split
  · exact releases_of_subset fun _ listed => listed
  case isFalse inactive =>
    refine releases_of_delete rfl ?_
    intro lock _ passes
    obtain ⟨-, ofTask, -, -⟩ := of_decide_eq_true passes
    left
    rintro ⟨task, found, isRunning, -⟩
    refine inactive ?_
    have taskFound : shared.tasks.lookup candidate.taskID = some task := ofTask ▸ found
    simp [taskFound, isRunning]

theorem releases_expireLock (shared : Shared) (staleLock : SystemTaskLock)
    (now : Int) : shared.Releases (shared.expireLock staleLock now) := by
  unfold expireLock
  split
  · exact releases_of_subset fun _ listed => listed
  case h_2 currentLock located =>
    have listedCurrent := List.mem_of_find?_eq_some located
    have matchesStale := List.find?_some located
    simp only [decide_eq_true_eq] at matchesStale
    obtain ⟨-, ofTask, -, -⟩ := matchesStale
    have isCurrent : ∀ lock ∈ shared.locks.rows,
        decide (lock.type = currentLock.type) = true → lock = currentLock := by
      intro lock listed passes
      exact List.inj_on_of_nodup_map shared.locks.unique listed listedCurrent
        (of_decide_eq_true passes)
    split
    case isTrue runs =>
      refine releases_of_delete rfl ?_
      intro lock listed passes
      rw [isCurrent lock listed passes, ofTask]
      left
      cases found : shared.tasks.lookup staleLock.taskID with
      | none => simp [found] at runs
      | some task =>
        rw [found] at runs
        obtain ⟨isRunning, -⟩ := of_decide_eq_true runs
        have taskFound : (shared.deleteLocksWhere fun lock =>
            lock.type = currentLock.type).tasks.lookup staleLock.taskID = some task := found
        refine not_runs_of_ended taskFound ?_ rfl
        exact decide_eq_true ⟨(lookup_eq_some_iff.mp found).2, isRunning⟩
    case isFalse idle =>
      refine releases_of_delete rfl ?_
      intro lock listed passes
      rw [isCurrent lock listed passes, ofTask]
      left
      rintro ⟨task, found, isRunning, isOwner⟩
      refine idle ?_
      have taskFound : shared.tasks.lookup staleLock.taskID = some task := found
      simp [taskFound, isRunning, isOwner]

theorem releases_perform (op : Op) (shared : Shared) : shared.Releases (shared.perform op).1 := by
  cases op with
  | createLock lock =>
    simp only [Shared.perform]
    split
    case h_1 locks created =>
      refine releases_of_subset ?_
      intro other listed
      rw [rows_create created]
      exact List.mem_append_left _ listed
    case h_2 => exact releases_of_subset fun _ listed => listed
  | replaceLock type taskID lockedBy now lockUntil =>
    exact shared.releases_replaceLock type taskID lockedBy now lockUntil
  | deleteLocks taskID lockedBy =>
    refine releases_of_delete rfl ?_
    intro lock _ passes
    obtain ⟨rfl, rfl⟩ := of_decide_eq_true passes
    right
    intro other listed isOf
    have kept := (List.mem_filter.mp listed).2
    simp only [Bool.not_eq_true', decide_eq_false_iff_not] at kept
    exact kept isOf
  | renewLock taskID lockedBy lockUntil now =>
    exact shared.releases_renewLock taskID lockedBy lockUntil now
  | finish taskID lockedBy status terminal result errorMessage now =>
    exact shared.releases_finish taskID lockedBy status terminal result errorMessage now
  | markFailed taskID lockedBy errorMessage =>
    exact shared.releases_markFailed taskID lockedBy errorMessage
  | cancel taskID types errorMessage => exact shared.releases_cancel taskID types errorMessage
  | cleanupLock candidate now => exact shared.releases_cleanupLock candidate now
  | expireLock staleLock now => exact shared.releases_expireLock staleLock now
  | recoverTask candidate now =>
    refine releases_of_subset ?_
    intro lock listed
    simp only [Shared.perform, recoverTask]
    split
    · exact listed
    split
    · exact listed
    · exact listed
  | getTimestamp | findPending | findLock | startTask | reload | writeState
  | countHeld | lockExecution | listLocks | listStale | listRunning =>
    exact releases_of_subset fun _ listed => listed

end Shared

end NewApi.SystemTasks
