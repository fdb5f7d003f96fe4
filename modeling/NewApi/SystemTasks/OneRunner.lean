import NewApi.SystemTasks.ExpiryPasses

/-!
# Runs of the system tasks

Any number of calls of any runners, interleaved statement by statement, while
time passes and tasks are submitted.
-/

namespace NewApi.SystemTasks

open GoStrings Interleaving Transactions Machine Shared.Persists Shared

abbrev SystemConfig := Config Answer Call Shared Outcome

def runFrom (shared : Shared) (actions : List (Action Call Event)) :
    SystemConfig :=
  machine.run (startConfig shared) actions

theorem moves_of_tables {shared next : Shared}
    (tasks : next.tasks = shared.tasks) (locks : next.locks = shared.locks)
    (starts : next.starts = shared.starts) : shared.Moves next where
  persists := (Shared.Settles.of_tasks starts tasks).persists
  startsHeld := (Settles.of_tasks starts tasks).startsHeld
  releases := releases_of_subset fun lock listed => by
    rw [locks]
    exact listed

theorem moves_submit (shared : Shared) {task : SystemTask} (isPending : task.status = .pending) :
    shared.Moves (shared.submit task) ∧ (shared.submit task).locks = shared.locks := by
  have same : shared.Moves shared := moves_of_tables rfl rfl rfl
  unfold submit
  split
  case isFalse => exact ⟨same, rfl⟩
  case isTrue fresh =>
    split
    · exact ⟨same, rfl⟩
    case h_2 tasks created =>
      obtain ⟨absent, described⟩ := KeyedTable.lookup_create created
      refine ⟨⟨?_, ?_, releases_of_subset fun _ listed => listed⟩, rfl⟩
      · intro taskID old found
        refine ⟨old, ?_, (SystemTask.Keeps.refl old).advances⟩
        rw [described, if_neg, found]
        intro sameKey
        rw [sameKey, found] at absent
        cases absent
      · intro taskID later found isRunning
        rw [described] at found
        split at found
        · cases found
          rw [isPending] at isRunning
          cases isRunning
        · exact Or.inl ⟨later, found, isRunning, rfl, fun _ listed _ => listed⟩

theorem moves_event (event : Event) (shared : Shared) :
    shared.Moves (event.run shared) ∧ (event.run shared).locks = shared.locks := by
  cases event with
  | elapse seconds => exact ⟨moves_of_tables rfl rfl rfl, rfl⟩
  | submit id taskID taskType activeKey state => exact moves_submit shared rfl

/-- Every call of a run keeps its contract, whatever the others do. -/
theorem kept_run (shared : Shared) (actions : List (Action Call Event)) :
    Kept machine (fun _ => True) (fun _ _ => contract)
      (fun _ call trace outcome _ => outcome = .accepted → call.AcceptedBy trace)
      (runFrom shared actions) := by
  have respects : GuardedRun machine.act
      (Respects (fun _ => True) (fun _ _ _ => True) fun _ _ => contract)
      (startConfig shared) actions := by
    refine guardedRun_iff_prefixes.mpr fun initial action _ => ?_
    cases action with
    | start call =>
      exact ⟨trivial, fun _ _ _ _ _ _ _ =>
        ⟨fun moves => moves.persists, fun moves => moves.persists⟩⟩
    | step number => exact fun _ _ _ _ _ => trivial
    | outside event => trivial
  refine Kept.run (fun _ _ => Persists.trans) (fun _ _ => refl) ?_ ?_ respects ⟨trivial, ?_, ?_, ?_⟩
  · exact fun _ call state _ _ => keeps_code call state
  · exact fun event state _ => ⟨trivial, fun _ _ => (moves_event event state).1.persists⟩
  · intro number thread found
    simp [startConfig] at found
  · intro number thread found
    simp [startConfig] at found
  · intro number thread _ _ found
    simp [startConfig] at found

theorem persists_act (config : SystemConfig) (action : Action Call Event) :
    config.shared.Persists (machine.act config action).shared := by
  cases action with
  | start call => exact .refl _
  | outside event => exact (moves_event event config.shared).1.persists
  | step number =>
    simp only [act]
    split
    · exact .refl _
    · unfold advance
      split
      · exact .refl _
      case h_2 op next code => exact config.shared.persists_perform op

theorem persists_run (config : SystemConfig) (actions : List (Action Call Event)) :
    config.shared.Persists (machine.run config actions).shared := by
  induction actions generalizing config with
  | nil => exact .refl _
  | cons action actions ih => exact (persists_act config action).trans (ih _)

theorem runFrom_append (shared : Shared) (before after : List (Action Call Event)) :
    runFrom shared (before ++ after) = machine.run (runFrom shared before) after :=
  execute_append _ _ _ _

def Starts (config : SystemConfig) (action : Action Call Event) (taskID : String) : Prop :=
  (∃ task, config.shared.tasks.lookup taskID = some task ∧ task.status = .pending) ∧
  ∃ task, (machine.act config action).shared.tasks.lookup taskID =
    some task ∧ task.status = .running

/-- The task is running, and the lock of the type is for it and has not
expired. -/
def Shared.Live (shared : Shared) (lockType : String) (task : SystemTask) :
    Prop :=
  task ∈ shared.tasks.rows ∧ task.status = .running ∧
    ∃ lock ∈ shared.locks.rows, lock.type = lockType ∧
      lock.taskID = task.taskID ∧ shared.clock ≤ lock.lockedUntil

def GrantsNone (start : SystemTaskStart) (config : SystemConfig)
    (action : Action Call Event) : Prop :=
  config.shared.GrantsNone (machine.act config action).shared start

instance (start : SystemTaskStart) (config : SystemConfig)
    (action : Action Call Event) : Decidable (GrantsNone start config action) :=
  inferInstanceAs (Decidable (∀ lock ∈
    (machine.act config action).shared.locks.rows,
      lock.IsOf start.taskID start.runnerID → lock ∈ config.shared.locks.rows))

section Runs

variable (shared : Shared)

theorem starts_once (before between : List (Action Call Event))
    (first second : Action Call Event) (taskID : String)
    (starts : Starts (runFrom shared before) first taskID) :
    ¬ Starts (runFrom shared (before ++ first :: between)) second taskID := by
  rintro ⟨⟨task, found, isPending⟩, -⟩
  obtain ⟨-, started, startedFound, isRunning⟩ := starts
  rw [runFrom_append] at found
  have persists := persists_run (machine.act (runFrom shared before) first) between
  obtain ⟨later, laterFound, advances⟩ := persists startedFound
  have sameRow : some later = some task := laterFound.symm.trans found
  cases sameRow
  rcases advances.status with same | ⟨again, -⟩ | ⟨-, ended⟩
  · rw [same, isRunning] at isPending
    cases isPending
  · rw [isRunning] at again
    cases again
  · rw [isPending] at ended
    cases ended

theorem live_once {lockType : String} {task other : SystemTask}
    (live : shared.Live lockType task) (otherLive : shared.Live lockType other) :
    task = other := by
  obtain ⟨listed, -, lock, lockListed, ofType, ofTask, -⟩ := live
  obtain ⟨otherListed, -, otherLock, otherLockListed, otherType, otherTask, -⟩ := otherLive
  have sameLock : lock = otherLock := List.inj_on_of_nodup_map
    shared.locks.unique lockListed otherLockListed (ofType.trans otherType.symm)
  refine List.inj_on_of_nodup_map shared.tasks.unique listed otherListed ?_
  rw [← ofTask, sameLock, otherTask]

theorem accepted_while_held {actions : List (Action Call Event)} {number : Nat}
    {thread : Thread Answer Call Shared Outcome}
    (found : (runFrom shared actions).threads[number]? = some thread)
    (returned : thread.program.returned = some .accepted) :
    thread.call.AcceptedBy thread.trace := by
  have kept := kept_run shared actions
  have done := kept.threads number thread found
  rw [Program.returned_eq_some.mp returned] at done
  exact done _ (refl _) trivial rfl

theorem terminal_stays (before after : List (Action Call Event))
    {taskID : String} {task : SystemTask}
    (found : (runFrom shared before).shared.tasks.lookup taskID = some task)
    (terminal : task.status.isTerminal = true) :
    ∃ later, (runFrom shared (before ++ after)).shared.tasks.lookup taskID =
      some later ∧ later.status = task.status := by
  rw [runFrom_append]
  obtain ⟨later, laterFound, advances⟩ := persists_run _ after found
  refine ⟨later, laterFound, ?_⟩
  rcases advances.status with same | ⟨isPending, -⟩ | ⟨active, -⟩
  · exact same
  · rw [isPending] at terminal
    cases terminal
  · rw [active] at terminal
    cases terminal

end Runs

/-! ## Runs of a pass -/

theorem threads_length_run (config : SystemConfig) (actions : List (Action Call Event)) :
    config.threads.length ≤ (machine.run config actions).threads.length := by
  induction actions generalizing config with
  | nil => exact le_rfl
  | cons action actions ih =>
    refine le_trans ?_ (ih (machine.act config action))
    have calls := congrArg List.length (calls_act machine config action)
    rw [List.length_append, List.length_map, List.length_map] at calls
    omega

section Pass

variable {start : SystemTaskStart} {now : Int} {config : SystemConfig}

theorem kept_start_pass
    (kept : Kept machine (fun _ => True) (fun _ _ => contract)
      (fun _ call trace outcome _ => outcome = .accepted → call.AcceptedBy trace) config)
    (expiring : config.shared.Expiring start now) :
    Kept machine (fun _ => True) (fun _ _ => passContract start now)
      (fun number _ _ _ later => number = config.threads.length → later.Over start)
      (machine.act config (.start (.expireStale now))) where
  shared := trivial
  threads := by
    intro number thread found
    simp only [act] at found ⊢
    rcases Nat.lt_or_ge number config.threads.length with inRange | beyond
    · rw [List.getElem?_append_left inRange] at found
      have passes : Passes start now (fun _ => True) thread.program thread.trace
          config.shared := passes_of_keeps (kept.threads number thread found)
      exact passes.mono (fun _ _ relied => relied)
        (fun _ _ _ assumed => assumed) (fun _ _ _ ensured => ensured)
        (fun _ _ heeds => heeds) (fun _ _ _ _ _ last => absurd last (by omega))
    · rw [List.getElem?_append_right beyond] at found
      obtain ⟨position, rfl⟩ := List.getElem?_eq_some_iff.mp found
      have passes : Passes start now (fun later => later.Over start)
          (expireStaleSystemTaskLocks now) [] config.shared :=
        passes_expireStaleSystemTaskLocks expiring
      have only : (number - config.threads.length) = 0 := by simpa using position
      simp only [only, List.getElem_cons_zero]
      exact passes.mono (fun _ _ relied => relied)
        (fun _ _ _ assumed => assumed) (fun _ _ _ ensured => ensured)
        (fun _ _ heeds => heeds) (fun _ _ _ _ ended _ => ended)
  ensured _ _ _ _ _ _ _ _ := trivial
  compatible _ _ _ _ _ _ _ _ _ _ _ heeds := heeds

theorem respects_pass {actions : List (Action Call Event)} {number : Nat}
    (started : number < config.threads.length)
    (grantsNone : GuardedRun machine.act (GrantsNone start) config actions) :
    GuardedRun machine.act
      (Respects (fun _ => True) (fun other _ _ => number < other)
        fun _ _ => passContract start now) config actions := by
  refine guardedRun_iff_prefixes.mpr fun initial action isPrefix => ?_
  cases action with
  | start call =>
    refine ⟨?_, fun _ _ _ _ _ _ _ => ⟨fun heeds => heeds, fun heeds => heeds⟩⟩
    exact lt_of_lt_of_le started (threads_length_run config initial)
  | outside event => trivial
  | step other =>
    intro thread op next found code
    have grants := guardedRun_iff_prefixes.mp grantsNone initial _ isPrefix
    simp only [GrantsNone, act, found, advance, code] at grants
    exact grants

theorem heeds_event (event : Event) (shared : Shared) :
    Shared.Heeds start now shared (event.run shared) := by
  obtain ⟨moves, locks⟩ := moves_event event shared
  refine moves.heeds fun lock listed _ => ?_
  rw [← locks]
  exact listed

end Pass

/-- Once a lock has expired and is neither renewed nor granted again, the task
does not run under it when a pass ends. -/
theorem over_after_pass (shared : Shared)
    (before during : List (Action Call Event)) (now : Int) {lock : SystemTaskLock}
    (listed : lock ∈ (runFrom shared before).shared.locks.rows) (expired : lock.lockedUntil < now)
    (grantsNone : GuardedRun machine.act (GrantsNone ⟨lock.type, lock.taskID, lock.lockedBy⟩)
      (runFrom shared before) (.start (.expireStale now) :: during))
    {thread : Thread Answer Call Shared Outcome}
    (found : (runFrom shared (before ++ .start (.expireStale now) ::
      during)).threads[(runFrom shared before).threads.length]? = some thread)
    {outcome : Outcome} (returned : thread.program.returned = some outcome) :
    ¬ (runFrom shared (before ++ .start (.expireStale now) ::
      during)).shared.RunsUnder ⟨lock.type, lock.taskID, lock.lockedBy⟩ := by
  have expiring : (runFrom shared before).shared.Expiring
      ⟨lock.type, lock.taskID, lock.lockedBy⟩ now := by
    refine ⟨?_, fun noRow => absurd ⟨lock, listed, rfl, rfl, rfl⟩ noRow⟩
    intro other otherListed sameType _
    have same : other = lock := List.inj_on_of_nodup_map
      (runFrom shared before).shared.locks.unique otherListed listed sameType
    rw [same]
    exact expired
  have keptPass := kept_start_pass (kept_run shared before) expiring
  have inRange : (runFrom shared before).threads.length <
      (machine.act (runFrom shared before) (.start (.expireStale now))).threads.length := by
    simp [act]
  have kept := Kept.run (fun _ _ => Heeds.trans) (fun _ _ => Heeds.refl) ?_ ?_
    (respects_pass inRange grantsNone.2) keptPass
  · rw [runFrom_append] at found ⊢
    have done := kept.threads _ thread found
    rw [Program.returned_eq_some.mp returned] at done
    exact (done _ (Heeds.refl _) trivial rfl).2
  · intro number call state _ later
    have passes : Passes ⟨lock.type, lock.taskID, lock.lockedBy⟩ now
        (fun _ => True) call.code [] state :=
      passes_of_keeps (keeps_code call state)
    exact passes.mono (fun _ _ relied => relied)
      (fun _ _ _ assumed => assumed) (fun _ _ _ ensured => ensured)
      (fun _ _ heeds => heeds) (fun _ _ _ _ _ last => absurd last (by omega))
  · exact fun event state _ => ⟨trivial, fun _ _ => heeds_event event state⟩

/-- A system task runs in one place, in all runs.  It is started at most once;
of the tasks of a lock type at most one is running with an unexpired lock; a
call that is accepted from a runner has found its lock, or that its task has
ended; a task that has ended keeps its status; and after a pass no task runs
under a lock that had expired. -/
theorem system_task_runs_in_one_place (shared : Shared) :
    (∀ (before between : List (Action Call Event))
        (first second : Action Call Event) (taskID : String),
      Starts (runFrom shared before) first taskID →
        ¬ Starts (runFrom shared (before ++ first :: between)) second taskID) ∧
    (∀ (actions : List (Action Call Event)) (lockType : String) (task other : SystemTask),
      (runFrom shared actions).shared.Live lockType task →
        (runFrom shared actions).shared.Live lockType other → task = other) ∧
    (∀ (actions : List (Action Call Event)) (number : Nat)
        (thread : Thread Answer Call Shared Outcome),
      (runFrom shared actions).threads[number]? = some thread →
        thread.program.returned = some .accepted → thread.call.AcceptedBy thread.trace) ∧
    (∀ (before after : List (Action Call Event)) (taskID : String) (task : SystemTask),
      (runFrom shared before).shared.tasks.lookup taskID = some task →
        task.status.isTerminal = true →
          ∃ later, (runFrom shared (before ++ after)).shared.tasks.lookup
            taskID = some later ∧ later.status = task.status) ∧
    (∀ (before during : List (Action Call Event)) (now : Int),
      ∀ lock ∈ (runFrom shared before).shared.locks.rows,
      lock.lockedUntil < now →
        GuardedRun machine.act (GrantsNone ⟨lock.type, lock.taskID, lock.lockedBy⟩)
          (runFrom shared before) (.start (.expireStale now) :: during) →
        ∀ (thread : Thread Answer Call Shared Outcome) (outcome : Outcome),
          (runFrom shared (before ++ .start (.expireStale now) ::
            during)).threads[(runFrom shared before).threads.length]? = some thread →
          thread.program.returned = some outcome →
            ¬ (runFrom shared (before ++ .start (.expireStale now) ::
              during)).shared.RunsUnder ⟨lock.type, lock.taskID, lock.lockedBy⟩) := by
  refine ⟨?_, ?_, ?_, ?_, ?_⟩
  · intro before between first second taskID
    exact starts_once shared before between first second taskID
  · intro actions lockType task other
    exact live_once (runFrom shared actions).shared
  · intro actions number thread found returned
    exact accepted_while_held shared found returned
  · intro before after taskID task found terminal
    exact terminal_stays shared before after found terminal
  · intro before during now lock listed expired grantsNone thread outcome found returned
    exact over_after_pass shared before during now listed expired grantsNone found returned

def submittedTask : Shared where
  clock := 5
  countsChanged := true
  tasks :=
    { rows := [{ id := 1, taskID := "task", type := "log_cleanup" }]
      unique := by decide }
  locks := KeyedTable.empty
  ids := by decide
  started := fun _ listed => absurd listed List.not_mem_nil

def steps (number count : Nat) : List (Action Call Event) := List.replicate count (.step number)

def claimRun : List (Action Call Event) :=
  .start (.claim 1 "log_cleanup" "" "runner" 10) :: steps 0 5

def claimedLock : SystemTaskLock where
  type := "log_cleanup"
  taskID := "task"
  lockedBy := "runner"
  lockedUntil := 10
  updatedAt := 5

def expiredRun : List (Action Call Event) := claimRun ++ [.outside (.elapse 20)]

/-- The claimed task runs under its lock until a pass after the time 10. -/
theorem expired_claim_is_over :
    ¬ (runFrom submittedTask (expiredRun ++ .start (.expireStale 25) ::
      steps 1 4)).shared.RunsUnder
        ⟨claimedLock.type, claimedLock.taskID, claimedLock.lockedBy⟩ := by
  have listed : claimedLock ∈ (runFrom submittedTask expiredRun).shared.locks.rows := by decide
  have grantsNone : GuardedRun machine.act
      (GrantsNone ⟨claimedLock.type, claimedLock.taskID, claimedLock.lockedBy⟩)
      (runFrom submittedTask expiredRun)
      (.start (.expireStale 25) :: steps 1 4) := by decide
  obtain ⟨thread, found, returned⟩ : ∃ thread,
      (runFrom submittedTask (expiredRun ++ .start (.expireStale 25) ::
        steps 1 4)).threads[(runFrom submittedTask expiredRun).threads.length]? = some thread ∧
      thread.program.returned = some .accepted := ⟨_, rfl, rfl⟩
  obtain ⟨-, -, -, -, passes⟩ := system_task_runs_in_one_place submittedTask
  exact passes expiredRun (steps 1 4) 25 claimedLock listed (by decide)
    grantsNone thread .accepted found returned

def cancelledRun : List (Action Call Event) :=
  claimRun ++ .start (.cancel "task" [] "") :: steps 1 1 ++
    .start (.finish "task" "runner" .succeeded "result" "") :: steps 2 2

def unchangedRun : List (Action Call Event) :=
  claimRun ++ .start (.updateState "task" "runner" "") :: steps 1 2 ++
    .outside (.elapse 20) :: steps 1 1

/-- In its last statement, the call has found the task running under the runner
with an unexpired lock. -/
def HoldsLockAtEnd (trace : Trace Op Shared) (taskID lockedBy : String) : Prop :=
  ∃ op last, trace.getLast? = some (op, last) ∧ last.held taskID lockedBy last.clock = true

/-- A finish is accepted for a task that has been cancelled, and a state update
by a second statement after the lock has expired. -/
theorem accepted_without_lock :
    (¬ ∀ (shared : Shared) (actions : List (Action Call Event)) (number : Nat)
        (thread : Thread Answer Call Shared Outcome) (taskID lockedBy : String)
        (status : SystemTaskStatus) (result errorMessage : String),
      (runFrom shared actions).threads[number]? = some thread →
        thread.call = .finish taskID lockedBy status result errorMessage →
          thread.program.returned = some .accepted →
            HoldsLockAtEnd thread.trace (trimSpace taskID) (trimSpace lockedBy)) ∧
    ¬ ∀ (shared : Shared) (actions : List (Action Call Event)) (number : Nat)
        (thread : Thread Answer Call Shared Outcome)
        (taskID lockedBy state : String),
      (runFrom shared actions).threads[number]? = some thread →
        thread.call = .updateState taskID lockedBy state →
          thread.program.returned = some .accepted →
            HoldsLockAtEnd thread.trace taskID lockedBy := by
  constructor
  · intro claims
    with_unfolding_all
      obtain ⟨op, last, isLast, held⟩ := claims submittedTask cancelledRun 2 _
        "task" "runner" .succeeded "result" "" rfl rfl rfl
      cases isLast
    revert held
    decide +kernel
  · intro claims
    obtain ⟨op, last, isLast, held⟩ := claims submittedTask unchangedRun 1 _
      "task" "runner" "" rfl rfl rfl
    cases isLast
    revert held
    decide

end NewApi.SystemTasks
