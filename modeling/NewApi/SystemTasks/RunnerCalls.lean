import NewApi.SystemTasks.LockRemovals

/-!
# Calls of the runners

Each call starts only the task that it has read, and a call that is accepted
has found its runner's lock in its last statement.
-/

namespace NewApi.SystemTasks

open GoStrings Interleaving Shared Persists

structure Shared.Moves (shared next : Shared) : Prop where
  persists : shared.Persists next
  startsHeld : shared.StartsHeld next
  releases : shared.Releases next

theorem Shared.moves_perform (op : Op) (shared : Shared)
    (reads : shared.Reads op) : shared.Moves (shared.perform op).1 where
  persists := shared.persists_perform op
  startsHeld := shared.startsHeld_perform op reads
  releases := shared.releases_perform op

def contract : Contract Op Shared where
  rely shared later := shared.Persists later
  guarantee shared next := shared.Moves next
  assume _ _ _ := True
  ensure _ _ _ := True

abbrev Keeps {α : Type} (post : Trace Op Shared → α → Shared → Prop)
    (program : Code α) (trace : Trace Op Shared) (shared : Shared) : Prop :=
  Meets Shared.perform (fun _ => True) contract post program trace shared

variable {shared : Shared}

section

variable {α : Type} {post : Trace Op Shared → α → Shared → Prop} {trace : Trace Op Shared}

theorem keeps_done {result : α} (holds : ∀ later, shared.Persists later → post trace result later) :
    Keeps post (.done result) trace shared :=
  fun later relied _ => holds later relied

theorem keeps_call {op : Op} {next : Answer op → Code α} (reads : shared.Reads op)
    (rest : ∀ later, shared.Persists later →
      Keeps post (next (later.perform op).2) (trace ++ [(op, later)]) (later.perform op).1) :
    Keeps post (.call op next) trace shared :=
  fun later relied _ _ =>
    ⟨trivial, later.moves_perform op (Persists.reads relied reads),
      trivial, rest later relied⟩

end

def StartsNothing {α : Type} : Code α → Prop
  | .done _ => True
  | .call op next => op.isStart = false ∧ ∀ answer, StartsNothing (next answer)

theorem startsNothing_bind {α β : Type} {program : Code α}
    {rest : α → Code β} (first : StartsNothing program)
    (second : ∀ result, StartsNothing (rest result)) :
    StartsNothing (program >>= rest) := by
  induction program with
  | done result => exact second result
  | call op next ih => exact ⟨first.1, fun answer => ih answer (first.2 answer)⟩

theorem startsNothing_forEach {α : Type} {body : α → Code Unit}
    (each : ∀ item, StartsNothing (body item)) (items : List α) :
    StartsNothing (forEach body items) := by
  induction items with
  | nil => trivial
  | cons item items ih => exact startsNothing_bind (each item) fun _ => ih

theorem startsNothing_loop {α β : Type} {body : α → Code Unit}
    {items : List α} {rest : Unit → Code β} (each : ∀ item, StartsNothing (body item))
    (last : StartsNothing (rest ())) :
    StartsNothing (forEach body items >>= rest) :=
  startsNothing_bind (startsNothing_forEach each items) fun _ => last

theorem Op.reads_of_other {op : Op} (other : op.isStart = false)
    (shared : Shared) : shared.Reads op := by
  cases op with
  | startTask id taskType lockType taskID runnerID now => cases other
  | _ => trivial

theorem keeps_of_startsNothing {α : Type} {program : Code α}
    (startsNothing : StartsNothing program) (trace : Trace Op Shared)
    (shared : Shared) : Keeps (fun _ _ _ => True) program trace shared := by
  induction program generalizing trace shared with
  | done result => exact keeps_done fun _ _ => trivial
  | call op next ih =>
    exact keeps_call (Op.reads_of_other startsNothing.1 shared)
      fun later _ => ih _ (startsNothing.2 _) _ _

theorem keeps_persists {α : Type} {program : Code α}
    (startsNothing : StartsNothing program) (trace : Trace Op Shared) (shared : Shared) :
    Keeps (fun _ _ later => shared.Persists later) program trace shared := by
  have progress := Meets.progress Persists
    (fun before after => before.trans after) (fun _ _ relied => relied)
    (fun _ _ (moves : Moves _ _) => moves.persists)
    (keeps_of_startsNothing startsNothing trace shared)
    (refl shared)
  exact progress.mono (fun _ _ relied => relied) (fun _ _ _ assumed => assumed)
    (fun _ _ _ ensured => ensured) (fun _ _ moves => moves)
    (fun _ _ _ _ both => both.2)

theorem startsNothing_acquireSystemTaskLock
    (taskType taskID lockedBy : String) (now lockUntil : Int) :
    StartsNothing (acquireSystemTaskLock taskType taskID lockedBy now lockUntil) := by
  refine ⟨rfl, fun created => ?_⟩
  cases created with
  | true => trivial
  | false =>
    refine ⟨rfl, fun lock => ?_⟩
    cases lock with
    | none => trivial
    | some _ => exact ⟨rfl, fun _ => trivial⟩

theorem startsNothing_markSystemTaskFailedForRunner (taskID lockedBy errorMessage : String) :
    StartsNothing (markSystemTaskFailedForRunner taskID lockedBy errorMessage) := by
  unfold markSystemTaskFailedForRunner
  dsimp only
  split
  · trivial
  · exact ⟨rfl, fun _ => trivial⟩

theorem keeps_claimSystemTask (id : Int) (taskType lockType runnerID : String) (lockUntil : Int)
    (trace : Trace Op Shared) (shared : Shared) :
    Keeps (fun _ _ _ => True) (claimSystemTask id taskType lockType runnerID lockUntil) trace
      shared := by
  refine keeps_call trivial fun first _ => ?_
  refine keeps_call trivial fun second _ => ?_
  cases pending : (second.perform (.findPending id taskType)).2 with
  | none => exact keeps_done fun _ _ => trivial
  | some task =>
    have member := List.mem_of_find?_eq_some pending
    have isTask := List.find?_some pending
    simp only [decide_eq_true_eq] at isTask
    have found : second.tasks.lookup task.taskID = some task :=
      KeyedTable.lookup_eq_some_iff.mpr ⟨member, rfl⟩
    change Keeps _ (acquireSystemTaskLock
      (if lockType = "" then taskType else lockType) task.taskID runnerID
      first.clock lockUntil >>= _) _ _
    refine meets_bind (fun _ => refl _) trivial ?_
    refine (keeps_persists (startsNothing_acquireSystemTaskLock ..) _
      second).mono (fun _ _ relied => relied) (fun _ _ _ assumed => assumed)
      (fun _ _ _ ensured => ensured) (fun _ _ moves => moves) ?_
    intro trace acquired later _ persists
    match acquired with
    | none => exact keeps_done fun _ _ => trivial
    | some false => exact keeps_done fun _ _ => trivial
    | some true =>
      obtain ⟨row, rowFound, advances⟩ := persists found
      refine keeps_call ⟨row, rowFound, advances.id.trans isTask.1⟩ fun third _ => ?_
      refine keeps_of_startsNothing ?_ _ _
      have failed :=
        startsNothing_markSystemTaskFailedForRunner task.taskID runnerID "record not found"
      generalize markSystemTaskFailedForRunner _ _ _ = failure at failed ⊢
      generalize (third.perform (.startTask id taskType
        (if lockType = "" then taskType else lockType) task.taskID runnerID
        (first.perform .getTimestamp).2)).2 = won
      cases won with
      | false => exact ⟨rfl, fun _ => trivial⟩
      | true =>
        refine ⟨rfl, fun reloaded => ?_⟩
        cases reloaded with
        | some _ => trivial
        | none =>
          refine ⟨rfl, fun _ => ?_⟩
          change StartsNothing (failure >>= _)
          exact startsNothing_bind failed fun _ => trivial

/-- In its last statement, the call has found the task running under the runner
with a lock that had not expired when the call read the clock. -/
def HeldAtEnd (trace : Trace Op Shared) (taskID lockedBy : String) : Prop :=
  ∃ read op last, (Op.getTimestamp, read) ∈ trace ∧
    trace.getLast? = some (op, last) ∧
    last.held taskID lockedBy read.clock = true

/-- In its last statement, the call has found that the task of the runner has
ended. -/
def EndedAtEnd (trace : Trace Op Shared) (taskID lockedBy : String) : Prop :=
  ∃ op last task, trace.getLast? = some (op, last) ∧
    last.tasks.lookup taskID = some task ∧ task.lockedBy = lockedBy ∧
    task.status.isTerminal = true

def Call.AcceptedBy (trace : Trace Op Shared) : Call → Prop
  | .updateState taskID lockedBy _ => HeldAtEnd trace taskID lockedBy
  | .lockForExecution taskID lockedBy =>
    trimSpace taskID ≠ "" → trimSpace lockedBy ≠ "" →
      HeldAtEnd trace (trimSpace taskID) (trimSpace lockedBy)
  | .finish taskID lockedBy _ _ _ =>
    HeldAtEnd trace (trimSpace taskID) (trimSpace lockedBy) ∨
      EndedAtEnd trace (trimSpace taskID) (trimSpace lockedBy)
  | _ => True

variable {taskID lockedBy : String}

theorem held_of_writeState {state : String} {now : Int}
    (affected : (shared.perform (.writeState taskID lockedBy state now)).2 = true) :
    shared.held taskID lockedBy now = true := by
  obtain ⟨task, listed, passes⟩ := List.any_eq_true.mp affected
  simp only [decide_eq_true_eq] at passes
  obtain ⟨⟨ofTask, isRunning, isOwner, hasLock⟩, -⟩ := passes
  rw [held, Bool.and_eq_true]
  exact ⟨List.any_eq_true.mpr ⟨task, listed, decide_eq_true ⟨ofTask, isRunning, isOwner⟩⟩, hasLock⟩

theorem held_of_lockExecution {first second : Int} (named : lockedBy ≠ "")
    (located : (shared.perform (.lockExecution taskID lockedBy first second)).2 = true) :
    shared.held taskID lockedBy second = true := by
  obtain ⟨task, listed, passes⟩ := List.any_eq_true.mp located
  obtain ⟨rfl, isRunning, isOwner, -, hasLock⟩ := of_decide_eq_true passes
  rw [held, Bool.and_eq_true]
  exact ⟨List.any_eq_true.mpr ⟨task, listed, decide_eq_true ⟨rfl, isRunning, isOwner named⟩⟩,
    hasLock named⟩

theorem held_or_ended_of_finish {status : SystemTaskStatus} {terminal : status.isTerminal = true}
    {result errorMessage : String} {now : Int}
    (done : (shared.finish taskID lockedBy status terminal result errorMessage now).2 = true) :
    shared.held taskID lockedBy now = true ∨
      ∃ task, shared.tasks.lookup taskID = some task ∧
        task.lockedBy = lockedBy ∧ task.status.isTerminal = true := by
  unfold finish at done
  split at done
  · cases done
  case h_2 task found =>
    split at done
    case isTrue ended => exact Or.inr ⟨task, found, ended.1, ended.2⟩
    split at done
    · cases done
    case isFalse owned =>
      split at done
      · cases done
      case isFalse hasLock =>
        left
        obtain ⟨listed, ofTask⟩ := KeyedTable.lookup_eq_some_iff.mp found
        obtain ⟨isRunning, isOwner⟩ := not_or.mp owned
        rw [held, Bool.and_eq_true]
        refine ⟨List.any_eq_true.mpr ⟨task, listed, decide_eq_true
          ⟨ofTask, not_not.mp isRunning, not_not.mp isOwner⟩⟩, ?_⟩
        simpa using hasLock

theorem keeps_updateSystemTaskState (taskID lockedBy state : String) (shared : Shared) :
    Keeps (fun trace outcome _ => outcome = .accepted → HeldAtEnd trace taskID lockedBy)
      (updateSystemTaskState taskID lockedBy state) [] shared := by
  refine keeps_call trivial fun first _ => ?_
  refine keeps_call trivial fun second _ => ?_
  generalize affected : (second.perform (.writeState taskID lockedBy state
    (first.perform .getTimestamp).2)).2 = wrote
  cases wrote with
  | true =>
    refine keeps_done fun _ _ _ => ?_
    exact ⟨first, _, second, by simp, List.getLast?_concat, held_of_writeState affected⟩
  | false =>
    refine keeps_call trivial fun third _ => ?_
    generalize counted : (third.perform (.countHeld taskID lockedBy
      (first.perform .getTimestamp).2)).2 = count
    cases count with
    | true =>
      refine keeps_done fun _ _ _ => ?_
      exact ⟨first, _, third, by simp, List.getLast?_concat, counted⟩
    | false => exact keeps_done fun _ _ => nofun

theorem keeps_lockSystemTaskForExecution (taskID lockedBy : String) (shared : Shared) :
    Keeps (fun trace outcome _ => outcome = .accepted →
        trimSpace taskID ≠ "" → trimSpace lockedBy ≠ "" →
          HeldAtEnd trace (trimSpace taskID) (trimSpace lockedBy))
      (lockSystemTaskForExecution taskID lockedBy) [] shared := by
  unfold lockSystemTaskForExecution
  rcases eq_or_ne (trimSpace taskID) "" with blank | named
  · rw [if_pos blank]
    exact keeps_done fun _ _ _ named => absurd blank named
  rw [if_neg named]
  refine keeps_call trivial fun first _ => ?_
  refine keeps_call trivial fun second _ => ?_
  refine keeps_call trivial fun third _ => ?_
  generalize located : (third.perform (.lockExecution (trimSpace taskID)
    (trimSpace lockedBy) (first.perform .getTimestamp).2
    (second.perform .getTimestamp).2)).2 = answer
  cases answer with
  | true =>
    refine keeps_done fun _ _ _ _ named => ?_
    exact ⟨second, _, third, by simp, List.getLast?_concat, held_of_lockExecution named located⟩
  | false => exact keeps_done fun _ _ => nofun

theorem keeps_finishSystemTask (taskID lockedBy : String)
    (status : SystemTaskStatus) (result errorMessage : String) (shared : Shared) :
    Keeps (fun trace outcome _ => outcome = .accepted →
        HeldAtEnd trace (trimSpace taskID) (trimSpace lockedBy) ∨
          EndedAtEnd trace (trimSpace taskID) (trimSpace lockedBy))
      (finishSystemTask taskID lockedBy status result errorMessage) []
      shared := by
  unfold finishSystemTask
  dsimp only
  split
  · exact keeps_done fun _ _ => nofun
  split
  case isFalse => exact keeps_done fun _ _ => nofun
  case isTrue terminal =>
    refine keeps_call trivial fun first _ => ?_
    refine keeps_call trivial fun second _ => ?_
    generalize done : (second.perform (.finish (trimSpace taskID)
      (trimSpace lockedBy) status terminal result errorMessage
      (first.perform .getTimestamp).2)).2 = answer
    cases answer with
    | false => exact keeps_done fun _ _ => nofun
    | true =>
      refine keeps_done fun _ _ _ => ?_
      refine (held_or_ended_of_finish done).imp ?_ ?_
      · intro held
        exact ⟨first, _, second, by simp, List.getLast?_concat, held⟩
      · rintro ⟨task, found, isOwner, ended⟩
        exact ⟨_, second, task, List.getLast?_concat, found, isOwner, ended⟩

theorem startsNothing_renewSystemTaskLock (taskID lockedBy : String) (lockUntil : Int) :
    StartsNothing (renewSystemTaskLock taskID lockedBy lockUntil) := by
  refine ⟨rfl, fun now => ⟨rfl, fun renewed => ?_⟩⟩
  cases renewed with
  | true => trivial
  | false => trivial

theorem startsNothing_cancelSystemTask (taskID : String)
    (taskTypes : List String) (errorMessage : String) :
    StartsNothing (cancelSystemTask taskID taskTypes errorMessage) := by
  unfold cancelSystemTask
  dsimp only
  split
  · trivial
  · exact ⟨rfl, fun _ => trivial⟩

theorem startsNothing_cleanupInactiveSystemTaskLocks (lockType : String) (now : Int) :
    StartsNothing (cleanupInactiveSystemTaskLocks lockType now) := by
  have each : ∀ now, StartsNothing (do
      let locks ← run (.listLocks (trimSpace lockType) now)
      forEach (fun candidate => run (.cleanupLock candidate now)) locks
      return Outcome.accepted) := by
    intro now
    refine ⟨rfl, fun locks => ?_⟩
    exact startsNothing_loop (fun _ => ⟨rfl, fun _ => trivial⟩) trivial
  unfold cleanupInactiveSystemTaskLocks
  dsimp only
  split
  · trivial
  split
  · exact ⟨rfl, fun clock => each clock⟩
  · exact each now

theorem startsNothing_recoverOrphanedRunningSystemTasks (now : Int) :
    StartsNothing (recoverOrphanedRunningSystemTasks now) := by
  refine ⟨rfl, fun tasks => ?_⟩
  exact startsNothing_loop (fun _ => ⟨rfl, fun _ => trivial⟩) trivial

theorem startsNothing_expireStaleSystemTaskLocks (now : Int) :
    StartsNothing (expireStaleSystemTaskLocks now) := by
  refine ⟨rfl, fun locks => ?_⟩
  exact startsNothing_loop (fun _ => ⟨rfl, fun _ => trivial⟩)
    (startsNothing_recoverOrphanedRunningSystemTasks now)

theorem keeps_code (call : Call) (shared : Shared) :
    Keeps (fun trace outcome _ => outcome = .accepted → call.AcceptedBy trace)
      call.code [] shared := by
  have others : ∀ {program : Code Outcome}, StartsNothing program →
      (∀ trace, call.AcceptedBy trace) →
        Keeps (fun trace outcome _ => outcome = .accepted →
          call.AcceptedBy trace) program [] shared := by
    intro program startsNothing accepted
    exact (keeps_of_startsNothing startsNothing [] shared).mono
      (fun _ _ relied => relied) (fun _ _ _ assumed => assumed)
      (fun _ _ _ ensured => ensured) (fun _ _ moves => moves)
      (fun trace _ _ _ _ _ => accepted trace)
  cases call with
  | claim id taskType lockType runnerID lockUntil =>
    exact (keeps_claimSystemTask id taskType lockType runnerID lockUntil []
      shared).mono (fun _ _ relied => relied)
      (fun _ _ _ assumed => assumed) (fun _ _ _ ensured => ensured)
      (fun _ _ moves => moves) (fun _ _ _ _ _ _ => trivial)
  | updateState taskID lockedBy state =>
    exact keeps_updateSystemTaskState taskID lockedBy state shared
  | lockForExecution taskID lockedBy =>
    exact keeps_lockSystemTaskForExecution taskID lockedBy shared
  | finish taskID lockedBy status result errorMessage =>
    exact keeps_finishSystemTask taskID lockedBy status result errorMessage shared
  | renew taskID lockedBy lockUntil =>
    exact others (startsNothing_renewSystemTaskLock ..) fun _ => trivial
  | cancel taskID taskTypes errorMessage =>
    exact others (startsNothing_cancelSystemTask ..) fun _ => trivial
  | markFailed taskID lockedBy errorMessage =>
    exact others (startsNothing_markSystemTaskFailedForRunner ..) fun _ => trivial
  | release taskID lockedBy => exact others ⟨rfl, fun _ => trivial⟩ fun _ => trivial
  | cleanupInactive lockType now =>
    exact others (startsNothing_cleanupInactiveSystemTaskLocks ..) fun _ => trivial
  | expireStale now => exact others (startsNothing_expireStaleSystemTaskLocks now) fun _ => trivial
  | recoverOrphaned now =>
    exact others (startsNothing_recoverOrphanedRunningSystemTasks now) fun _ => trivial

end NewApi.SystemTasks
