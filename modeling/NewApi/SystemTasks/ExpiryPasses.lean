import NewApi.SystemTasks.RunnerCalls

/-!
# Passes over expired locks

A pass of `ExpireStaleSystemTaskLocks` ends the run of every task under a lock
that has expired.  A lock is expiring until its row is gone, then lost, and over
after the second loop of the pass.
-/

namespace NewApi.SystemTasks

open Interleaving Shared

variable {start : SystemTaskStart} {now : Int} {shared next : Shared}

def Shared.RunsUnder (shared : Shared) (start : SystemTaskStart) : Prop :=
  shared.Runs start.taskID start.runnerID ∧ start ∈ shared.starts

def Shared.HasRow (shared : Shared) (start : SystemTaskStart) : Prop :=
  ∃ lock ∈ shared.locks.rows, lock.type = start.lockType ∧ lock.IsOf start.taskID start.runnerID

/-- Without its row, a lock has no task running or is one of no locks. -/
def Shared.Abandoned (shared : Shared) (start : SystemTaskStart) : Prop :=
  ¬ shared.RunsUnder start ∨ shared.NoLock start.taskID start.runnerID

structure Shared.Expiring (shared : Shared) (start : SystemTaskStart) (now : Int) : Prop where
  expired : ∀ lock ∈ shared.locks.rows, lock.type = start.lockType →
    lock.IsOf start.taskID start.runnerID → lock.lockedUntil < now
  abandoned : ¬ shared.HasRow start → shared.Abandoned start

def Shared.Lost (shared : Shared) (start : SystemTaskStart) : Prop :=
  ¬ shared.HasRow start ∧ shared.Abandoned start

def Shared.Over (shared : Shared) (start : SystemTaskStart) : Prop :=
  ¬ shared.HasRow start ∧ ¬ shared.RunsUnder start

def Shared.GrantsNone (shared next : Shared) (start : SystemTaskStart) : Prop :=
  ∀ lock ∈ next.locks.rows, lock.IsOf start.taskID start.runnerID → lock ∈ shared.locks.rows

theorem hasRow_of_next (grantsNone : shared.GrantsNone next start)
    (row : next.HasRow start) : shared.HasRow start := by
  obtain ⟨lock, listed, ofType, isOf⟩ := row
  exact ⟨lock, grantsNone lock listed isOf, ofType, isOf⟩

theorem runsUnder_of_next (moves : shared.Moves next)
    (noRow : ¬ shared.HasRow start) (runs : next.RunsUnder start) :
    shared.RunsUnder start := by
  obtain ⟨⟨later, found, isRunning, isOwner⟩, listed⟩ := runs
  rcases moves.startsHeld start.taskID later found isRunning with
    ⟨task, taskFound, taskRunning, sameOwner, starts⟩ | held
  · refine ⟨⟨task, taskFound, taskRunning, ?_⟩, starts start listed rfl⟩
    rw [← sameOwner]
    exact isOwner
  · obtain ⟨lock, lockListed, ofType, isOf⟩ := held start listed rfl
    exact absurd ⟨lock, lockListed, ofType, isOf⟩ noRow

theorem abandoned_next (moves : shared.Moves next) (grantsNone : shared.GrantsNone next start)
    (noRow : ¬ shared.HasRow start) (abandoned : shared.Abandoned start) :
    next.Abandoned start := by
  rcases abandoned with idle | noLock
  · exact Or.inl fun runs => idle (runsUnder_of_next moves noRow runs)
  · exact Or.inr fun lock listed isOf => noLock lock (grantsNone lock listed isOf) isOf

theorem expiring_next (expiring : shared.Expiring start now)
    (moves : shared.Moves next) (grantsNone : shared.GrantsNone next start) :
    next.Expiring start now where
  expired lock listed ofType isOf := expiring.expired lock (grantsNone lock listed isOf) ofType isOf
  abandoned noRow := by
    by_cases row : shared.HasRow start
    · obtain ⟨lock, listed, ofType, ofTask, ofRunner⟩ := row
      rcases moves.releases lock listed with
        ⟨kept, keptListed, keptType, keptTask, keptRunner⟩ | idle | noLock
      · exact absurd ⟨kept, keptListed, keptType.trans ofType,
          keptTask.trans ofTask, keptRunner.trans ofRunner⟩ noRow
      · rw [ofTask, ofRunner] at idle
        exact Or.inl fun runs => idle runs.1
      · rw [ofTask, ofRunner] at noLock
        exact Or.inr noLock
    · exact abandoned_next moves grantsNone row (expiring.abandoned row)

theorem lost_next (lost : shared.Lost start) (moves : shared.Moves next)
    (grantsNone : shared.GrantsNone next start) : next.Lost start :=
  ⟨fun row => lost.1 (hasRow_of_next grantsNone row), abandoned_next moves grantsNone lost.1 lost.2⟩

theorem over_next (ended : shared.Over start) (moves : shared.Moves next)
    (grantsNone : shared.GrantsNone next start) : next.Over start :=
  ⟨fun row => ended.1 (hasRow_of_next grantsNone row),
    fun runs => ended.2 (runsUnder_of_next moves ended.1 runs)⟩

structure Shared.Heeds (start : SystemTaskStart) (now : Int) (shared later : Shared) : Prop where
  persists : shared.Persists later
  expiring : shared.Expiring start now → later.Expiring start now
  lost : shared.Lost start → later.Lost start
  ended : shared.Over start → later.Over start

theorem Shared.Heeds.refl (shared : Shared) : Heeds start now shared shared :=
  ⟨.refl shared, fun stage => stage, fun stage => stage, fun stage => stage⟩

theorem Shared.Heeds.trans {first second third : Shared}
    (before : Heeds start now first second) (after : Heeds start now second third) :
    Heeds start now first third :=
  ⟨before.persists.trans after.persists,
    fun stage => after.expiring (before.expiring stage),
    fun stage => after.lost (before.lost stage),
    fun stage => after.ended (before.ended stage)⟩

theorem Shared.Moves.heeds (moves : shared.Moves next) (grantsNone : shared.GrantsNone next start) :
    Heeds start now shared next :=
  ⟨moves.persists, fun stage => expiring_next stage moves grantsNone,
    fun stage => lost_next stage moves grantsNone,
    fun stage => over_next stage moves grantsNone⟩

/-- No step grants or renews a lock of the runner for the task. -/
def passContract (start : SystemTaskStart) (now : Int) :
    Contract Op Shared where
  rely shared later := Shared.Heeds start now shared later
  guarantee shared next := Shared.Heeds start now shared next
  assume _ op shared := shared.GrantsNone (shared.perform op).1 start
  ensure _ _ _ := True

/-- From this state on, the program keeps the contract of the pass. -/
abbrev Passes {α : Type} (start : SystemTaskStart) (now : Int)
    (post : Shared → Prop) (program : Code α) (trace : Trace Op Shared) (shared : Shared) : Prop :=
  Meets Shared.perform (fun _ => True) (passContract start now)
    (fun _ _ later => post later) program trace shared

variable {trace : Trace Op Shared}

theorem passes_of_keeps {α : Type} {program : Code α} {post : Trace Op Shared → α → Shared → Prop}
    (keeps : Keeps post program trace shared) :
    Passes start now (fun _ => True) program trace shared :=
  keeps.mono_step (fun _ _ heeds => heeds.persists) (fun _ _ _ _ => trivial)
    (fun _ _ _ grantsNone _ moves => ⟨trivial, Moves.heeds moves grantsNone⟩)
    (fun _ _ _ _ _ => trivial)

variable {post : Shared → Prop}

theorem passes_call {α : Type} {op : Op} {rest : Answer op → Code α}
    (reads : ∀ shared : Shared, shared.Reads op)
    (after : ∀ later, Heeds start now shared later →
      Heeds start now later (later.perform op).1 →
        Passes start now post (rest (later.perform op).2)
          (trace ++ [(op, later)]) (later.perform op).1) :
    Passes start now post (.call op rest) trace shared := by
  intro later relied _ grantsNone
  have heeds : Heeds start now later (later.perform op).1 :=
    (later.moves_perform op (reads later)).heeds grantsNone
  exact ⟨trivial, heeds, trivial, after later relied heeds⟩

/-! ## The loops -/

theorem no_row_of_expireLock (expiring : shared.Expiring start now)
    {staleLock : SystemTaskLock} (ofType : staleLock.type = start.lockType)
    (isOf : staleLock.IsOf start.taskID start.runnerID) :
    ¬ (shared.expireLock staleLock now).HasRow start := by
  have notMatched : ∀ lock ∈ shared.locks.rows,
      lock.type = start.lockType → lock.IsOf start.taskID start.runnerID →
        (lock.type = staleLock.type ∧ lock.taskID = staleLock.taskID ∧
          lock.lockedBy = staleLock.lockedBy ∧ lock.lockedUntil < now) := by
    intro lock listed lockType lockOf
    exact ⟨lockType.trans ofType.symm, lockOf.1.trans isOf.1.symm,
      lockOf.2.trans isOf.2.symm, expiring.expired lock listed lockType lockOf⟩
  unfold expireLock
  split
  case h_1 absent =>
    rintro ⟨lock, listed, lockType, lockOf⟩
    have unmatched := List.find?_eq_none.mp absent lock listed
    simp only [decide_eq_true_eq] at unmatched
    exact unmatched (notMatched lock listed lockType lockOf)
  case h_2 currentLock located =>
    have current := List.find?_some located
    simp only [decide_eq_true_eq] at current
    have deleted : ∀ lock, lock.type = start.lockType →
        lock ∉ (shared.deleteLocksWhere fun lock =>
          lock.type = currentLock.type).locks.rows := by
      intro lock lockType listed
      have kept := (List.mem_filter.mp listed).2
      simp only [Bool.not_eq_true', decide_eq_false_iff_not] at kept
      exact kept (lockType.trans (ofType.symm.trans current.1.symm))
    split
    · rintro ⟨lock, listed, lockType, -⟩
      exact deleted lock lockType listed
    · rintro ⟨lock, listed, lockType, -⟩
      exact deleted lock lockType listed

theorem passes_expireLocks {α : Type} {rest : Unit → Code α}
    (after : ∀ trace shared, shared.Lost start → Passes start now post (rest ()) trace shared)
    (staleLocks : List SystemTaskLock) (expiring : shared.Expiring start now)
    (remaining : ¬ shared.HasRow start ∨ ∃ staleLock ∈ staleLocks,
      staleLock.type = start.lockType ∧ staleLock.IsOf start.taskID start.runnerID) :
    Passes start now post
      (forEach (fun staleLock => run (.expireLock staleLock now)) staleLocks >>=
        rest) trace shared := by
  induction staleLocks generalizing shared trace with
  | nil =>
    refine after trace shared ?_
    have noRow := remaining.resolve_right (by simp)
    exact ⟨noRow, expiring.abandoned noRow⟩
  | cons staleLock staleLocks ih =>
    refine passes_call (fun _ => trivial) fun later relied heeds => ?_
    have stage := relied.expiring expiring
    refine ih (heeds.expiring stage) ?_
    by_cases row : later.HasRow start
    · by_cases isLock : staleLock.type = start.lockType ∧ staleLock.IsOf start.taskID start.runnerID
      · exact Or.inl (no_row_of_expireLock stage isLock.1 isLock.2)
      · right
        have notLost : shared.HasRow start := by
          by_contra noRow
          exact (relied.lost ⟨noRow, expiring.abandoned noRow⟩).1 row
        obtain ⟨other, listed, ofType, isOf⟩ := remaining.resolve_left (not_not.mpr notLost)
        rcases List.mem_cons.mp listed with rfl | later_
        · exact absurd ⟨ofType, isOf⟩ isLock
        · exact ⟨other, later_, ofType, isOf⟩
    · left
      exact (heeds.lost ⟨row, stage.abandoned row⟩).1

theorem locks_recoverTask (shared : Shared) (candidate : SystemTask)
    (now : Int) : (shared.recoverTask candidate now).locks = shared.locks := by
  unfold recoverTask
  split
  · rfl
  split
  · rfl
  · rfl

theorem over_of_recoverTask (lost : shared.Lost start) {candidate task : SystemTask}
    (found : shared.tasks.lookup start.taskID = some task) (isCandidate : candidate.id = task.id) :
    (shared.recoverTask candidate now).Over start := by
  have sameLocks := locks_recoverTask shared candidate now
  have noRow : ¬ (shared.recoverTask candidate now).HasRow start := by
    rw [HasRow, sameLocks]
    exact lost.1
  by_cases runs : shared.RunsUnder start
  · have noLock := lost.2.resolve_left (not_not.mpr runs)
    obtain ⟨⟨row, rowFound, isRunning, isOwner⟩, -⟩ := runs
    rw [found] at rowFound
    cases rowFound
    obtain ⟨listed, ofTask⟩ := KeyedTable.lookup_eq_some_iff.mp found
    refine ⟨noRow, fun after => ?_⟩
    have runsAfter := after.1
    unfold recoverTask at runsAfter
    split at runsAfter
    case h_1 absent =>
      have unmatched := List.find?_eq_none.mp absent task listed
      simp only [decide_eq_true_eq] at unmatched
      exact unmatched ⟨isCandidate.symm, isRunning⟩
    case h_2 other located =>
      have matched := List.find?_some located
      simp only [decide_eq_true_eq] at matched
      have isTask : other = task := List.inj_on_of_nodup_map shared.ids
        (List.mem_of_find?_eq_some located) listed
        (matched.1.trans isCandidate)
      subst isTask
      split at runsAfter
      case isTrue hasLock =>
        obtain ⟨lock, lockListed, lockOf⟩ := List.any_eq_true.mp hasLock
        obtain ⟨lockTask, lockOwner, -⟩ := of_decide_eq_true lockOf
        exact noLock lock lockListed ⟨lockTask.trans ofTask, lockOwner.trans isOwner⟩
      case isFalse =>
        exact not_runs_of_ended found (decide_eq_true ⟨rfl, isRunning, rfl⟩) rfl runsAfter
  · have moves := shared.moves_perform (.recoverTask candidate now) trivial
    refine over_next ⟨lost.1, runs⟩ moves ?_
    intro lock listed _
    rw [← sameLocks]
    exact listed

theorem passes_recoverTasks {α : Type} {rest : Unit → Code α}
    (after : ∀ trace shared, shared.Over start → Passes start now post (rest ()) trace shared)
    (candidates : List SystemTask) (lost : shared.Lost start)
    (remaining : ¬ shared.RunsUnder start ∨ ∃ candidate ∈ candidates,
      ∃ task, shared.tasks.lookup start.taskID = some task ∧ candidate.id = task.id) :
    Passes start now post
      (forEach (fun candidate => run (.recoverTask candidate now))
        candidates >>= rest) trace shared := by
  induction candidates generalizing shared trace with
  | nil =>
    refine after trace shared ⟨lost.1, ?_⟩
    exact remaining.resolve_right (by simp)
  | cons candidate candidates ih =>
    refine passes_call (fun _ => trivial) fun later relied heeds => ?_
    have stage := relied.lost lost
    refine ih (heeds.lost stage) ?_
    rcases remaining with idle | ⟨other, listed, task, found, isTask⟩
    · exact Or.inl (heeds.ended (relied.ended ⟨lost.1, idle⟩)).2
    obtain ⟨laterTask, laterFound, advances⟩ := relied.persists found
    have isLater : other.id = laterTask.id := isTask.trans advances.id.symm
    rcases List.mem_cons.mp listed with rfl | remains
    · exact Or.inl (over_of_recoverTask stage laterFound isLater).2
    · obtain ⟨next, nextFound, advancesNext⟩ := heeds.persists laterFound
      exact Or.inr ⟨other, remains, next, nextFound, isLater.trans advancesNext.id.symm⟩

/-- At the end of a pass that starts after a lock has expired, the run under
the lock is over. -/
theorem passes_expireStaleSystemTaskLocks (expiring : shared.Expiring start now) :
    Passes start now (fun later => later.Over start)
      (expireStaleSystemTaskLocks now) trace shared := by
  refine passes_call (fun _ => trivial) fun first relied heeds => ?_
  have stage := relied.expiring expiring
  refine passes_expireLocks ?_ _ (heeds.expiring stage) ?_
  · intro traceAfter lostShared lost
    refine passes_call (fun _ => trivial) fun second reliedSecond heedsSecond => ?_
    have lostSecond := reliedSecond.lost lost
    refine passes_recoverTasks ?_ _ (heedsSecond.lost lostSecond) ?_
    · intro _ overShared ended later overLater _
      exact overLater.ended ended
    · by_cases runs : second.RunsUnder start
      · right
        obtain ⟨⟨task, found, isRunning, -⟩, -⟩ := runs
        obtain ⟨listed, -⟩ := KeyedTable.lookup_eq_some_iff.mp found
        exact ⟨task, List.mem_filter.mpr ⟨listed, decide_eq_true isRunning⟩, task, found, rfl⟩
      · exact Or.inl (heedsSecond.ended ⟨lostSecond.1, runs⟩).2
  · by_cases row : first.HasRow start
    · right
      obtain ⟨lock, listed, ofType, isOf⟩ := row
      refine ⟨lock, List.mem_filter.mpr ⟨listed, ?_⟩, ofType, isOf⟩
      exact decide_eq_true (stage.expired lock listed ofType isOf)
    · exact Or.inl row

end NewApi.SystemTasks
