import NewApi.ImageTasks.TaskCreations
import NewApi.Lib.OperationInvariants

/-!
# One open task for a key

A task that has not ended holds the lock of its key, and a key has one lock.
What a call has read before it deletes a lock stays true: tasks that have ended
stay so, a bound lock stays bound, and ids are not used again.
-/

namespace NewApi.ImageTasks

open Billing GoStrings Interleaving Tasks Transactions KeyedTable

namespace ClientTasks

def Closed (shared : ClientTasks) (id : Int) : Prop :=
  id < shared.nextTaskID ∧ ∀ task ∈ shared.tasks.rows, task.id = id → ¬ task.Open

def HasKey (shared : ClientTasks) (id userID : Int) (clientTaskID : String) :
    Prop :=
  ∃ task ∈ shared.tasks.rows, task.id = id ∧ task.userID = userID ∧ task.clientTaskID = clientTaskID

/-- A lock with the id belongs to a task that has ended. -/
def LockClosed (shared : ClientTasks) (id : Int) : Prop :=
  id < shared.nextLockID ∧ ∀ lock ∈ shared.locks.rows, lock.id = id →
    lock.taskPrimaryID ≠ 0 ∧ shared.Closed lock.taskPrimaryID

def LockGone (shared : ClientTasks) (id : Int) : Prop :=
  id < shared.nextLockID ∧ ∀ lock ∈ shared.locks.rows, lock.id ≠ id

structure Evolves (shared later : ClientTasks) : Prop where
  closed : ∀ id, shared.Closed id → later.Closed id
  hasKey : ∀ id userID clientTaskID, shared.HasKey id userID clientTaskID →
    later.HasKey id userID clientTaskID
  lockClosed : ∀ id, shared.LockClosed id → later.LockClosed id
  lockGone : ∀ id, shared.LockGone id → later.LockGone id ∧
    ∀ commit ∈ later.commits, commit.reservationID = id → commit ∈ shared.commits

namespace Evolves

variable {shared later last : ClientTasks}

theorem refl (shared : ClientTasks) : shared.Evolves shared :=
  ⟨fun _ closed => closed, fun _ _ _ has => has, fun _ closed => closed,
    fun _ gone => ⟨gone, fun _ listed _ => listed⟩⟩

theorem trans (first : shared.Evolves later) (second : later.Evolves last) :
    shared.Evolves last where
  closed id isClosed := second.closed id (first.closed id isClosed)
  hasKey id userID clientTaskID has :=
    second.hasKey id userID clientTaskID (first.hasKey id userID clientTaskID has)
  lockClosed id isClosed := second.lockClosed id (first.lockClosed id isClosed)
  lockGone id gone := by
    obtain ⟨goneLater, kept⟩ := first.lockGone id gone
    obtain ⟨goneLast, keptLast⟩ := second.lockGone id goneLater
    exact ⟨goneLast, fun commit listed same => kept commit (keptLast commit listed same) same⟩

end Evolves

/-! ## Operations -/

section Operations

variable {shared : ClientTasks}

theorem evolves_deleteLocks (shared : ClientTasks) (test : ImageTaskClientTaskIDLock → Bool) :
    shared.Evolves (shared.deleteLocks test).1 where
  closed _ closed := closed
  hasKey _ _ _ has := has
  lockClosed _ isClosed := ⟨isClosed.1, fun lock listed =>
      isClosed.2 lock (List.mem_filter.mp listed).1⟩
  lockGone _ gone :=
    ⟨⟨gone.1, fun lock listed => gone.2 lock (List.mem_filter.mp listed).1⟩,
      fun _ listed _ => listed⟩

variable {test : ImageTask → Bool} {update : TaskUpdate}

theorem mem_updateTasks {task : ImageTask}
    (listed : task ∈ (shared.updateTasks test update).tasks.rows) :
    ∃ old ∈ shared.tasks.rows, task.id = old.id ∧ task.userID = old.userID ∧
      task.clientTaskID = old.clientTaskID ∧ (task.Open → old.Open) := by
  obtain ⟨old, member, rfl⟩ := List.mem_map.mp listed
  refine ⟨old, member, ?_⟩
  split
  · exact ⟨update.id old, update.userID old, update.clientTaskID old, update.closed old⟩
  · exact ⟨rfl, rfl, rfl, id⟩

theorem closed_updateTasks {id : Int} (closed : shared.Closed id) :
    (shared.updateTasks test update).Closed id := by
  refine ⟨closed.1, ?_⟩
  intro task listed same isOpen
  obtain ⟨old, member, sameID, _, _, wasOpen⟩ := mem_updateTasks listed
  exact closed.2 old member (sameID.symm.trans same) (wasOpen isOpen)

theorem hasKey_updateTasks {id userID : Int} {clientTaskID : String}
    (has : shared.HasKey id userID clientTaskID) :
    (shared.updateTasks test update).HasKey id userID clientTaskID := by
  obtain ⟨task, member, sameID, sameUser, sameKey⟩ := has
  refine ⟨_, List.mem_map_of_mem member, ?_⟩
  split
  · exact ⟨(update.id task).trans sameID, (update.userID task).trans sameUser,
        (update.clientTaskID task).trans sameKey⟩
  · exact ⟨sameID, sameUser, sameKey⟩

theorem evolves_updateTasks (shared : ClientTasks) (test : ImageTask → Bool)
    (update : TaskUpdate) : shared.Evolves (shared.updateTasks test update) where
  closed _ := closed_updateTasks
  hasKey _ _ _ := hasKey_updateTasks
  lockClosed id isClosed := by
    refine ⟨isClosed.1, fun lock listed same => ?_⟩
    obtain ⟨bound, closed⟩ := isClosed.2 lock listed same
    exact ⟨bound, closed_updateTasks closed⟩
  lockGone _ gone := ⟨gone, fun _ listed _ => listed⟩

theorem evolves_createLock (shared : ClientTasks) (lock : ImageTaskClientTaskIDLock) :
    shared.Evolves (shared.createLock lock).1 := by
  unfold createLock
  split
  · exact Evolves.refl shared
  rename_i locks created
  have rows := rows_create created
  have isOld : ∀ other ∈ locks.rows, other.id < shared.nextLockID → other ∈ shared.locks.rows := by
    intro other listed before
    rw [rows, List.mem_append, List.mem_singleton] at listed
    rcases listed with old | rfl
    · exact old
    · exact absurd before (lt_irrefl _)
  refine ⟨fun _ closed => closed, fun _ _ _ has => has, ?_, ?_⟩
  · rintro id ⟨issued, closed⟩
    refine ⟨issued.trans (Int.lt_succ _), fun other listed same => ?_⟩
    exact closed other (isOld other listed (same ▸ issued)) same
  · rintro id ⟨issued, gone⟩
    refine ⟨⟨issued.trans (Int.lt_succ _), fun other listed same => ?_⟩, fun _ listed _ => listed⟩
    exact gone other (isOld other listed (same ▸ issued)) same

/-- A lock that is bound was reserved by the reservation, and no other lock
changes. -/
theorem bindLock_eq_some {locks bound : KeyedTable ImageTaskClientTaskIDLock.key}
    {reservation : ImageTaskClientTaskIDLock} {task : ImageTask} {now : Int}
    (done : bindLock locks reservation task now = some bound) :
    (∃ lock ∈ locks.rows, reservedBy reservation lock = true) ∧
      bound.rows = locks.rows.map fun lock =>
        if reservedBy reservation lock then
          { lock with
            taskPrimaryID := task.id
            publicTaskID := task.taskID
            updatedAt := now }
        else lock := by
  unfold bindLock at done
  split at done
  · rename_i single
    cases done
    obtain ⟨lock, only⟩ := List.length_eq_one_iff.mp single
    have member : lock ∈ locks.rows.filter (reservedBy reservation) := by
      rw [only]
      exact List.mem_singleton_self lock
    obtain ⟨listed, reserved⟩ := List.mem_filter.mp member
    exact ⟨⟨lock, listed, reserved⟩, rfl⟩
  · cases done

/-- A creation changes nothing, or charges and inserts the task together. -/
theorem commit_cases (env : BillingEnv) (shared : ClientTasks) (creation : Creation) :
    (shared.commit env creation).1 = shared ∨
      ∃ charged tasks locks, 0 ≤ creation.billing.preConsumedQuota ∧
        chargeCreation env shared.db shared.clock creation.billing = .ok charged ∧
        tasks.rows = shared.tasks.rows ++
          [{ creation.task with
              id := shared.nextTaskID
              quota := (charged.1.map ImageTaskCharge.quota).getD 0 }] ∧
        (∃ task : ImageTask, task.id = shared.nextTaskID ∧
          bindLock shared.locks creation.reservation task shared.clock = some locks) ∧
        (shared.commit env creation).1 =
          { shared with
            tasks
            nextTaskID := shared.nextTaskID + 1
            locks
            db := charged.2
            commits :=
              { taskPrimaryID := shared.nextTaskID
                reservationID := creation.reservation.id
                billing := creation.billing
                now := shared.clock
                charge := charged.1 } :: shared.commits } := by
  unfold commit
  split
  · exact Or.inl rfl
  rename_i accepted
  obtain ⟨_, nonneg⟩ := not_or.mp accepted
  split
  · exact Or.inl rfl
  rename_i charged charging
  dsimp only
  split
  · rename_i tasks locks inserted bound
    right
    exact ⟨charged, tasks, locks, not_lt.mp nonneg, charging,
        rows_create inserted, ⟨_, rfl, bound⟩, rfl⟩
  · exact Or.inl rfl

theorem evolves_commit (env : BillingEnv) (shared : ClientTasks)
    (creation : Creation) : shared.Evolves (shared.commit env creation).1 := by
  rcases commit_cases env shared creation with
    same | ⟨charged, tasks, locks, _, _, rows, ⟨task, _, bound⟩, next⟩
  · rw [same]
    exact Evolves.refl shared
  · rw [next]
    obtain ⟨⟨reserved, reservedMember, isReserved⟩, lockRows⟩ := bindLock_eq_some bound
    have closed : ∀ id, shared.Closed id →
        id < shared.nextTaskID + 1 ∧ ∀ task ∈ tasks.rows, task.id = id → ¬ task.Open := by
      rintro id ⟨issued, ended⟩
      refine ⟨issued.trans (Int.lt_succ _), fun other listed same => ?_⟩
      rw [rows, List.mem_append, List.mem_singleton] at listed
      rcases listed with old | rfl
      · exact ended other old same
      · exact absurd (same ▸ issued) (lt_irrefl _)
    refine ⟨closed, ?_, ?_, ?_⟩
    · rintro id userID clientTaskID ⟨other, member, has⟩
      refine ⟨other, ?_, has⟩
      rw [rows]
      exact List.mem_append_left _ member
    · rintro id ⟨issued, ended⟩
      refine ⟨issued, fun later listed same => ?_⟩
      rw [lockRows] at listed
      obtain ⟨lock, member, rfl⟩ := List.mem_map.mp listed
      by_cases isBound : reservedBy creation.reservation lock = true
      · -- A lock with a task is not bound again.
        rw [if_pos isBound] at same
        have unbound := (of_decide_eq_true isBound).2.2.2.2
        exact absurd unbound (ended lock member same).1
      · rw [if_neg isBound] at same ⊢
        obtain ⟨hasTask, taskClosed⟩ := ended lock member same
        exact ⟨hasTask, closed _ taskClosed⟩
    · rintro id ⟨issued, gone⟩
      refine ⟨⟨issued, fun later listed => ?_⟩, fun commit listed same => ?_⟩
      · rw [lockRows] at listed
        obtain ⟨lock, member, rfl⟩ := List.mem_map.mp listed
        split
        · exact gone lock member
        · exact gone lock member
      · rcases List.mem_cons.mp listed with rfl | old
        · have sameID := (of_decide_eq_true isReserved).1
          exact absurd (sameID.trans same) (gone reserved reservedMember)
        · exact old

theorem evolves_perform (env : ImageTaskEnv) (op : TaskOp)
    (shared : ClientTasks) : shared.Evolves (shared.perform env op).1 := by
  cases op with
  | now | findTask userID clientTaskID now => exact Evolves.refl shared
  | createLock lock => exact evolves_createLock shared lock
  | findLock userID clientTaskID | boundTaskReusable lock now => exact Evolves.refl shared
  | markReview taskPrimaryID now => exact evolves_updateTasks shared _ _
  | deleteStale id createdAt | deleteOrphaned id taskPrimaryID updatedAt | release reservation =>
    exact evolves_deleteLocks shared _
  | commit creation => exact evolves_commit _ shared creation
  | settledLocks cutoff limit => exact Evolves.refl shared
  | deleteLocks ids => exact evolves_deleteLocks shared _

theorem evolves_event (event : TaskEvent) (shared : ClientTasks) :
    shared.Evolves (event.run shared) := by
  cases event with
  | elapse seconds =>
    exact ⟨fun _ closed => closed, fun _ _ _ has => has, fun _ closed => closed,
        fun _ gone => ⟨gone, fun _ listed _ => listed⟩⟩
  | update id change => exact evolves_updateTasks shared _ _

end Operations

end ClientTasks

/-! ## The invariant -/

def TaskCommit.Paid (calendar : Calendar) (commit : TaskCommit) (before after : Database) : Prop :=
  match commit.charge with
  | none => commit.billing.billable = false ∧ after = before
  | some charge => commit.billing.billable = true ∧
      charge.Paid calendar commit.now commit.billing before after

/-- The tables are what these commits have paid, the latest first, and nothing
else. -/
def PaidFor (calendar : Calendar) (start : Database) :
    List TaskCommit → Database → Prop
  | [], db => db = start
  | commit :: earlier, db => ∃ before,
      PaidFor calendar start earlier before ∧ commit.Paid calendar before db

/-- Ids are in use once, bound locks have a task with their key, and every open
task has a lock with its key. -/
structure ClientTasks.Sound (shared : ClientTasks) : Prop where
  taskIDs : ∀ task ∈ shared.tasks.rows, 0 < task.id ∧ task.id < shared.nextTaskID
  positive : 0 < shared.nextTaskID
  lockIDs : ∀ lock ∈ shared.locks.rows, lock.id < shared.nextLockID
  lockOnce : (shared.locks.rows.map ImageTaskClientTaskIDLock.id).Nodup
  bound : ∀ lock ∈ shared.locks.rows, lock.taskPrimaryID ≠ 0 →
    shared.HasKey lock.taskPrimaryID lock.userID lock.clientTaskID
  held : ∀ task ∈ shared.tasks.rows, task.Open →
    ∃ lock ∈ shared.locks.rows, lock.taskPrimaryID = task.id ∧
      lock.userID = task.userID ∧ lock.clientTaskID = task.clientTaskID

/-- The tables are sound, and every task has been committed and paid once. -/
structure ClientTasks.Booked (calendar : Calendar) (start : Database)
    (shared : ClientTasks) : Prop extends shared.Sound where
  committed : shared.tasks.rows.map ImageTask.id =
    (shared.commits.map TaskCommit.taskPrimaryID).reverse
  paid : PaidFor calendar start shared.commits shared.db

namespace ClientTasks

section Booked

variable {calendar : Calendar} {start : Database} {shared : ClientTasks}

theorem Sound.open_once (sound : shared.Sound) {task other : ImageTask}
    (listed : task ∈ shared.tasks.rows) (otherListed : other ∈ shared.tasks.rows)
    (sameUser : task.userID = other.userID) (sameKey : task.clientTaskID = other.clientTaskID)
    (isOpen : task.Open) (otherOpen : other.Open) : task = other := by
  obtain ⟨lock, member, bound, user, key⟩ := sound.held task listed isOpen
  obtain ⟨otherLock, otherMember, otherBound, otherUser, otherKey⟩ :=
    sound.held other otherListed otherOpen
  have sameLock : lock = otherLock := by
    apply List.inj_on_of_nodup_map shared.locks.unique member otherMember
    rw [ImageTaskClientTaskIDLock.key, ImageTaskClientTaskIDLock.key, user, key,
      otherUser, otherKey, sameUser, sameKey]
  apply List.inj_on_of_nodup_map shared.tasks.unique listed otherListed
  rw [← bound, ← otherBound, sameLock]

theorem booked_deleteLocks (booked : shared.Booked calendar start)
    {test : ImageTaskClientTaskIDLock → Bool}
    (spares : ∀ lock ∈ shared.locks.rows, test lock = true →
      lock.taskPrimaryID = 0 ∨ shared.Closed lock.taskPrimaryID) :
    (shared.deleteLocks test).1.Booked calendar start where
  taskIDs := booked.taskIDs
  positive := booked.positive
  lockIDs lock listed := booked.lockIDs lock (List.mem_filter.mp listed).1
  lockOnce := (List.filter_sublist.map _).nodup booked.lockOnce
  bound lock listed := booked.bound lock (List.mem_filter.mp listed).1
  held task listed isOpen := by
    obtain ⟨lock, member, bound, hasKey⟩ := booked.held task listed isOpen
    refine ⟨lock, List.mem_filter.mpr ⟨member, ?_⟩, bound, hasKey⟩
    by_cases deleted : test lock = true
    · rcases spares lock member deleted with free | closed
      · have positive := (booked.taskIDs task listed).1
        omega
      · exact absurd isOpen (closed.2 task listed bound.symm)
    · simpa using deleted
  committed := booked.committed
  paid := booked.paid

theorem booked_updateTasks (booked : shared.Booked calendar start)
    (test : ImageTask → Bool) (update : TaskUpdate) :
    (shared.updateTasks test update).Booked calendar start where
  taskIDs task listed := by
    obtain ⟨old, member, sameID, _⟩ := mem_updateTasks listed
    rw [sameID]
    exact booked.taskIDs old member
  positive := booked.positive
  lockIDs := booked.lockIDs
  lockOnce := booked.lockOnce
  bound lock listed hasTask := hasKey_updateTasks (booked.bound lock listed hasTask)
  held task listed isOpen := by
    obtain ⟨old, member, sameID, sameUser, sameKey, wasOpen⟩ := mem_updateTasks listed
    rw [sameID, sameUser, sameKey]
    exact booked.held old member (wasOpen isOpen)
  committed := by
    change (shared.tasks.rows.map _).map _ = (shared.commits.map TaskCommit.taskPrimaryID).reverse
    rw [List.map_map, ← booked.committed]
    apply List.map_congr_left
    intro task _
    simp only [Function.comp_apply]
    split
    · exact update.id task
    · rfl
  paid := booked.paid

theorem booked_createLock (booked : shared.Booked calendar start)
    {lock : ImageTaskClientTaskIDLock} (unbound : lock.taskPrimaryID = 0) :
    (shared.createLock lock).1.Booked calendar start := by
  unfold createLock
  split
  · exact booked
  rename_i locks created
  have rows := rows_create created
  refine ⟨⟨booked.taskIDs, booked.positive, ?_, ?_, ?_, ?_⟩, booked.committed, booked.paid⟩
  · intro other listed
    simp only [rows, List.mem_append, List.mem_singleton] at listed
    rcases listed with old | rfl
    · exact (booked.lockIDs other old).trans (Int.lt_succ _)
    · exact Int.lt_succ _
  · simp only [rows, List.map_append, List.map_singleton]
    rw [← List.concat_eq_append]
    refine booked.lockOnce.concat fun listed => ?_
    obtain ⟨other, member, sameID⟩ := List.mem_map.mp listed
    exact absurd sameID (booked.lockIDs other member).ne
  · intro other listed hasTask
    simp only [rows, List.mem_append, List.mem_singleton] at listed
    rcases listed with old | rfl
    · exact booked.bound other old hasTask
    · exact absurd unbound hasTask
  · intro task listed isOpen
    obtain ⟨other, member, has⟩ := booked.held task listed isOpen
    refine ⟨other, ?_, has⟩
    simp only [rows, List.mem_append]
    exact Or.inl member

theorem chargeCreation_paid {env : BillingEnv} {now : Int}
    {billing : ImageTaskBilling} {charged : Option ImageTaskCharge × Database}
    (nonneg : 0 ≤ billing.preConsumedQuota)
    (fresh : billing.billable = true →
      shared.db.subscriptionPreConsumes.lookup billing.info.requestId = none)
    (done : chargeCreation env shared.db now billing = .ok charged)
    (taskPrimaryID reservationID : Int) :
    TaskCommit.Paid env.calendar
      ⟨taskPrimaryID, reservationID, billing, now, charged.1⟩ shared.db charged.2 := by
  unfold chargeCreation at done
  split at done
  · rename_i billable
    split at done
    · rename_i paid paying
      cases done
      exact ⟨billable, newImageTaskBillingSessionTx_paid nonneg (fresh billable) paying⟩
    · cases done
  · rename_i free
    cases done
    exact ⟨Bool.eq_false_iff.mpr free, rfl⟩

theorem booked_commit {env : BillingEnv} {creation : Creation}
    (booked : shared.Booked env.calendar start)
    (sameUser : creation.task.userID = creation.reservation.userID)
    (sameKey : creation.task.clientTaskID = trimSpace creation.reservation.clientTaskID)
    (fresh : creation.billing.billable = true →
      shared.db.subscriptionPreConsumes.lookup creation.billing.info.requestId = none) :
    (shared.commit env creation).1.Booked env.calendar start := by
  rcases commit_cases env shared creation with
    same | ⟨charged, tasks, locks, nonneg, charging, rows, ⟨task, taskID, bound⟩, next⟩
  · rw [same]
    exact booked
  · rw [next]
    obtain ⟨⟨reserved, reservedMember, isReserved⟩, lockRows⟩ := bindLock_eq_some bound
    have created : ∀ lock : ImageTaskClientTaskIDLock,
        reservedBy creation.reservation lock = true →
          lock.userID = creation.task.userID ∧ lock.clientTaskID = creation.task.clientTaskID := by
      intro lock isBound
      obtain ⟨_, user, key, _⟩ := of_decide_eq_true isBound
      exact ⟨user.trans sameUser.symm, key.trans sameKey.symm⟩
    refine ⟨⟨?_, ?_, ?_, ?_, ?_, ?_⟩, ?_, ?_⟩
    · intro other listed
      simp only [rows, List.mem_append, List.mem_singleton] at listed
      rcases listed with old | rfl
      · obtain ⟨positive, issued⟩ := booked.taskIDs other old
        exact ⟨positive, issued.trans (Int.lt_succ _)⟩
      · exact ⟨booked.positive, Int.lt_succ _⟩
    · exact booked.positive.trans (Int.lt_succ _)
    · intro later listed
      simp only [lockRows] at listed
      obtain ⟨lock, member, rfl⟩ := List.mem_map.mp listed
      have issued := booked.lockIDs lock member
      split
      · exact issued
      · exact issued
    · have sameIDs : locks.rows.map ImageTaskClientTaskIDLock.id =
          shared.locks.rows.map ImageTaskClientTaskIDLock.id := by
        rw [lockRows, List.map_map]
        apply List.map_congr_left
        intro lock _
        simp only [Function.comp_apply]
        split
        · rfl
        · rfl
      simp only [sameIDs]
      exact booked.lockOnce
    · intro later listed hasTask
      simp only [lockRows] at listed
      obtain ⟨lock, member, rfl⟩ := List.mem_map.mp listed
      unfold HasKey
      simp only [rows, List.mem_append, List.mem_singleton]
      by_cases isBound : reservedBy creation.reservation lock = true
      · obtain ⟨user, key⟩ := created lock isBound
        rw [if_pos isBound]
        exact ⟨_, Or.inr rfl, taskID.symm, user.symm, key.symm⟩
      · rw [if_neg isBound] at hasTask ⊢
        obtain ⟨other, otherMember, has⟩ := booked.bound lock member hasTask
        exact ⟨other, Or.inl otherMember, has⟩
    · intro other listed isOpen
      simp only [rows, List.mem_append, List.mem_singleton] at listed
      simp only [lockRows, List.mem_map, exists_exists_and_eq_and]
      rcases listed with old | rfl
      · obtain ⟨lock, member, hasTask, has⟩ := booked.held other old isOpen
        refine ⟨lock, member, ?_⟩
        have notBound : ¬ reservedBy creation.reservation lock = true := by
          intro isBound
          have unbound := (of_decide_eq_true isBound).2.2.2.2
          have positive := (booked.taskIDs other old).1
          omega
        rw [if_neg notBound]
        exact ⟨hasTask, has⟩
      · obtain ⟨user, key⟩ := created reserved isReserved
        refine ⟨reserved, reservedMember, ?_⟩
        rw [if_pos isReserved]
        exact ⟨taskID, user, key⟩
    · simp only [rows, List.map_append, List.map_cons, List.map_nil,
        List.reverse_cons, booked.committed]
    · exact ⟨shared.db, booked.paid, chargeCreation_paid nonneg fresh charging _ _⟩

end Booked

end ClientTasks

end NewApi.ImageTasks
