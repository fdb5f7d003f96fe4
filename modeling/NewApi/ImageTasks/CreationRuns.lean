import NewApi.ImageTasks.OneOpenTask

/-!
# Runs of image task creations

Every call deletes bound locks only of tasks that it has seen ended, and
commits only under a reservation of its own key.  So the tables stay sound in
every run, and a reservation that is gone commits nothing any more.
-/

namespace NewApi.ImageTasks

open Billing GoStrings Interleaving Tasks Transactions ClientTasks Evolves

/-- What makes an operation safe in the state that it meets. -/
def Justified (op : TaskOp) (shared : ClientTasks) : Prop :=
  match op with
  | .createLock lock => lock.taskPrimaryID = 0
  | .deleteOrphaned _ taskPrimaryID _ => shared.Closed taskPrimaryID
  | .deleteLocks ids => ∀ id ∈ ids, shared.LockClosed id
  | .commit creation =>
    creation.task.userID = creation.reservation.userID ∧
      creation.task.clientTaskID = trimSpace creation.reservation.clientTaskID
  | _ => True

/-- A request has an id of its own, under which nothing has been booked when
its task is created. -/
def FreshRequest (op : TaskOp) (shared : ClientTasks) : Prop :=
  match op with
  | .commit creation => creation.billing.billable = true →
      shared.db.subscriptionPreConsumes.lookup creation.billing.info.requestId = none
  | _ => True

instance decidableFreshRequest (op : TaskOp) (shared : ClientTasks) :
    Decidable (FreshRequest op shared) :=
  match op with
  | .commit _ => inferInstanceAs (Decidable (_ → _))
  | .now => isTrue trivial
  | .findTask .. => isTrue trivial
  | .createLock _ => isTrue trivial
  | .findLock .. => isTrue trivial
  | .boundTaskReusable .. => isTrue trivial
  | .markReview .. => isTrue trivial
  | .deleteStale .. => isTrue trivial
  | .deleteOrphaned .. => isTrue trivial
  | .release _ => isTrue trivial
  | .settledLocks .. => isTrue trivial
  | .deleteLocks _ => isTrue trivial

section Steps

variable {env : ImageTaskEnv} {start : Database} {shared : ClientTasks}

theorem booked_perform (booked : shared.Booked env.calendar start) (op : TaskOp)
    (fresh : FreshRequest op shared) (justified : Justified op shared) :
    (shared.perform env op).1.Booked env.calendar start := by
  cases op with
  | now | findTask userID clientTaskID now | findLock userID clientTaskID
  | boundTaskReusable lock now | settledLocks cutoff limit => exact booked
  | createLock lock => exact booked_createLock booked justified
  | markReview taskPrimaryID now => exact booked_updateTasks booked _ _
  | deleteStale id createdAt =>
    apply booked_deleteLocks booked
    intro lock _ isStale
    exact Or.inl (of_decide_eq_true isStale).2.1
  | deleteOrphaned id taskPrimaryID updatedAt =>
    apply booked_deleteLocks booked
    intro lock _ isOrphaned
    rw [(of_decide_eq_true isOrphaned).2.1]
    exact Or.inr justified
  | release reservation =>
    apply booked_deleteLocks booked
    intro lock _ reserved
    exact Or.inl (of_decide_eq_true reserved).2.2.2.2
  | commit creation => exact booked_commit booked justified.1 justified.2 fresh
  | deleteLocks ids =>
    apply booked_deleteLocks booked
    intro lock listed deleted
    have closed := justified lock.id (List.contains_iff_mem.mp deleted)
    exact Or.inr (closed.2 lock listed rfl).2

/-- A bound lock whose task is not reusable belongs to a task that has
ended. -/
theorem closed_of_not_reusable (sound : shared.Sound) {lock : ImageTaskClientTaskIDLock} {now : Int}
    (hasKey : shared.HasKey lock.taskPrimaryID lock.userID lock.clientTaskID)
    (notReusable : shared.boundTaskReusable env.reuseWindow lock now = false) :
    shared.Closed lock.taskPrimaryID := by
  obtain ⟨task, member, sameID, sameUser, sameKey⟩ := hasKey
  refine ⟨by rw [← sameID]; exact (sound.taskIDs task member).2, ?_⟩
  intro other listed otherID isOpen
  have same : other = task :=
    List.inj_on_of_nodup_map shared.tasks.unique listed member (otherID.trans sameID.symm)
  subst same
  have kept := List.any_eq_false.mp notReusable other listed
  apply kept
  exact decide_eq_true ⟨sameID, sameUser, sameKey, decide_eq_true (Or.inr (Or.inl isOpen))⟩

theorem lockClosed_of_settled (sound : shared.Sound) {cutoff limit id : Int}
    (selected : id ∈ shared.settledLocks cutoff limit) :
    shared.LockClosed id := by
  obtain ⟨lock, filtered, rfl⟩ := List.mem_map.mp (List.mem_of_mem_take selected)
  obtain ⟨member, settled⟩ := List.mem_filter.mp filtered
  obtain ⟨hasTask, _, ended⟩ := of_decide_eq_true settled
  refine ⟨sound.lockIDs lock member, fun other listed sameID => ?_⟩
  have same : other = lock := List.inj_on_of_nodup_map sound.lockOnce listed member sameID
  subst same
  refine ⟨hasTask.ne', ?_⟩
  obtain ⟨task, taskMember, taskID, _⟩ := sound.bound other member hasTask.ne'
  refine ⟨by rw [← taskID]; exact (sound.taskIDs task taskMember).2, ?_⟩
  intro bound boundListed boundID isOpen
  have found : shared.tasks.lookup other.taskPrimaryID = some bound :=
    KeyedTable.lookup_eq_some_iff.mpr ⟨boundListed, boundID⟩
  rw [found, Option.all_some, decide_eq_true_eq] at ended
  exact ended.1 isOpen

end Steps

def creationContract : Contract TaskOp ClientTasks where
  rely := ClientTasks.Evolves
  guarantee := ClientTasks.Evolves
  assume _ op shared := FreshRequest op shared
  ensure _ op shared := Justified op shared

/-- From this state on, the program keeps the contract and returns what the
postcondition says. -/
abbrev KeepsTasks {α : Type} (env : ImageTaskEnv) (start : Database)
    (post : α → ClientTasks → Prop) (program : TaskCode α)
    (trace : Trace TaskOp ClientTasks) (shared : ClientTasks) : Prop :=
  Meets (ClientTasks.perform env) (ClientTasks.Booked env.calendar start)
    creationContract (fun _ result later => post result later) program trace
    shared

section Rules

variable {env : ImageTaskEnv} {start : Database} {shared : ClientTasks}
  {trace : Trace TaskOp ClientTasks} {α β : Type}
  {post : α → ClientTasks → Prop}

theorem keepsTasks_done {result : α}
    (lasts : ∀ later, shared.Evolves later → later.Sound → post result later) :
    KeepsTasks env start post (.done result) trace shared :=
  fun later evolves booked => lasts later evolves booked.toSound

theorem keepsTasks_call {op : TaskOp} {next : TaskAnswer op → TaskCode α}
    (step : ∀ later, shared.Evolves later → later.Booked env.calendar start →
      Justified op later ∧
        ∀ trace, (later.perform env op).1.Booked env.calendar start →
          KeepsTasks env start post (next (later.perform env op).2) trace
            (later.perform env op).1) :
    KeepsTasks env start post (.call op next) trace shared := by
  intro later evolves booked fresh
  obtain ⟨justified, continues⟩ := step later evolves booked
  have bookedNext := booked_perform booked op fresh justified
  exact ⟨justified, evolves_perform env op later, bookedNext, continues _ bookedNext⟩

theorem keepsTasks_bind {middle : β → ClientTasks → Prop}
    {program : TaskCode β} {rest : β → TaskCode α} (booked : shared.Booked env.calendar start)
    (first : KeepsTasks env start middle program trace shared)
    (second : ∀ trace result later, later.Booked env.calendar start →
      middle result later → KeepsTasks env start post (rest result) trace later) :
    KeepsTasks env start post (program >>= rest) trace shared := by
  apply meets_bind refl booked
  exact first.mono (fun _ _ relied => relied) (fun _ _ _ assumed => assumed)
    (fun _ _ _ ensured => ensured) (fun _ _ evolves => evolves)
    (fun trace result later bookedLater returned => second trace result later bookedLater returned)

def Harmless (op : TaskOp) : Prop := ∀ shared, Justified op shared

theorem keepsTasks_of_harmless {program : TaskCode α} (harmless : program.Every Harmless) :
    KeepsTasks env start (fun _ _ => True) program trace shared := by
  induction program generalizing trace shared with
  | done result => exact keepsTasks_done fun _ _ _ => trivial
  | call op next ih =>
    apply keepsTasks_call
    intro later _ _
    exact ⟨harmless.1 later, fun trace _ => ih _ (harmless.2 _)⟩

end Rules

/-! ## Programs -/

section Programs

variable {env : ImageTaskEnv} {start : Database} {shared : ClientTasks}
  {trace : Trace TaskOp ClientTasks}

theorem harmless_getTask (userID : Int) (clientTaskID : String) :
    (getImageTaskByClientTaskID userID clientTaskID).Every Harmless := by
  unfold getImageTaskByClientTaskID
  split
  · trivial
  · exact ⟨fun _ => trivial, fun _ => ⟨fun _ => trivial, fun _ => trivial⟩⟩

theorem harmless_getLock (userID : Int) (clientTaskID : String) :
    (getImageTaskClientTaskIDLock userID clientTaskID).Every Harmless := by
  unfold getImageTaskClientTaskIDLock
  split
  · trivial
  · exact ⟨fun _ => trivial, fun _ => trivial⟩

theorem harmless_wait (userID : Int) (clientTaskID : String) (polls : Nat) :
    (waitForImageTaskIdempotencyReservation userID clientTaskID polls).Every Harmless := by
  induction polls with
  | zero => trivial
  | succ polls ih =>
    apply Program.every_bind (harmless_getTask userID clientTaskID)
    intro existing
    split
    · trivial
    apply Program.every_bind (harmless_getLock userID clientTaskID)
    intro lock
    split
    · trivial
    · exact ih

theorem harmless_release (reservation : ImageTaskClientTaskIDLock) :
    (releaseImageTaskClientTaskIDReservation reservation).Every Harmless := by
  unfold releaseImageTaskClientTaskIDReservation
  split
  · trivial
  · exact ⟨fun _ => trivial, fun _ => trivial⟩

def ReadsKey (lock : Option ImageTaskClientTaskIDLock) (shared : ClientTasks) :
    Prop :=
  ∀ row ∈ lock, row.taskPrimaryID ≠ 0 → shared.HasKey row.taskPrimaryID row.userID row.clientTaskID

theorem keepsTasks_getLock (userID : Int) (clientTaskID : String) :
    KeepsTasks env start ReadsKey
      (getImageTaskClientTaskIDLock userID clientTaskID) trace shared := by
  unfold getImageTaskClientTaskIDLock
  split
  · apply keepsTasks_done
    rintro later _ _ row ⟨⟩
  · apply keepsTasks_call
    intro later _ booked
    refine ⟨trivial, fun trace _ => keepsTasks_done ?_⟩
    intro last evolves _ row found hasTask
    obtain ⟨member, _⟩ := KeyedTable.lookup_eq_some_iff.mp found
    exact evolves.hasKey _ _ _ (booked.bound row member hasTask)

variable {lock : ImageTaskClientTaskIDLock}

theorem keepsTasks_reclaim (now : Int) (readsKey : ReadsKey (some lock) shared) :
    KeepsTasks env start (fun _ _ => True)
      (reclaimImageTaskClientTaskIDLockIfStale lock now) trace shared := by
  have lasts : ∀ deleted : Bool, ∀ trace later,
      KeepsTasks env start (fun _ _ => True) (.done deleted) trace later :=
    fun _ _ _ => keepsTasks_done fun _ _ _ => trivial
  unfold reclaimImageTaskClientTaskIDLockIfStale
  split
  · split
    · exact lasts _ _ _
    · unfold deleteStaleImageTaskClientTaskIDLock
      split
      · exact lasts _ _ _
      · exact keepsTasks_of_harmless ⟨fun _ => trivial, fun _ => trivial⟩
  · rename_i hasTask
    unfold imageTaskClientTaskIDLockBoundTaskReusable markExpiredOpenImageTaskSettlementReview
      deleteOrphanedImageTaskClientTaskIDLock
    by_cases negative : lock.taskPrimaryID ≤ 0
    · rw [if_pos negative, if_pos negative, if_pos (Or.inr negative)]
      exact lasts _ _ _
    · rw [if_neg negative, if_neg negative]
      apply keepsTasks_call
      intro looked evolves booked
      refine ⟨trivial, fun trace _ => ?_⟩
      cases answer : looked.boundTaskReusable env.reuseWindow lock now with
      | true =>
        change KeepsTasks env start _
          (if looked.boundTaskReusable env.reuseWindow lock now then _
            else _) _ _
        rw [if_pos answer]
        exact lasts _ _ _
      | false =>
        change KeepsTasks env start _
          (if looked.boundTaskReusable env.reuseWindow lock now then _
            else _) _ _
        rw [if_neg (by rw [answer]; exact Bool.false_ne_true)]
        have closed : looked.Closed lock.taskPrimaryID :=
          closed_of_not_reusable booked.toSound
            (evolves.hasKey _ _ _ (readsKey lock rfl hasTask)) answer
        apply keepsTasks_call
        intro reviewed evolvesReview bookedReview
        refine ⟨trivial, fun trace _ => ?_⟩
        split
        · exact lasts _ _ _
        apply keepsTasks_call
        intro later evolvesLater _
        refine ⟨?_, fun trace _ => lasts _ _ _⟩
        exact evolvesLater.closed _
            ((evolves_perform env _ reviewed).closed _ (evolvesReview.closed _ closed))

def Reserves (userID : Int) (clientTaskID : String) (reservation : Reservation)
    (_ : ClientTasks) : Prop :=
  reservation.2 = true → ∀ lock ∈ reservation.1,
    lock.userID = userID ∧ lock.clientTaskID = trimSpace clientTaskID

theorem createLock_answer {created : ImageTaskClientTaskIDLock}
    (done : created ∈ (shared.createLock lock).2) :
    created.userID = lock.userID ∧ created.clientTaskID = lock.clientTaskID := by
  unfold createLock at done
  split at done
  · cases done
  cases done
  exact ⟨rfl, rfl⟩

theorem keepsTasks_newReservation (userID : Int) (clientTaskID fingerprint : String) (now : Int)
    {rest : Option ImageTaskClientTaskIDLock → TaskCode Reservation}
    (created : ∀ lock, rest (some lock) = pure (some lock, true))
    (taken : ∀ trace later, later.Booked env.calendar start →
      KeepsTasks env start (Reserves userID clientTaskID) (rest none) trace later) :
    KeepsTasks env start (Reserves userID clientTaskID)
      (.call (.createLock (newReservation userID (trimSpace clientTaskID) fingerprint now)) rest)
      trace shared := by
  apply keepsTasks_call
  intro later _ _
  refine ⟨rfl, fun trace booked => ?_⟩
  cases answer : (later.createLock (newReservation userID
      (trimSpace clientTaskID) fingerprint now)).2 with
  | none =>
    change KeepsTasks env start _ (rest (later.createLock _).2) _ _
    rw [answer]
    exact taken trace _ booked
  | some lock =>
    change KeepsTasks env start _ (rest (later.createLock _).2) _ _
    rw [answer, created]
    apply keepsTasks_done
    rintro last _ _ _ other ⟨⟩
    exact createLock_answer answer

theorem keepsTasks_reserve (userID : Int) (clientTaskID fingerprint : String) :
    KeepsTasks env start (Reserves userID clientTaskID)
      (reserveImageTaskClientTaskID userID clientTaskID fingerprint) trace
      shared := by
  have notReserved : ∀ existing trace later,
      KeepsTasks env start (Reserves userID clientTaskID)
        (.done (existing, false)) trace later := by
    intro existing trace later
    apply keepsTasks_done
    rintro last _ _ ⟨⟩
  unfold reserveImageTaskClientTaskID
  dsimp only
  split
  · exact notReserved none _ _
  apply keepsTasks_call
  intro timed _ _
  refine ⟨trivial, fun trace _ => ?_⟩
  apply keepsTasks_newReservation
  · exact fun _ => rfl
  · intro trace later bookedLater
    apply keepsTasks_bind bookedLater (keepsTasks_getLock _ _)
    intro trace existing read bookedRead readsKey
    cases existing with
    | none => exact notReserved none _ _
    | some lock =>
      apply keepsTasks_bind bookedRead (keepsTasks_reclaim _ readsKey)
      intro trace deleted last bookedLast _
      split
      · apply keepsTasks_newReservation
        · exact fun _ => rfl
        · intro trace after bookedAfter
          apply keepsTasks_bind bookedAfter (keepsTasks_getLock _ _)
          intro trace found _ _ _
          exact notReserved found _ _
      · exact notReserved _ _ _

/-- A reservation for which the call has waited is its own. -/
def ReservesOk (userID : Int) (clientTaskID : String)
    (reserved : Except CreationOutcome Reservation) (_ : ClientTasks) : Prop :=
  ∀ reservation, reserved = .ok reservation →
    ∀ lock ∈ reservation.1, lock.userID = userID ∧ lock.clientTaskID = trimSpace clientTaskID

theorem keepsTasks_await (request : ImageTaskRequest) (clientTaskID : String)
    {waits : List Nat} {reservation : Reservation} (booked : shared.Booked env.calendar start)
    (reserves : Reserves request.userID clientTaskID reservation shared) :
    KeepsTasks env start (ReservesOk request.userID clientTaskID)
      (awaitReservation request clientTaskID waits reservation) trace
      shared := by
  have stops : ∀ outcome trace later,
      KeepsTasks env start (ReservesOk request.userID clientTaskID)
        (.done (.error outcome)) trace later := by
    intro outcome trace later
    apply keepsTasks_done
    rintro last _ _ other ⟨⟩
  induction waits generalizing reservation shared trace with
  | nil =>
    unfold awaitReservation
    split
    · rename_i own
      apply keepsTasks_done
      rintro later _ _ other ⟨⟩
      exact reserves own
    · split
      · exact stops _ _ _
      · exact stops _ _ _
  | cons polls rest ih =>
    unfold awaitReservation
    split
    · rename_i own
      apply keepsTasks_done
      rintro later _ _ other ⟨⟩
      exact reserves own
    · split
      · exact stops _ _ _
      apply keepsTasks_bind booked (keepsTasks_of_harmless (harmless_wait _ _ polls))
      intro trace waited later bookedLater _
      split
      · exact stops _ _ _
      · split
        · apply keepsTasks_bind bookedLater (keepsTasks_reserve _ _ _)
          intro trace again last bookedLast reservesAgain
          exact ih bookedLast reservesAgain
        · exact stops _ _ _

theorem trimSpace_normalized {value clientTaskID : String}
    (normalized : normalizeImageTaskClientTaskID value = some clientTaskID) :
    trimSpace clientTaskID = clientTaskID := by
  unfold normalizeImageTaskClientTaskID at normalized
  dsimp only at normalized
  split at normalized
  · cases normalized
    exact trimSpace_empty
  split at normalized
  · cases normalized
  split at normalized
  · cases normalized
  cases normalized
  exact trimSpace_trimSpace value

theorem keepsTasks_createReserved (request : ImageTaskRequest) {clientTaskID : String}
    (trimmed : trimSpace clientTaskID = clientTaskID) (booked : shared.Booked env.calendar start)
    (sameUser : lock.userID = request.userID) (sameKey : lock.clientTaskID = clientTaskID) :
    KeepsTasks env start (fun _ _ => True)
      (createReserved request clientTaskID lock) trace shared := by
  have released : ∀ (outcome : CreationOutcome) trace later,
      Booked env.calendar start later →
        KeepsTasks env start (fun _ _ => True)
          (releaseImageTaskClientTaskIDReservation lock >>= fun _ =>
            pure outcome) trace later := by
    intro outcome trace later bookedLater
    apply keepsTasks_bind bookedLater (keepsTasks_of_harmless (harmless_release lock))
    intro trace _ last _ _
    exact keepsTasks_done fun _ _ _ => trivial
  unfold createReserved
  split
  · exact released _ _ _ booked
  rename_i billing _
  have commits : KeepsTasks env start (fun _ _ => True)
      (runTask (.commit
        { task := newImageTask request clientTaskID
          billing
          reservation := lock })) trace shared := by
    apply keepsTasks_call
    intro later _ _
    refine ⟨⟨sameUser.symm, ?_⟩, fun _ _ => keepsTasks_done fun _ _ _ => trivial⟩
    change clientTaskID = trimSpace lock.clientTaskID
    rw [sameKey, trimmed]
  apply keepsTasks_bind booked commits
  intro trace committed later bookedLater _
  cases committed with
  | ok done => exact keepsTasks_done fun _ _ _ => trivial
  | error err => exact released _ _ _ bookedLater

theorem keepsTasks_create (request : ImageTaskRequest) (booked : shared.Booked env.calendar start) :
    KeepsTasks env start (fun _ _ => True) (createImageTaskInternal request) trace shared := by
  unfold createImageTaskInternal
  split
  · exact keepsTasks_done fun _ _ _ => trivial
  rename_i clientTaskID normalized
  have trimmed := trimSpace_normalized normalized
  split
  · exact keepsTasks_done fun _ _ _ => trivial
  apply keepsTasks_bind booked (keepsTasks_of_harmless (harmless_getTask _ _))
  intro trace existing looked bookedLooked _
  cases existing with
  | some task => exact keepsTasks_done fun _ _ _ => trivial
  | none =>
    apply keepsTasks_bind bookedLooked (keepsTasks_reserve _ _ _)
    intro trace first reserved bookedReserved reserves
    apply keepsTasks_bind bookedReserved
      (keepsTasks_await request clientTaskID bookedReserved reserves)
    intro trace awaited later bookedLater reservesOk
    cases awaited with
    | error outcome => exact keepsTasks_done fun _ _ _ => trivial
    | ok reservation =>
      dsimp only
      cases own : reservation.1 with
      | none => exact keepsTasks_done fun _ _ _ => trivial
      | some lock =>
        obtain ⟨sameUser, sameKey⟩ := reservesOk reservation rfl lock own
        rw [trimmed] at sameKey
        exact keepsTasks_createReserved request trimmed bookedLater sameUser sameKey

theorem keepsTasks_reclaimLock (userID : Int) (clientTaskID : String)
    (booked : shared.Booked env.calendar start) :
    KeepsTasks env start (fun _ _ => True) (reclaimLock userID clientTaskID) trace shared := by
  apply keepsTasks_bind booked (keepsTasks_getLock _ _)
  intro trace lock read bookedRead readsKey
  cases lock with
  | none => exact keepsTasks_done fun _ _ _ => trivial
  | some lock =>
    apply keepsTasks_call
    intro timed evolves _
    refine ⟨trivial, fun trace bookedTimed => ?_⟩
    have readsLater : ReadsKey (some lock) timed :=
      fun row found hasTask => evolves.hasKey _ _ _ (readsKey row found hasTask)
    apply keepsTasks_bind bookedTimed (keepsTasks_reclaim _ readsLater)
    intro trace deleted later _ _
    exact keepsTasks_done fun _ _ _ => trivial

theorem keepsTasks_cleanup (cutoff limit : Int) :
    KeepsTasks env start (fun _ _ => True)
      (cleanupExpiredImageTaskClientTaskIDLocks cutoff limit) trace
      shared := by
  unfold cleanupExpiredImageTaskClientTaskIDLocks
  split
  · exact keepsTasks_done fun _ _ _ => trivial
  apply keepsTasks_call
  intro selected _ booked
  refine ⟨trivial, fun trace _ => ?_⟩
  by_cases empty : (selected.settledLocks cutoff (if limit ≤ 0 then 1000 else limit)).isEmpty = true
  · change KeepsTasks env start _
      (if (selected.settledLocks cutoff
        (if limit ≤ 0 then 1000 else limit)).isEmpty then _ else _) _ _
    rw [if_pos empty]
    exact keepsTasks_done fun _ _ _ => trivial
  · change KeepsTasks env start _
      (if (selected.settledLocks cutoff
        (if limit ≤ 0 then 1000 else limit)).isEmpty then _ else _) _ _
    rw [if_neg empty]
    apply keepsTasks_call
    intro later evolves _
    refine ⟨fun id listed => ?_, fun _ _ => keepsTasks_done fun _ _ _ => trivial⟩
    exact evolves.lockClosed id (lockClosed_of_settled booked.toSound listed)

theorem keepsTasks_code (call : TaskCall) (booked : shared.Booked env.calendar start) :
    KeepsTasks env start (fun _ _ => True) call.code [] shared := by
  cases call with
  | create request => exact keepsTasks_create request booked
  | reclaim userID clientTaskID => exact keepsTasks_reclaimLock userID clientTaskID booked
  | cleanup cutoff limit => exact keepsTasks_cleanup cutoff limit

end Programs

def FreshRequests (env : ImageTaskEnv) (clock : Int) (db : Database)
    (actions : List (Action TaskCall TaskEvent)) : Prop :=
  GuardedRun (taskMachine env).act (OnStep FreshRequest) (taskStart clock db) actions

instance (env : ImageTaskEnv) (clock : Int) (db : Database)
    (actions : List (Action TaskCall TaskEvent)) :
    Decidable (FreshRequests env clock db actions) :=
  inferInstanceAs (Decidable (GuardedRun _ _ _ _))

theorem booked_event {env : ImageTaskEnv} {start : Database}
    (event : TaskEvent) {shared : ClientTasks} (booked : shared.Booked env.calendar start) :
    (event.run shared).Booked env.calendar start := by
  cases event with
  | elapse seconds =>
    exact ⟨⟨booked.taskIDs, booked.positive, booked.lockIDs, booked.lockOnce,
        booked.bound, booked.held⟩, booked.committed, booked.paid⟩
  | update id change => exact booked_updateTasks booked _ _

theorem booked_start (env : ImageTaskEnv) (clock : Int) (db : Database) :
    (taskStart clock db).shared.Booked env.calendar db := by
  refine ⟨⟨?_, Int.one_pos, ?_, List.nodup_nil, ?_, ?_⟩, rfl, rfl⟩
  · rintro task ⟨⟩
  · rintro lock ⟨⟩
  · rintro lock ⟨⟩
  · rintro task ⟨⟩

/-- Over any run, each task is booked with what its request was charged. -/
theorem booked_run {env : ImageTaskEnv} {clock : Int} {db : Database}
    {actions : List (Action TaskCall TaskEvent)} (fresh : FreshRequests env clock db actions) :
    (runTasks env clock db actions).shared.Booked env.calendar db := by
  have respects : GuardedRun (taskMachine env).act
      (Respects (Booked env.calendar db) (fun _ _ _ => True)
        fun _ _ => creationContract) (taskStart clock db) actions := by
    refine fresh.mono ?_
    intro config action passes
    cases action with
    | start call => exact ⟨trivial, fun _ _ _ _ _ _ _ => ⟨id, id⟩⟩
    | outside event => trivial
    | step number =>
      intro thread op next found code
      have freshHere := passes thread found
      rw [code] at freshHere
      exact freshHere
  have started : Kept (taskMachine env) (Booked env.calendar db)
      (fun _ _ => creationContract) (fun _ _ _ _ _ => True) (taskStart clock db) := by
    refine ⟨booked_start env clock db, ?_, ?_, ?_⟩
    · rintro number thread ⟨⟩
    · rintro number thread ⟨⟩
    · rintro number thread other otherThread ⟨⟩
  have kept := Kept.run (fun _ _ _ _ _ => Evolves.trans)
    (fun _ _ => refl)
    (fun _ call shared booked _ => keepsTasks_code call booked)
    (fun event shared booked => ⟨booked_event event booked,
      fun _ _ => evolves_event event shared⟩)
    respects started
  exact kept.shared

/-- Over any run, tasks are added and never removed. -/
theorem evolves_run (env : ImageTaskEnv)
    (config : Config TaskAnswer TaskCall ClientTasks CreationOutcome)
    (actions : List (Action TaskCall TaskEvent)) :
    config.shared.Evolves ((taskMachine env).run config actions).shared := by
  induction actions generalizing config with
  | nil => exact refl _
  | cons action rest ih =>
    refine trans ?_ (ih _)
    cases action with
    | start call => exact refl _
    | outside event => exact evolves_event event config.shared
    | step number =>
      simp only [Machine.act]
      split
      · exact refl _
      · unfold Machine.advance
        split
        · exact refl _
        · exact evolves_perform env _ config.shared

/-- In every run a key has at most one open task, the pre-consumed quota of
every committed task has been paid once by the wallet or by a subscription
unless it is free, and a reservation that is gone commits nothing any more. -/
theorem one_open_task_per_key {env : ImageTaskEnv} {clock : Int} {db : Database}
    {actions : List (Action TaskCall TaskEvent)} (fresh : FreshRequests env clock db actions) :
    (∀ task ∈ (runTasks env clock db actions).shared.tasks.rows,
      ∀ other ∈ (runTasks env clock db actions).shared.tasks.rows,
        task.userID = other.userID → task.clientTaskID = other.clientTaskID →
          task.Open → other.Open → task = other) ∧
    ((runTasks env clock db actions).shared.tasks.rows.map ImageTask.id =
        ((runTasks env clock db actions).shared.commits.map TaskCommit.taskPrimaryID).reverse ∧
      PaidFor env.calendar db (runTasks env clock db actions).shared.commits
        (runTasks env clock db actions).shared.db) ∧
    ∀ before after, actions = before ++ after → ∀ reservationID,
      (runTasks env clock db before).shared.LockGone reservationID →
        ∀ commit ∈ (runTasks env clock db actions).shared.commits,
          commit.reservationID = reservationID →
            commit ∈ (runTasks env clock db before).shared.commits := by
  have booked := booked_run fresh
  refine ⟨?_, ⟨booked.committed, booked.paid⟩, ?_⟩
  · intro task listed other otherListed sameUser sameKey isOpen otherOpen
    exact booked.toSound.open_once listed otherListed sameUser sameKey isOpen otherOpen
  · rintro before after rfl reservationID gone commit listed ofReservation
    have evolves := evolves_run env (runTasks env clock db before) after
    have split : runTasks env clock db (before ++ after) =
        (taskMachine env).run (runTasks env clock db before) after := by
      unfold runTasks Machine.run
      rw [execute_append]
    rw [split] at listed
    exact (evolves.lockGone reservationID gone).2 commit listed ofReservation

def sampleEnv : ImageTaskEnv where
  calendar := .sample
  baseGroups _ := []
  allowWalletOverflow _ := true
  reuseWindow := 3600

def sampleDatabase : Database :=
  { Database.empty with
    users := { rows := [⟨1, 100⟩], unique := Billing.Database.sample.users.unique }
    tokens :=
      { rows := [⟨1, 100, 0, false⟩]
        unique := Billing.Database.sample.tokens.unique } }

def sampleRequest (requestID : String) (billable : Bool) : ImageTaskRequest where
  userID := 1
  tokenID := 1
  clientTaskID := "key"
  taskID := requestID
  fingerprint := "body"
  strictIdempotency := false
  waits := [1]
  prepared := some
    { info := ⟨1, 1, requestID, false, false⟩
      usingGroup := "default"
      billingPreference := "wallet_only"
      preConsumedQuota := 10
      billable }

def taskSteps (number count : Nat) : List (Action TaskCall TaskEvent) :=
  List.replicate count (.step number)

def sameKeyRun : List (Action TaskCall TaskEvent) :=
  [.start (.create (sampleRequest "first" true)),
    .start (.create (sampleRequest "second" true))] ++
    taskSteps 1 2 ++ taskSteps 0 5 ++ taskSteps 1 10

theorem same_key_paid_once :
    (runTasks sampleEnv 1000 sampleDatabase sameKeyRun).shared.tasks.rows.map ImageTask.id = [1] ∧
      PaidFor .sample sampleDatabase
        (runTasks sampleEnv 1000 sampleDatabase sameKeyRun).shared.commits
        (runTasks sampleEnv 1000 sampleDatabase sameKeyRun).shared.db :=
  ⟨by decide +kernel,
    (@one_open_task_per_key sampleEnv 1000 sampleDatabase sameKeyRun (by decide +kernel)).2.1.2⟩

def freeRun : List (Action TaskCall TaskEvent) :=
  .start (.create (sampleRequest "first" false)) :: taskSteps 0 5

/-- It is committed without a pre-consumption. -/
theorem free_task_is_not_paid :
    (runTasks sampleEnv 1000 sampleDatabase freeRun).shared.tasks.rows.map ImageTask.id = [1] ∧
      (runTasks sampleEnv 1000 sampleDatabase freeRun).shared.db.users.rows =
        sampleDatabase.users.rows ∧
      (runTasks sampleEnv 1000 sampleDatabase
        freeRun).shared.db.subscriptionPreConsumes.rows = [] := by
  refine ⟨?_, ?_, ?_⟩
  · decide +kernel
  · decide +kernel
  · decide +kernel

end NewApi.ImageTasks
