import NewApi.Lib.FairQueues
import NewApi.TaskRows.RowWriters

/-!
# Dispatch of image tasks

`GetRunnableImageTasks` selects the image tasks that are due, a few of each
channel, drops the parked reviews among them and hands out the rest by turns.
Workers claim what they are given, so it leaves the selection.

Both statements cast `data` to `TEXT`, which MySQL cannot parse.
-/

namespace NewApi.TaskRows

open NewApi.Tasks GoStrings FairDispatch TaskContents

variable {Snapshot : Type}

def imageTaskPortableStorageNode : String := "__portable__"

inductive DatabaseType where
  | mySQL
  | sqlite
  | postgreSQL
deriving DecidableEq

/-- A worker that calls for tasks at the time `now` and claims what it gets.
`privateTextLike` is `CAST(private_data AS TEXT) LIKE pattern` of the
database. -/
structure ImageWorker (Snapshot : Type) where
  mainDatabaseType : DatabaseType
  nodeName : String
  imageTaskFileCacheShared : Bool
  imageTaskSharedCacheDisabled : Bool
  imageTaskLocalFileCacheAffinity : Bool
  privateTextLike : String → TaskPrivateData Snapshot → Bool
  owner : String
  leaseSeconds : Int
  now : Int
  named : owner ≠ ""
  leases : 0 < leaseSeconds
  started : 0 ≤ now

namespace ImageWorker

def storageNodeFilter (worker : ImageWorker Snapshot) (storageNode : String) :
    Bool :=
  let node := trimSpace worker.nodeName
  if worker.imageTaskFileCacheShared then
    if !worker.imageTaskSharedCacheDisabled then true
    else if node = "" then storageNode = imageTaskPortableStorageNode
    else storageNode = node ∨ storageNode = imageTaskPortableStorageNode
  else if !worker.imageTaskLocalFileCacheAffinity ∨ node = "" then true
  else storageNode = node ∨ storageNode = imageTaskPortableStorageNode

def evidencePattern : String := "%\"settlement_evidence_captured_at\":%"

/-- `imageTaskRetryableReviewPayloadWhere`.  Of the alternatives, only the data
of the result asks whether the result has been cleaned up. -/
def retryableReviewPayload (worker : ImageWorker Snapshot) (task : TaskContents Snapshot) : Bool :=
  task.column .imageTaskResultStored = true ∨
    (task.column .resultCleanedAt = 0 ∧ task.column .data ≠ "") ∨
    worker.privateTextLike evidencePattern task.privateData = true ∨
    worker.privateTextLike "%\"result_body_path\":\"%" task.privateData = true ∨
    worker.privateTextLike "%\"request_body_path\":\"%" task.privateData = true ∨
    worker.privateTextLike "%\"request_body_base64\":\"%" task.privateData = true

def retryableReviewDue (worker : ImageWorker Snapshot) (task : TaskContents Snapshot) : Bool :=
  task.column .settlementStatus = .review ∧
    task.column .lockUntil ≤ worker.now ∧
    ((0 < task.column .nextPollAt ∧ task.column .nextPollAt ≤ worker.now ∧
        worker.retryableReviewPayload task = true) ∨
      (task.column .nextPollAt = 0 ∧
        worker.privateTextLike evidencePattern task.privateData = true))

/-- The three queries whose union both statements read.  Only tasks that have
not ended keep to their storage node. -/
def selects (worker : ImageWorker Snapshot) (task : TaskContents Snapshot) :
    Bool :=
  task.column .platform = taskPlatformImage ∧
    (((task.column .status ≠ .failure ∧ task.column .status ≠ .success) ∧
        task.isDue worker.now = true ∧
        worker.storageNodeFilter (task.column .storageNode) = true) ∨
      (task.column .status = .success ∧
        (task.column .settlementStatus = TaskSettlementStatus.pending ∨
          task.column .settlementStatus = TaskSettlementStatus.applied) ∧
        task.isDue worker.now = true) ∨
      (task.column .status = .success ∧ worker.retryableReviewDue task = true))

end ImageWorker

def imageTaskHasSettlementEvidence (task : TaskContents Snapshot) : Bool :=
  0 < task.privateData .settlementEvidenceCapturedAt

def imageTaskHasRetrievableSettlementResult (task : TaskContents Snapshot) :
    Bool :=
  if 0 < task.column .resultCleanedAt then false
  else if task.column .imageTaskResultStored then true
  else if trimSpace (task.privateData .resultBodyPath) ≠ "" then true
  else trimSpace (task.column .data) ≠ ""

def imageTaskHasSettlementRequestBody (task : TaskContents Snapshot) : Bool :=
  trimSpace (task.privateData .requestBodyPath) ≠ "" ∨
    trimSpace (task.privateData .requestBodyBase64) ≠ ""

def imageTaskSettlementReviewIsRetryable (task : TaskContents Snapshot) :
    Bool :=
  if task.column .status ≠ .success ∨ task.column .settlementStatus ≠ .review then false
  else if imageTaskHasSettlementEvidence task then true
  else if 0 < task.column .resultCleanedAt then false
  else if !imageTaskHasRetrievableSettlementResult task ∧
      !imageTaskHasSettlementRequestBody task then false
  else 0 < task.column .nextPollAt

def imageTaskShouldDispatch (task : TaskRow Snapshot) : Bool :=
  if task.column .status = .success ∧
      task.column .settlementStatus = .review then
    imageTaskSettlementReviewIsRetryable task.toTaskContents
  else true

/-- The table of tasks, in the order of its primary key.  Channels have
non-negative ids. -/
structure TaskTable (Snapshot : Type) where
  rows : List (TaskRow Snapshot)
  ordered : rows.Pairwise fun first second => first.id < second.id
  channelId_nonneg : ∀ row ∈ rows, 0 ≤ row.column .channelId

structure DispatchState (Snapshot : Type) where
  table : TaskTable Snapshot
  cursor : Int

def channelOf (row : TaskRow Snapshot) : Int := row.column .channelId

def DispatchState.due (worker : ImageWorker Snapshot)
    (state : DispatchState Snapshot) : List (TaskRow Snapshot) :=
  state.table.rows.filter fun row => worker.selects row.toTaskContents

/-- The channels of the tasks that are due, or none where the statement
fails. -/
def getRunnableImageTaskChannels (worker : ImageWorker Snapshot) (limit : Nat)
    (state : DispatchState Snapshot) : List Int :=
  if worker.mainDatabaseType = .mySQL then []
  else (afterCursor state.cursor (keysOf channelOf (state.due worker))).take limit

def rankedTasks (worker : ImageWorker Snapshot) (perChannelLimit : Nat)
    (state : DispatchState Snapshot) (channel : Int) : List (TaskRow Snapshot) :=
  ((state.due worker).filter fun row => channelOf row = channel).take perChannelLimit

def getRunnableImageTasksForChannels (worker : ImageWorker Snapshot)
    (channels : List Int) (perChannelLimit limit : Nat)
    (state : DispatchState Snapshot) : List (TaskRow Snapshot) :=
  let buckets := channels.map fun channel =>
    (rankedTasks worker perChannelLimit state channel).filter imageTaskShouldDispatch
  interleave limit (buckets.filter fun bucket => !bucket.isEmpty)

/-- `getRunnableImageTasksFairByChannel`, but for the cursor. -/
def getRunnableImageTasksFairByChannel (worker : ImageWorker Snapshot)
    (limit : Nat) (state : DispatchState Snapshot) : List (TaskRow Snapshot) :=
  let channels := getRunnableImageTaskChannels worker limit state
  if channels = [] then []
  else
    let perChannelLimit := limit / channels.length + if limit % channels.length ≠ 0 then 1 else 0
    let perChannelLimit := if perChannelLimit < 1 then 1 else perChannelLimit
    getRunnableImageTasksForChannels worker channels perChannelLimit limit state

def getRunnableImageTasks (worker : ImageWorker Snapshot) (limit : Int)
    (state : DispatchState Snapshot) : List (TaskRow Snapshot) :=
  if limit ≤ 0 then []
  else getRunnableImageTasksFairByChannel worker limit.toNat state

def advanceImageTaskFairChannelCursorFromTasks
    (tasks : List (TaskRow Snapshot)) (cursor : Int) : Int :=
  match tasks.getLast? with
  | none => cursor
  | some task => if channelOf task < 0 then 0 else channelOf task

def ImageWorker.claim (worker : ImageWorker Snapshot) (row : TaskRow Snapshot) :
    TaskRow Snapshot :=
  (claimTaskLease worker.owner worker.now worker.leaseSeconds row).getD row

section Claims

variable (worker : ImageWorker Snapshot)

theorem ImageWorker.claim_cases (row : TaskRow Snapshot) : worker.claim row = row ∨
      worker.claim row =
        { (row.setColumn .lockOwner worker.owner).setColumn .lockUntil
          (worker.now + worker.leaseSeconds) with updatedAt := worker.now } := by
  unfold ImageWorker.claim claimTaskLease
  split
  · exact Or.inl rfl
  split
  · exact Or.inr rfl
  · exact Or.inl rfl

theorem ImageWorker.claim_id (row : TaskRow Snapshot) : (worker.claim row).id = row.id := by
  rcases worker.claim_cases row with same | claimed
  · rw [same]
  · rw [claimed]
    rfl

theorem ImageWorker.claim_channel (row : TaskRow Snapshot) :
    (worker.claim row).column .channelId = row.column .channelId := by
  rcases worker.claim_cases row with same | claimed
  · rw [same]
  · rw [claimed]
    simp [TaskRow.setColumn]

variable {worker}

variable {task : TaskContents Snapshot}

theorem ImageWorker.unlocked_of_selects (selected : worker.selects task = true) :
    task.column .lockUntil ≤ worker.now := by
  simp only [ImageWorker.selects, ImageWorker.retryableReviewDue,
    isDue, decide_eq_true_eq] at selected
  rcases selected.2 with fresh | settling | review
  · exact fresh.2.1.2
  · exact settling.2.2.2
  · exact review.2.2.1

theorem ImageWorker.claimable_of_selects (selected : worker.selects task = true) :
    task.isRunnable = true ∧ task.isDue worker.now = true ∧
      task.column .platform = taskPlatformImage := by
  have started := worker.started
  simp only [ImageWorker.selects, ImageWorker.retryableReviewDue,
    isDue, isRunnable, decide_eq_true_eq]
    at selected ⊢
  obtain ⟨platform, fresh | settling | review⟩ := selected
  · exact ⟨Or.inl fresh.1, fresh.2.1, platform⟩
  · refine ⟨Or.inr ⟨settling.1, ?_⟩, settling.2.2, platform⟩
    exact List.mem_cons.mpr (settling.2.1.imp id fun applied => List.mem_cons.mpr (Or.inl applied))
  · obtain ⟨status, isReview, unlocked, window⟩ := review
    refine ⟨Or.inr ⟨status, by rw [isReview]; decide⟩, ⟨?_, unlocked⟩, platform⟩
    rcases window with scheduled | unscheduled
    · exact scheduled.2.1
    · rw [unscheduled.1]
      exact started

theorem ImageWorker.claim_leaves {row : TaskRow Snapshot}
    (selected : worker.selects row.toTaskContents = true) :
    worker.selects (worker.claim row).toTaskContents = false := by
  have claimable := ImageWorker.claimable_of_selects selected
  have positive : ¬ (worker.owner = "" ∨ worker.leaseSeconds ≤ 0) :=
    fun refused => refused.elim worker.named (not_le.mpr worker.leases)
  rw [Bool.eq_false_iff]
  intro again
  have unlocked := ImageWorker.unlocked_of_selects again
  rw [ImageWorker.claim, claimTaskLease, if_neg positive, if_pos claimable,
    Option.getD_some] at unlocked
  have atLeast : worker.now + worker.leaseSeconds ≤ worker.now := unlocked
  omega

end Claims

def TaskTable.claimAll (worker : ImageWorker Snapshot)
    (table : TaskTable Snapshot) (ids : List Int) : TaskTable Snapshot where
  rows := table.rows.map fun row => if row.id ∈ ids then worker.claim row else row
  ordered := by
    refine List.pairwise_map.mpr (table.ordered.imp ?_)
    intro first second less
    split <;> split <;> simpa only [worker.claim_id] using less
  channelId_nonneg := by
    intro row listed
    obtain ⟨before, beforeListed, rfl⟩ := List.mem_map.mp listed
    have nonneg := table.channelId_nonneg before beforeListed
    split
    · rw [worker.claim_channel]
      exact nonneg
    · exact nonneg

/-- A call, after which the worker has claimed what it was given. -/
def DispatchState.next (worker : ImageWorker Snapshot) (limit : Int)
    (state : DispatchState Snapshot) : DispatchState Snapshot where
  table := state.table.claimAll worker ((getRunnableImageTasks worker limit state).map (·.id))
  cursor := advanceImageTaskFairChannelCursorFromTasks
    (getRunnableImageTasks worker limit state) state.cursor

/-- Every task that is due and should be dispatched is returned by some of the
calls. -/
def DispatchState.ServesAll (worker : ImageWorker Snapshot) (limit : Int)
    (state : DispatchState Snapshot) : Prop :=
  ∀ row ∈ state.table.rows, worker.selects row.toTaskContents = true →
    imageTaskShouldDispatch row = true →
      ∃ calls, row ∈ getRunnableImageTasks worker limit
        ((DispatchState.next worker limit)^[calls] state)

section Queues

variable (worker : ImageWorker Snapshot)

def DispatchState.queue (state : DispatchState Snapshot) :
    Queue (TaskRow Snapshot) where
  waiting := state.due worker
  cursor := state.cursor

theorem due_distinct (state : DispatchState Snapshot) : Distinct (·.id) (state.due worker) := by
  have ascending : (state.due worker).Pairwise fun first second =>
      first.id < second.id := state.table.ordered.filter _
  exact List.pairwise_map.mpr (ascending.imp fun less => ne_of_lt less)

theorem perChannelLimit_eq (limit count : Nat) :
    (if limit / count + (if limit % count ≠ 0 then 1 else 0) < 1 then 1
      else limit / count + if limit % count ≠ 0 then 1 else 0) =
      perKey limit count := by
  unfold perKey
  split_ifs <;> omega

theorem getRunnableImageTasks_mySQL (isMySQL : worker.mainDatabaseType = .mySQL) (limit : Int)
    (state : DispatchState Snapshot) : getRunnableImageTasks worker limit state = [] := by
  rw [getRunnableImageTasks]
  split
  · rfl
  · simp only [getRunnableImageTasksFairByChannel, getRunnableImageTaskChannels, if_pos isMySQL,
      if_true]

theorem getRunnableImageTasks_eq (parses : worker.mainDatabaseType ≠ .mySQL) {limit : Nat}
    (positive : 1 ≤ limit) (state : DispatchState Snapshot) :
    getRunnableImageTasks worker limit state =
      (state.queue worker).call channelOf imageTaskShouldDispatch limit := by
  have notZero : ¬ (limit : Int) ≤ 0 := by omega
  rw [getRunnableImageTasks, if_neg notZero, Int.toNat_natCast, getRunnableImageTasksFairByChannel]
  simp only [perChannelLimit_eq, getRunnableImageTaskChannels, if_neg parses]
  rw [Queue.call, dispatch]
  split
  case isTrue none =>
    have noNames : (afterCursor (state.queue worker).cursor
        (keysOf channelOf (state.queue worker).waiting)).take limit = [] := none
    simp only [noNames, List.map_nil, interleave]
    cases limit <;> rfl
  case isFalse some =>
    rw [getRunnableImageTasksForChannels, interleave, takeTurns_filter]
    rfl

theorem due_next (limit : Int) (state : DispatchState Snapshot)
    (returned : ∀ row ∈ getRunnableImageTasks worker limit state, row ∈ state.due worker) :
    (state.next worker limit).due worker = (state.due worker).filter fun row =>
        row.id ∉ (getRunnableImageTasks worker limit state).map (·.id) := by
  have distinct : Distinct (·.id) state.table.rows :=
    List.pairwise_map.mpr (state.table.ordered.imp fun less => ne_of_lt less)
  simp only [DispatchState.due, DispatchState.next, TaskTable.claimAll,
    List.filter_map, List.filter_filter]
  have kept : ∀ row ∈ state.table.rows,
      (worker.selects (if row.id ∈ (getRunnableImageTasks worker limit
          state).map (·.id) then worker.claim row else row).toTaskContents) =
        (decide (row.id ∉ (getRunnableImageTasks worker limit state).map
          (·.id)) && worker.selects row.toTaskContents) := by
    intro row listed
    by_cases claimed : row.id ∈ (getRunnableImageTasks worker limit state).map (·.id)
    · obtain ⟨task, given, sameId⟩ := List.mem_map.mp claimed
      obtain ⟨taskListed, taskSelected⟩ := List.mem_filter.mp (returned task given)
      have same : task = row := List.inj_on_of_nodup_map distinct taskListed listed sameId
      subst same
      rw [if_pos claimed, ImageWorker.claim_leaves taskSelected]
      simp [claimed]
    · simp [claimed]
  rw [List.filter_congr (fun row listed => by
    simpa only [Function.comp_apply] using kept row listed)]
  refine List.map_congr_left (g := id) ?_ |>.trans (List.map_id _)
  intro row listed
  have unclaimed := (List.mem_filter.mp listed).2
  rw [Bool.and_eq_true, decide_eq_true_eq] at unclaimed
  rw [if_neg unclaimed.1]
  rfl

end Queues

end NewApi.TaskRows
