import NewApi.Lib.WideDispatch
import NewApi.TaskRows.HiddenChanges
import NewApi.TaskRows.ImageDispatch

/-!
# Fairness of the dispatch

The calls of `GetRunnableImageTasks` on a table are those of a queue.  A row
that is selected but parked stays selected for ever: it takes a place of its
channel in every call, and the turn of its channel once all other rows of the
channel have been dispatched.

With a limit for every channel a turn costs nothing, and a row only has to be
within what is looked at of its channel.
-/

namespace NewApi.TaskRows

open NewApi.Tasks FairDispatch DispatchState

variable {Snapshot : Type}

section Simulation

variable (worker : ImageWorker Snapshot)

section

variable (parses : worker.mainDatabaseType ≠ .mySQL) {limit : Nat} (positive : 1 ≤ limit)
  (state : DispatchState Snapshot)
include parses positive state

theorem queue_next :
    (state.next worker limit).queue worker =
      (state.queue worker).next channelOf imageTaskShouldDispatch (·.id) limit := by
  have calls := getRunnableImageTasks_eq worker parses positive state
  have returned : ∀ row ∈ getRunnableImageTasks worker limit state, row ∈ state.due worker := by
    intro row given
    rw [calls] at given
    exact (mem_of_mem_dispatch given).1
  have waiting := due_next worker limit state returned
  have cursor : (state.next worker limit).cursor =
      ((getRunnableImageTasks worker limit state).getLast?.map channelOf).getD state.cursor := by
    simp only [next, advanceImageTaskFairChannelCursorFromTasks]
    cases last : (getRunnableImageTasks worker limit state).getLast? with
    | none => rfl
    | some task =>
      have listed := (List.mem_filter.mp (returned task (List.mem_of_getLast? last))).1
      have nonneg : 0 ≤ channelOf task := state.table.channelId_nonneg task listed
      simp only [if_neg (not_lt.mpr nonneg), Option.map_some, Option.getD_some]
  rw [queue, waiting, cursor, calls]
  rfl

theorem queue_iterate (calls : Nat) :
    ((next worker limit)^[calls] state).queue worker =
      (Queue.next channelOf imageTaskShouldDispatch (·.id) limit)^[calls] (state.queue worker) := by
  induction calls with
  | zero => rfl
  | succ calls ih =>
    rw [Function.iterate_succ_apply', Function.iterate_succ_apply', queue_next worker parses positive, ih]

theorem servesAll_iff :
    state.ServesAll worker limit ↔
      (state.queue worker).Serves channelOf imageTaskShouldDispatch (·.id) limit := by
  have sameCalls : ∀ row calls,
      row ∈ getRunnableImageTasks worker limit ((next worker limit)^[calls] state) ↔
        row ∈ Queue.call channelOf imageTaskShouldDispatch limit
          ((Queue.next channelOf imageTaskShouldDispatch (·.id) limit)^[calls]
            (state.queue worker)) := by
    intro row calls
    rw [getRunnableImageTasks_eq worker parses positive, queue_iterate worker parses positive]
  constructor
  · intro serves row waits should
    obtain ⟨listed, selected⟩ := List.mem_filter.mp waits
    obtain ⟨calls, given⟩ := serves row listed selected should
    exact ⟨calls, (sameCalls row calls).mp given⟩
  · intro serves row listed selected should
    obtain ⟨calls, given⟩ := serves row (List.mem_filter.mpr ⟨listed, selected⟩) should
    exact ⟨calls, (sameCalls row calls).mpr given⟩

end

end Simulation

/-! ## Parked rows -/

def TaskTable.dispatchable (worker : ImageWorker Snapshot)
    (table : TaskTable Snapshot) (channel : Int) : List (TaskRow Snapshot) :=
  table.rows.filter fun row =>
    worker.selects row.toTaskContents = true ∧
      imageTaskShouldDispatch row = true ∧ row.column .channelId = channel

def ImageWorker.Parks (worker : ImageWorker Snapshot) (row : TaskRow Snapshot) : Prop :=
  worker.selects row.toTaskContents = true ∧ imageTaskShouldDispatch row = false

/-- Every parked row comes after all tasks of its channel that should be
dispatched, and no channel has more of them. -/
def TaskTable.ParksLast (worker : ImageWorker Snapshot) (table : TaskTable Snapshot) : Prop :=
  ∀ parked ∈ table.rows, worker.Parks parked →
    (∀ row ∈ table.dispatchable worker (parked.column .channelId), row.id < parked.id) ∧
    ∀ channel, (table.dispatchable worker channel).length ≤
      (table.dispatchable worker (parked.column .channelId)).length

section ParkedRows

variable {worker : ImageWorker Snapshot} {table : TaskTable Snapshot} {cursor : Int}

theorem goods_due (channel : Int) :
    goods channelOf imageTaskShouldDispatch (due worker ⟨table, cursor⟩) channel =
      table.dispatchable worker channel := by
  rw [goods, due, List.filter_filter, TaskTable.dispatchable]
  congr 1
  funext row
  simp only [channelOf, Bool.decide_and, Bool.decide_eq_true]
  cases worker.selects row.toTaskContents <;> cases imageTaskShouldDispatch row <;> simp

variable {row : TaskRow Snapshot}

theorem mem_dispatchable {channel : Int} :
    row ∈ table.dispatchable worker channel ↔
      row ∈ due worker ⟨table, cursor⟩ ∧ row.column .channelId = channel ∧
        imageTaskShouldDispatch row = true := by
  rw [← goods_due channel, mem_goods]
  rfl

theorem mem_due : row ∈ due worker ⟨table, cursor⟩ ↔
      row ∈ table.rows ∧ worker.selects row.toTaskContents = true :=
  List.mem_filter

/-- Where parked rows come last, the selection has its good rows first. -/
theorem goodFirst_of_parksLast (parksLast : table.ParksLast worker) :
    GoodFirst channelOf imageTaskShouldDispatch (due worker ⟨table, cursor⟩) := by
  have ascending : (due worker ⟨table, cursor⟩).Pairwise
      fun first second => first.id < second.id := table.ordered.filter _
  refine ascending.imp_of_mem ?_
  intro first second firstDue secondDue less sameChannel should
  by_contra parked
  obtain ⟨listed, selected⟩ := mem_due.mp firstDue
  have before := (parksLast first listed
    ⟨selected, by simpa using parked⟩).1 second
      (mem_dispatchable.mpr ⟨secondDue, sameChannel.symm, should⟩)
  exact absurd less (not_lt.mpr before.le)

theorem inTurn_of_parksLast (parksLast : table.ParksLast worker) :
    (queue worker ⟨table, cursor⟩).InTurn channelOf
      imageTaskShouldDispatch (·.id) where
  goodFirst := goodFirst_of_parksLast parksLast
  distinct := due_distinct worker ⟨table, cursor⟩
  most := by
    intro parked waits isParked channel
    obtain ⟨listed, selected⟩ := mem_due.mp waits
    have most := (parksLast parked listed ⟨selected, isParked⟩).2 channel
    simp only [queue, goods_due]
    exact Nat.le_add_right_of_le most

theorem id_lt_of_goodFirst (goodFirst : GoodFirst channelOf imageTaskShouldDispatch
      (due worker ⟨table, cursor⟩)) {parked : TaskRow Snapshot}
    (parkedDue : parked ∈ due worker ⟨table, cursor⟩)
    (isParked : imageTaskShouldDispatch parked = false)
    (listed : row ∈ table.dispatchable worker (parked.column .channelId)) :
    row.id < parked.id := by
  obtain ⟨rowDue, sameChannel, should⟩ := mem_dispatchable.mp listed
  have ascending : (due worker ⟨table, cursor⟩).Pairwise
      fun first second => first.id < second.id := table.ordered.filter _
  have isOther : row ≠ parked := by
    rintro rfl
    rw [isParked] at should
    cases should
  by_contra notBefore
  have together := goodFirst.and ascending
  have behind : ∀ first ∈ due worker ⟨table, cursor⟩,
      ∀ second ∈ due worker ⟨table, cursor⟩,
        first ≠ second → second.id < first.id ∨
          (channelOf first = channelOf second → imageTaskShouldDispatch second = true →
            imageTaskShouldDispatch first = true) := by
    refine List.Pairwise.forall_of_forall_of_flip ?_ ?_ ?_
    · exact fun first _ same => absurd rfl same
    · exact together.imp fun ordered _ => Or.inr ordered.1
    · exact together.imp fun ordered _ => Or.inl ordered.2
  rcases behind parked parkedDue row rowDue isOther.symm with less | ordered
  · exact notBefore less
  · have alsoGood := ordered sameChannel.symm should
    rw [isParked] at alsoGood
    cases alsoGood

end ParkedRows

/-! ## Limits for every channel -/

def TaskTable.channels (worker : ImageWorker Snapshot) (table : TaskTable Snapshot) : List Int :=
  keysOf channelOf (table.rows.filter fun row => worker.selects row.toTaskContents)

def TaskTable.parked (worker : ImageWorker Snapshot) (table : TaskTable Snapshot) :
    List (TaskRow Snapshot) :=
  (table.rows.filter fun row => worker.selects row.toTaskContents).filter fun row =>
    imageTaskShouldDispatch row = false

/-- The channels with a parked row share the limit, and in each the tasks that
should be dispatched are behind fewer parked rows than its share. -/
def TaskTable.HasRoom (worker : ImageWorker Snapshot) (limit : Nat) (table : TaskTable Snapshot) :
    Prop :=
  ∀ row ∈ table.rows, worker.selects row.toTaskContents = true →
    imageTaskShouldDispatch row = true →
      ((table.parked worker).filter fun parked =>
        channelOf parked = channelOf row ∧ parked.id < row.id).length *
          (keysOf channelOf (table.parked worker)).length < limit

/-- The statements of the worker parse, or there is nothing for it to do. -/
def TaskTable.Selectable (worker : ImageWorker Snapshot) (table : TaskTable Snapshot) : Prop :=
  worker.mainDatabaseType = .mySQL → ∀ row ∈ table.rows,
    worker.selects row.toTaskContents = true → imageTaskShouldDispatch row = false

section Rooms

variable {worker : ImageWorker Snapshot} {table : TaskTable Snapshot} {limit : Nat} {cursor : Int}

theorem queue_wide (wide : (table.channels worker).length ≤ limit) :
    (queue worker ⟨table, cursor⟩).Wide channelOf (·.id) limit where
  ascending := table.ordered.filter _
  wide := wide

theorem queue_roomy_iff : (queue worker ⟨table, cursor⟩).Roomy channelOf imageTaskShouldDispatch
    (·.id) limit ↔ table.HasRoom worker limit := by
  have before : ∀ row : TaskRow Snapshot,
      badsBefore channelOf imageTaskShouldDispatch (·.id) (due worker ⟨table, cursor⟩) row =
        (table.parked worker).filter fun parked =>
          channelOf parked = channelOf row ∧ parked.id < row.id := by
    intro row
    simp only [badsBefore, TaskTable.parked, due, List.filter_filter]
    congr 1
    funext other
    simp only [Bool.decide_and, Bool.decide_eq_false]
    cases imageTaskShouldDispatch other <;> cases worker.selects other.toTaskContents <;> simp
  constructor
  · intro roomy row listed selected should
    have inside := roomy row (mem_due.mpr ⟨listed, selected⟩) should
    rwa [queue, before] at inside
  · intro hasRoom row waits should
    obtain ⟨listed, selected⟩ := mem_due.mp waits
    rw [queue, before]
    exact hasRoom row listed selected should

/-- Nothing is ever returned where the statements do not parse. -/
theorem servesAll_mySQL_iff (isMySQL : worker.mainDatabaseType = .mySQL) (limit : Int) :
    DispatchState.ServesAll worker limit ⟨table, cursor⟩ ↔ table.Selectable worker := by
  constructor
  · intro serves _ row listed selected
    by_contra should
    obtain ⟨calls, given⟩ := serves row listed selected (by simpa using should)
    rw [getRunnableImageTasks_mySQL worker isMySQL] at given
    cases given
  · intro selectable row listed selected should
    rw [selectable isMySQL row listed selected] at should
    cases should

theorem servesAll_iff_hasRoom (parses : worker.mainDatabaseType ≠ .mySQL) (positive : 1 ≤ limit)
    (wide : (table.channels worker).length ≤ limit) :
    DispatchState.ServesAll worker limit ⟨table, cursor⟩ ↔ table.HasRoom worker limit := by
  rw [servesAll_iff worker parses positive, serves_iff_roomy (queue_wide wide) positive,
    queue_roomy_iff]

theorem servesAll_iff_parksLast (parses : worker.mainDatabaseType ≠ .mySQL) :
    (∀ limit : Int, 1 ≤ limit → ∀ cursor : Int,
        DispatchState.ServesAll worker limit ⟨table, cursor⟩) ↔ table.ParksLast worker := by
  constructor
  · intro serves parked listed parks
    have one : ∀ cursor, (DispatchState.queue worker ⟨table, cursor⟩).Serves
        channelOf imageTaskShouldDispatch (·.id) 1 := fun cursor =>
      (servesAll_iff worker parses le_rfl _).mp (serves 1 le_rfl cursor)
    refine ⟨?_, ?_⟩
    · intro row dispatchable
      exact id_lt_of_goodFirst (goodFirst_of_serves (due_distinct worker ⟨table, 0⟩) (one 0))
        (mem_due.mpr ⟨listed, parks.1⟩) parks.2 dispatchable
    · intro channel
      have most := most_of_serves (due_distinct worker ⟨table, channel⟩)
        (mem_due.mpr ⟨listed, parks.1⟩) parks.2 (one channel)
      simpa only [goods_due, channelOf] using most
  · intro parksLast limit positive cursor
    obtain ⟨count, rfl⟩ := Int.eq_ofNat_of_zero_le (by omega : 0 ≤ limit)
    have atLeast : 1 ≤ count := by omega
    exact (servesAll_iff worker parses atLeast _).mpr
      (serves_of_inTurn atLeast (inTurn_of_parksLast parksLast))

theorem parksLast_of_selectable (isMySQL : worker.mainDatabaseType = .mySQL)
    (selectable : table.Selectable worker) : table.ParksLast worker := by
  have nothing : ∀ channel, table.dispatchable worker channel = [] := by
    intro channel
    rw [TaskTable.dispatchable, List.filter_eq_nil_iff]
    intro row listed isDispatchable
    obtain ⟨selected, should, -⟩ := of_decide_eq_true isDispatchable
    rw [selectable isMySQL row listed selected] at should
    cases should
  intro parked _ _
  simp [nothing]

theorem hasRoom_of_selectable (isMySQL : worker.mainDatabaseType = .mySQL)
    (selectable : table.Selectable worker) : table.HasRoom worker limit := by
  intro row listed selected should
  rw [selectable isMySQL row listed selected] at should
  cases should

end Rooms

/-- The calls return every task that is due and should be dispatched, for every
limit and from every cursor, exactly where the statements parse, every parked
row comes after the tasks of its channel and no other channel has more of them.
For a limit that is not below the number of channels, it is enough and needed
that the parked rows leave room for the tasks behind them. -/
theorem dispatch_serves_all_iff_parked_last (worker : ImageWorker Snapshot)
    (table : TaskTable Snapshot) :
    ((∀ limit : Int, 1 ≤ limit → ∀ cursor : Int,
        DispatchState.ServesAll worker limit ⟨table, cursor⟩) ↔
      table.Selectable worker ∧ table.ParksLast worker) ∧
    ∀ (limit : Nat) (cursor : Int), 1 ≤ limit → (table.channels worker).length ≤ limit →
      (DispatchState.ServesAll worker limit ⟨table, cursor⟩ ↔
        table.Selectable worker ∧ table.HasRoom worker limit) := by
  by_cases isMySQL : worker.mainDatabaseType = .mySQL
  · refine ⟨?_, ?_⟩
    · constructor
      · intro serves
        have selectable := (servesAll_mySQL_iff isMySQL 1).mp (serves 1 le_rfl 0)
        exact ⟨selectable, parksLast_of_selectable isMySQL selectable⟩
      · intro holds limit _ cursor
        exact (servesAll_mySQL_iff isMySQL limit).mpr holds.1
    · intro limit cursor _ _
      rw [servesAll_mySQL_iff isMySQL]
      exact ⟨fun selectable => ⟨selectable, hasRoom_of_selectable isMySQL selectable⟩, And.left⟩
  · have selectable : table.Selectable worker := fun same => absurd same isMySQL
    refine ⟨?_, ?_⟩
    · rw [servesAll_iff_parksLast isMySQL]
      exact ⟨fun parksLast => ⟨selectable, parksLast⟩, And.right⟩
    · intro limit cursor positive wide
      rw [servesAll_iff_hasRoom isMySQL positive wide]
      exact ⟨fun hasRoom => ⟨selectable, hasRoom⟩, And.right⟩

def imageRow (id : Int) (status : TaskStatus)
    (settlementStatus : TaskSettlementStatus) (nextPollAt resultCleanedAt : Int)
    (stored : Bool) : TaskRow RequestBody where
  column
    | .platform => taskPlatformImage
    | .channelId => (1 : Int)
    | .status => status
    | .settlementStatus => settlementStatus
    | .nextPollAt => nextPollAt
    | .resultCleanedAt => resultCleanedAt
    | .imageTaskResultStored => stored
    | column => column.kind.initial
  privateData := fun field => field.kind.zero
  id := id
  createdAt := 0
  updatedAt := 0

def cleanedReviewTable : TaskTable RequestBody where
  rows := [imageRow 1 .success .review 50 40 true, imageRow 2 .queued .unset 50 0 false]
  ordered := by decide
  channelId_nonneg := by decide

def imageWorker : ImageWorker RequestBody where
  mainDatabaseType := .sqlite
  nodeName := ""
  imageTaskFileCacheShared := false
  imageTaskSharedCacheDisabled := false
  imageTaskLocalFileCacheAffinity := false
  privateTextLike := fun _ _ => false
  owner := "worker"
  leaseSeconds := 60
  now := 100
  named := by decide
  leases := by decide
  started := by decide

/-- The review is selected in every call and dropped again, so the task behind
it is never returned. -/
theorem cleaned_review_starves_task :
    ¬ ∀ (worker : ImageWorker RequestBody) (table : TaskTable RequestBody)
      (limit cursor : Int), 1 ≤ limit → DispatchState.ServesAll worker limit ⟨table, cursor⟩ := by
  intro serves
  have nothing : getRunnableImageTasks imageWorker 1 ⟨cleanedReviewTable, 0⟩ = [] := by
    decide
  have unchanged : (DispatchState.queue imageWorker
        ⟨cleanedReviewTable, 0⟩).next channelOf imageTaskShouldDispatch
          (·.id) 1 = DispatchState.queue imageWorker ⟨cleanedReviewTable, 0⟩ := by
    refine next_of_empty ?_
    exact nothing
  have served := (servesAll_iff imageWorker (by decide) le_rfl _).mp
    (serves imageWorker cleanedReviewTable 1 0 le_rfl)
  have waits : imageRow 2 .queued .unset 50 0 false ∈
      DispatchState.due imageWorker ⟨cleanedReviewTable, 0⟩ :=
    mem_due.mpr ⟨by simp [cleanedReviewTable], by decide⟩
  obtain ⟨calls, given⟩ := served _ waits (by decide)
  rw [Function.iterate_fixed unchanged, ← getRunnableImageTasks_eq imageWorker (by decide) le_rfl] at given
  have onTable : imageRow 2 .queued .unset 50 0 false ∈
    getRunnableImageTasks imageWorker 1 ⟨cleanedReviewTable, 0⟩ := given
  cases onTable

end NewApi.TaskRows
