import NewApi.TaskRows.Leases

/-!
# Runs under leases

The mark of a submission is a column like others: it is set once as long as no
patch clears it.  With the leases this gives what the workers of an image task
rely on.
-/

namespace NewApi.TaskRows

open NewApi.Tasks GoStrings LeaseState LeaseEvent Relation

variable {Snapshot : Type} [DecidableEq Snapshot]

/-! ## The mark of a submission -/

/-- The patch does not clear the mark: it has a baseline, and leaves the column
or sets it to a time. -/
def TaskView.KeepsMark (task : TaskView Snapshot) : Prop :=
  ∃ base, task.base = some base ∧
    (task.contents.column .syncSubmissionStartedAt =
        base.column .syncSubmissionStartedAt ∨
      0 < task.contents.column .syncSubmissionStartedAt)

def LeaseEvent.KeepsMark : LeaseEvent Snapshot → Prop
  | .updateAndLease task _ _ => task.KeepsMark
  | .updateIfUnlocked task _ => task.KeepsMark
  | .cancel task _ => task.KeepsMark
  | _ => True

def KeptStep (state next : LeaseState Snapshot) : Prop :=
  ∃ now event, state.clock ≤ now ∧ event.KeepsMark ∧ state.step now event = some next

section Marks

variable {now : Int} {row : TaskRow Snapshot} {task : TaskView Snapshot}

theorem patch_mark (keeps : task.KeepsMark) (updatedAt : Int)
    (marked : 0 < row.column .syncSubmissionStartedAt) :
    0 < (row.updates (buildTaskUpdatePatch task.base row.toTaskContents
      task.contents).1 updatedAt).column .syncSubmissionStartedAt := by
  obtain ⟨base, hasBase, same | sets⟩ := keeps
  · simpa [hasBase, TaskRow.updates, buildTaskUpdatePatch, same] using marked
  · simp only [hasBase, TaskRow.updates, buildTaskUpdatePatch]
    split
    · exact sets
    · exact marked

theorem updateWithStatusFrom_mark (keeps : task.KeepsMark)
    {taskUpdatedAt clock : Int} {fromStatus : TaskStatus} {lockOwner : String}
    {requireLease : Bool} {next : TaskRow Snapshot}
    (won : updateWithStatusFrom task.base task.contents taskUpdatedAt
      fromStatus lockOwner now requireLease clock row = some next)
    (marked : 0 < row.column .syncSubmissionStartedAt) :
    0 < next.column .syncSubmissionStartedAt := by
  obtain ⟨-, rfl | rfl⟩ := updateWithStatusFrom_cases won
  · exact marked
  · have kept := patch_mark keeps (nextTaskUpdatedAt row.updatedAt clock) marked
    split
    · exact kept
    · exact kept

variable {event : LeaseEvent Snapshot} {state : LeaseState Snapshot}

/-- No event that keeps marks clears one. -/
theorem marked_of_run {next : TaskRow Snapshot} (keeps : event.KeepsMark)
    (wins : event.run now row = some next) (marked : 0 < row.column .syncSubmissionStartedAt) :
    0 < next.column .syncSubmissionStartedAt := by
  cases event with
  | claim owner leaseSeconds =>
    obtain ⟨-, -, rfl⟩ := guarded_eq_some.mp wins
    exact marked
  | renew owner leaseSeconds =>
    obtain ⟨-, -, rfl⟩ := guarded_eq_some.mp wins
    exact marked
  | release owner nextPollAt retryCount =>
    obtain ⟨-, -, rfl⟩ := guarded_eq_some.mp wins
    exact marked
  | updateAndLease task fromStatus owner =>
    obtain ⟨written, won, rfl⟩ := Option.map_eq_some_iff.mp wins
    obtain ⟨patched, merged, rfl⟩ := Option.map_eq_some_iff.mp won
    exact updateWithStatusFrom_mark keeps merged marked
  | updateIfUnlocked task fromStatus =>
    obtain ⟨written, won, rfl⟩ := Option.map_eq_some_iff.mp wins
    simp only [TaskView.updateWithStatusIfUnlocked] at won
    split at won
    · cases won
    split at won
    · obtain rfl := Option.some.inj won
      exact marked
    split at won
    · obtain rfl := Option.some.inj won
      exact patch_mark keeps _ marked
    · cases won
  | cancel task fromStatus =>
    obtain ⟨written, won, rfl⟩ := Option.map_eq_some_iff.mp wins
    exact absurd marked (not_lt.mpr (cancel_wins won).2)
  | mark owner startedAt => exact (mark_wins wins).2.2.1

/-- The submission has been marked at most once, and is marked in the row. -/
def LeaseState.MarkInStep (state : LeaseState Snapshot) : Prop :=
  state.marks = 0 ∨ (state.marks = 1 ∧ 0 < state.row.column .syncSubmissionStartedAt)

/-- One event keeps the count of marks. -/
theorem markInStep_step {next : LeaseState Snapshot} (inStep : state.MarkInStep)
    (keeps : event.KeepsMark) (stepped : state.step now event = some next) :
    next.MarkInStep := by
  obtain ⟨row, wins, rfl⟩ := Option.map_eq_some_iff.mp stepped
  by_cases marks : ∃ owner startedAt, event = .mark owner startedAt
  · obtain ⟨owner, startedAt, rfl⟩ := marks
    obtain ⟨-, unmarked, marked, -⟩ := mark_wins wins
    right
    rcases inStep with none | ⟨-, already⟩
    · exact ⟨congrArg (· + 1) none, marked⟩
    · exact absurd unmarked already.ne'
  · have sameMarks : (record { state with row, clock := now }
        event).marks = state.marks := by
      cases event with
      | mark owner startedAt => exact absurd ⟨owner, startedAt, rfl⟩ marks
      | updateAndLease task fromStatus owner =>
        simp only [record]
        split <;> rfl
      | _ => rfl
    have sameRow : (record { state with row, clock := now } event).row = row := by
      cases event with
      | updateAndLease task fromStatus owner =>
        simp only [record]
        split <;> rfl
      | _ => rfl
    unfold MarkInStep
    rw [sameMarks, sameRow]
    exact inStep.imp_right fun one => ⟨one.1, marked_of_run keeps wins one.2⟩

theorem markInStep_run {start : LeaseState Snapshot} (initial : start.Initial)
    (run : ReflTransGen KeptStep start state) : state.MarkInStep := by
  induction run with
  | refl => exact Or.inl initial.2
  | tail _ step ih =>
    obtain ⟨now, event, -, keeps, stepped⟩ := step
    exact markInStep_step ih keeps stepped

end Marks

/-- At most one owner has a latest claim or renewal that has not expired; the
row is locked to it until then; guarded updates and marks win under the lease
only.  As long as no patch clears the mark, it is set at most once, and no
cancel wins after it. -/
theorem leases_exclude_each_other (start state : LeaseState Snapshot) (initial : start.Initial)
    (run : Relation.ReflTransGen LeaseStep start state) (now : Int) (later : state.clock ≤ now) :
    (∀ first second firstExpiry secondExpiry,
      state.lease first = some firstExpiry → now < firstExpiry →
        state.lease second = some secondExpiry → now < secondExpiry → first = second) ∧
    (∀ owner expiry, state.lease owner = some expiry → now < expiry →
      state.row.column .lockOwner = owner.name ∧ state.row.column .lockUntil = expiry) ∧
    (∀ task fromStatus owner,
      (state.step now (.updateAndLease task fromStatus owner)).isSome = true →
        LeaseState.Locked state.row owner now) ∧
    (∀ owner startedAt,
      (state.step now (.mark (some owner) startedAt)).isSome = true →
        LeaseState.Locked state.row owner now) ∧
    (Relation.ReflTransGen KeptStep start state →
      state.marks ≤ 1 ∧
        ∀ task fromStatus,
          (state.step now (.cancel task fromStatus)).isSome = true → state.marks = 0) := by
  have inStep := inStep_leaseRun initial run
  refine ⟨?_, ?_, ?_, ?_, ?_⟩
  · intro first second firstExpiry secondExpiry firstLeased firstRuns secondLeased secondRuns
    have locked := locked_of_lease inStep later secondLeased secondRuns
    exact owner_eq_of_locked inStep later firstLeased firstRuns locked.1
  · intro owner expiry leased unexpired
    exact locked_of_lease inStep later leased unexpired
  · intro task fromStatus owner wins
    obtain ⟨next, stepped⟩ := Option.isSome_iff_exists.mp wins
    obtain ⟨row, won, -⟩ := Option.map_eq_some_iff.mp stepped
    obtain ⟨written, updated, -⟩ := Option.map_eq_some_iff.mp won
    exact (updateAndLease_wins updated).1
  · intro owner startedAt wins
    obtain ⟨next, stepped⟩ := Option.isSome_iff_exists.mp wins
    obtain ⟨row, won, -⟩ := Option.map_eq_some_iff.mp stepped
    exact (mark_wins won).1 owner rfl
  · intro kept
    have marks := markInStep_run initial kept
    refine ⟨?_, ?_⟩
    · rcases marks with none | ⟨one, -⟩ <;> omega
    · intro task fromStatus wins
      obtain ⟨next, stepped⟩ := Option.isSome_iff_exists.mp wins
      obtain ⟨row, won, -⟩ := Option.map_eq_some_iff.mp stepped
      obtain ⟨written, cancelled, -⟩ := Option.map_eq_some_iff.mp won
      rcases marks with none | ⟨-, marked⟩
      · exact none
      · exact absurd marked (not_lt.mpr (cancel_wins cancelled).2)

def firstOwner : LeaseOwner where
  name := "a"
  nonempty := by decide
  trimmed := by decide +kernel

def secondOwner : LeaseOwner where
  name := "b"
  nonempty := by decide
  trimmed := by decide +kernel

def unclaimed : LeaseState RequestBody where
  row := requestRow.setColumn .platform taskPlatformImage
  clock := 100
  grants := []
  marks := 0

theorem unclaimed_initial : unclaimed.Initial := ⟨rfl, rfl⟩

def lockedTo (state : LeaseState RequestBody) (owner : LeaseOwner)
    (now expiry : Int) : TaskRow RequestBody :=
  { (state.row.setColumn .lockOwner owner.name).setColumn .lockUntil expiry with updatedAt := now }

def claimedState : LeaseState RequestBody where
  row := lockedTo unclaimed firstOwner 100 200
  clock := 100
  grants := [(firstOwner, 200)]
  marks := 0

theorem claimedState_step : KeptStep unclaimed claimedState :=
  ⟨100, .claim firstOwner 100, le_rfl, trivial, rfl⟩

def reclaimedState : LeaseState RequestBody where
  row := lockedTo claimedState secondOwner 250 350
  clock := 250
  grants := [(secondOwner, 350), (firstOwner, 200)]
  marks := 0

def markedState : LeaseState RequestBody where
  row := { reclaimedState.row.setColumn .syncSubmissionStartedAt 260 with updatedAt := 260 }
  clock := 260
  grants := reclaimedState.grants
  marks := 1

/-- The lease of the first owner has expired; the second owner has claimed the
task and marked its submission. -/
theorem markedState_excludes :
    markedState.lease firstOwner = some 200 ∧ markedState.lease secondOwner = some 350 ∧
      (∀ owner expiry, markedState.lease owner = some expiry → 270 < expiry →
        owner = secondOwner) ∧
      markedState.row.column .lockOwner = secondOwner.name ∧ markedState.marks ≤ 1 ∧
      ∀ task fromStatus, (markedState.step 270 (.cancel task fromStatus)).isSome = false := by
  have reclaims : KeptStep claimedState reclaimedState :=
    ⟨250, .claim secondOwner 100, by decide, trivial, rfl⟩
  have marks : KeptStep reclaimedState markedState :=
    ⟨260, .mark (some secondOwner) 260, by decide, trivial, by with_unfolding_all rfl⟩
  have kept : ReflTransGen KeptStep unclaimed markedState :=
    .tail (.tail (.single claimedState_step) reclaims) marks
  have forgets : ∀ state next : LeaseState RequestBody,
      KeptStep state next → LeaseStep state next := by
    rintro _ _ ⟨now, event, later, _, stepped⟩
    exact ⟨now, event, later, stepped⟩
  have run : ReflTransGen LeaseStep unclaimed markedState := kept.lift id forgets
  obtain ⟨exclusive, locked, -, -, marked⟩ := leases_exclude_each_other unclaimed
    markedState unclaimed_initial run 270 (by decide)
  have second : markedState.lease secondOwner = some 350 := rfl
  refine ⟨rfl, second, ?_, (locked secondOwner 350 second (by decide)).1, (marked kept).1, ?_⟩
  · intro owner expiry leased runs
    exact exclusive owner secondOwner expiry 350 leased runs second (by decide)
  · intro task fromStatus
    by_contra wins
    have none := (marked kept).2 task fromStatus (Bool.not_eq_false _ ▸ wins)
    cases none

/-- The first owner renews for five seconds, and the second claims the task
after them. -/
theorem shorter_renewal_admits_another :
    ∃ state : LeaseState RequestBody,
      ReflTransGen LeaseStep claimedState state ∧
        state.clock = 120 ∧ (firstOwner, 200) ∈ state.grants ∧
          (secondOwner, 220) ∈ state.grants := by
  let renewed : LeaseState RequestBody :=
    { row :=
        { claimedState.row.setColumn .lockUntil 115 with updatedAt := 110 }
      clock := 110
      grants := [(firstOwner, 115), (firstOwner, 200)]
      marks := 0 }
  let taken : LeaseState RequestBody :=
    { row := lockedTo renewed secondOwner 120 220
      clock := 120
      grants := [(secondOwner, 220), (firstOwner, 115), (firstOwner, 200)]
      marks := 0 }
  have renews : LeaseStep claimedState renewed := ⟨110, .renew firstOwner 5, by decide, rfl⟩
  have takes : LeaseStep renewed taken := ⟨120, .claim secondOwner 100, by decide, rfl⟩
  exact ⟨taken, .tail (.single renews) takes, rfl, by simp [taken], by simp [taken]⟩

/-- The mark of a submission, after which a patch of the same owner clears the
column: the submission is marked again. -/
theorem cleared_mark_is_set_again :
    ∃ state : LeaseState RequestBody,
      ReflTransGen LeaseStep claimedState state ∧ state.marks = 2 := by
  let marked : LeaseState RequestBody :=
    { claimedState with
      row := { claimedState.row.setColumn .syncSubmissionStartedAt 101 with updatedAt := 101 }
      clock := 101
      marks := 1 }
  let task : TaskView RequestBody :=
    { contents := (marked.row.setColumn .syncSubmissionStartedAt 0).toTaskContents
      base := some marked.row.toTaskContents
      updatedAt := 101 }
  have marks : LeaseStep claimedState marked :=
    ⟨101, .mark (some firstOwner) 101, by decide, by with_unfolding_all rfl⟩
  let updates := (buildTaskUpdatePatch task.base marked.row.toTaskContents task.contents).1
  let cleared : LeaseState RequestBody :=
    { marked with
      row := marked.row.updates ((updates.delete .lockOwner).delete .lockUntil) 102
      clock := 102 }
  have clears : LeaseStep marked cleared :=
    ⟨102, .updateAndLease task .inProgress firstOwner, by decide, rfl⟩
  let again : LeaseState RequestBody :=
    { cleared with
      row := { cleared.row.setColumn .syncSubmissionStartedAt 103 with updatedAt := 103 }
      clock := 103
      marks := 2 }
  have marksAgain : LeaseStep cleared again :=
    ⟨103, .mark (some firstOwner) 103, by decide, by with_unfolding_all rfl⟩
  exact ⟨again, .tail (.tail (.single marks) clears) marksAgain, rfl⟩

/-- The claim of an owner is not ended by its own later renewal, and a patch
may clear the mark. -/
theorem earlier_claims_and_marks_do_not_last :
    (¬ ∀ start state : LeaseState RequestBody, start.Initial →
      Relation.ReflTransGen LeaseStep start state →
        ∀ now, state.clock ≤ now → ∀ first ∈ state.grants,
          ∀ second ∈ state.grants, now < first.2 → now < second.2 → first.1 = second.1) ∧
    (¬ ∀ start state : LeaseState RequestBody, start.Initial →
      Relation.ReflTransGen LeaseStep start state → state.marks ≤ 1) := by
  have claims : LeaseStep unclaimed claimedState := ⟨100, .claim firstOwner 100, le_rfl, rfl⟩
  constructor
  · intro exclusive
    obtain ⟨state, run, clock, first, second⟩ := shorter_renewal_admits_another
    have same := exclusive unclaimed state unclaimed_initial (.head claims run)
      120 clock.le _ first _ second (by decide) (by decide)
    exact absurd same (by decide)
  · intro once
    obtain ⟨state, run, twice⟩ := cleared_mark_is_set_again
    have atMost := once unclaimed state unclaimed_initial (.head claims run)
    omega

end NewApi.TaskRows
