import NewApi.TaskRows.HiddenChanges
import Mathlib.Data.List.Pairwise

/-!
# Patches of several workers

Workers that have loaded the same row write their patches one after another.
A part is written by those for whom it shows, and the last of them wins.
-/

namespace NewApi.TaskRows

open NewApi.Tasks LoadedTask

variable {Snapshot : Type} [DecidableEq Snapshot]

/-- The workers call `UpdateWithStatus` in this order and at these times: the
row after the last call, or `none` if a call does not win. -/
def updateAll {json : RawJson} {row : TaskRow Snapshot} (status : TaskStatus)
    (order : List (LoadedTask json row × Int)) (current : TaskRow Snapshot) :
    Option (TaskRow Snapshot) :=
  order.foldlM (fun current call => call.1.updateWithStatus status call.2 current) current

def ChangesDisjoint {json : RawJson} {row : TaskRow Snapshot} (first second : LoadedTask json row) : Prop :=
  ∀ part, ¬ (first.Changes part ∧ second.Changes part)

/-- What one of two workers changes does not show for the other. -/
def ShowsApart {json : RawJson} {row : TaskRow Snapshot} (first second : LoadedTask json row) : Prop :=
  ∀ part, ¬ (first.Shows part ∧ second.Changes part) ∧ ¬ (second.Shows part ∧ first.Changes part)

/-- In every order all calls win, and lead to the same contents: those of the
worker that has changed a part, or of the row if there is none. -/
def PatchesCommute {json : RawJson} {row : TaskRow Snapshot} (workers : List (LoadedTask json row)) : Prop :=
  ∃ contents : TaskContents Snapshot,
    ∀ order : List (LoadedTask json row × Int),
      (order.map Prod.fst).Perm workers →
        ∃ final, updateAll (row.column .status) order row = some final ∧
          final.toTaskContents = contents ∧
          ∀ part,
            (∀ worker ∈ workers, worker.Changes part →
              contents.part part = part.stored (worker.contents.part part)) ∧
            ((∀ worker ∈ workers, ¬ worker.Changes part) → contents.part part = row.part part)

section Runs

variable {json : RawJson} {row : TaskRow Snapshot}

def LoadedTask.KeepsStatus (worker : LoadedTask json row) : Prop :=
  worker.contents.column .status = row.column .status

/-- A worker whose patches leave the status alone and can be marshalled. -/
structure LoadedTask.Regular (worker : LoadedTask json row) : Prop where
  status : worker.KeepsStatus
  compact : worker.contents.Compact json

theorem update_step (worker : LoadedTask json row) (regular : worker.Regular)
    (compact : row.Compact json) {current : TaskRow Snapshot} (stored : current.Stored)
    (currentCompact : current.Compact json)
    (status : current.column .status = row.column .status) (clock : Int) :
    ∃ next, worker.updateWithStatus (row.column .status) clock current = some next ∧ next.Stored ∧
      next.Compact json ∧ next.column .status = row.column .status ∧
      ∀ part, (¬ worker.Shows part → next.part part = current.part part) ∧
        (worker.Shows part → next.part part = part.stored (worker.contents.part part)) := by
  obtain ⟨next, won, nextStored, nextCompact, written⟩ :=
    worker.updateWithStatus_wins compact regular.compact stored currentCompact status clock
  refine ⟨next, won, nextStored, nextCompact, ?_, written⟩
  by_cases shows : worker.Shows (.column .status)
  · exact ((written (.column .status)).2 shows).trans regular.status
  · exact ((written (.column .status)).1 shows).trans status

/-- If all workers for whom a part shows write the same value, the part has
this value as soon as it is written, or from the start. -/
theorem updateAll_wins (order : List (LoadedTask json row × Int))
    (keep : ∀ call ∈ order, call.1.Regular) (compact : row.Compact json)
    {current : TaskRow Snapshot} (stored : current.Stored)
    (currentCompact : current.Compact json) (status : current.column .status = row.column .status) :
    ∃ final, updateAll (row.column .status) order current = some final ∧
      final.Stored ∧ final.Compact json ∧ final.column .status = row.column .status ∧
      ∀ (part : TaskPart) (value : part.Value Snapshot),
        (∀ call ∈ order, call.1.Shows part → part.stored (call.1.contents.part part) = value) →
        (current.part part = value ∨ ∃ call ∈ order, call.1.Shows part) →
          final.part part = value := by
  induction order generalizing current with
  | nil =>
    refine ⟨current, rfl, stored, currentCompact, status, ?_⟩
    rintro part value - (already | ⟨call, absurdly, -⟩)
    · exact already
    · cases absurdly
  | cons call rest ih =>
    obtain ⟨next, won, nextStored, nextCompact, nextStatus, written⟩ :=
      update_step call.1 (keep call (List.mem_cons_self ..)) compact stored currentCompact status
        call.2
    obtain ⟨final, wins, finalStored, finalCompact, finalStatus, values⟩ :=
      ih (fun other listed => keep other (List.mem_cons_of_mem _ listed)) nextStored nextCompact
        nextStatus
    refine ⟨final, ?_, finalStored, finalCompact, finalStatus, ?_⟩
    · rw [updateAll, List.foldlM_cons, won]
      exact wins
    · intro part value same written_or
      refine values part value (fun other listed => same other (List.mem_cons_of_mem _ listed)) ?_
      by_cases shows : call.1.Shows part
      · left
        rw [(written part).2 shows]
        exact same call (List.mem_cons_self ..) shows
      · rw [(written part).1 shows]
        rcases written_or with already | ⟨other, listed, otherShows⟩
        · exact Or.inl already
        · rcases List.mem_cons.mp listed with rfl | later
          · exact absurd otherShows shows
          · exact Or.inr ⟨other, later, otherShows⟩

theorem updateAll_append (status : TaskStatus)
    (first second : List (LoadedTask json row × Int)) (current : TaskRow Snapshot) :
    updateAll status (first ++ second) current =
      (updateAll status first current).bind (updateAll status second) :=
  List.foldlM_append

/-- A worker that comes last has its value on every part that shows for it. -/
theorem updateAll_last (order : List (LoadedTask json row × Int)) (worker : LoadedTask json row) (clock : Int)
    (keep : ∀ call ∈ order ++ [(worker, clock)], call.1.Regular)
    (stored : row.Stored) (compact : row.Compact json) {final : TaskRow Snapshot}
    (wins : updateAll (row.column .status) (order ++ [(worker, clock)]) row =
      some final) {part : TaskPart} (shows : worker.Shows part) :
    final.part part = part.stored (worker.contents.part part) := by
  have keepFirst : ∀ call ∈ order, call.1.Regular :=
    fun call listed => keep call (List.mem_append_left _ listed)
  obtain ⟨middle, first, middleStored, middleCompact, middleStatus, -⟩ :=
    updateAll_wins order keepFirst compact stored compact rfl
  obtain ⟨next, won, -, -, -, written⟩ :=
    update_step worker (keep _ (List.mem_append_right _ (List.mem_singleton.mpr rfl))) compact
      middleStored middleCompact middleStatus clock
  rw [updateAll_append, first, Option.bind_some, updateAll, List.foldlM_cons, won] at wins
  obtain rfl : next = final := Option.some.inj wins
  exact (written part).2 shows

end Runs

/-! ## When patches commute -/

section Commuting

variable {json : RawJson} {row : TaskRow Snapshot} {workers : List (LoadedTask json row)}

variable {worker : LoadedTask json row} {part : TaskPart}

omit [DecidableEq Snapshot] in
theorem LoadedTask.stored_of_unchanged (unchanged : ¬ worker.Changes part) :
    part.stored (worker.contents.part part) = row.part part :=
  not_not.mp unchanged

theorem compact_of_updateAll {status : TaskStatus} {order : List (LoadedTask json row × Int)}
    {current final : TaskRow Snapshot} (compact : current.Compact json)
    (wins : updateAll status order current = some final) : final.Compact json := by
  induction order generalizing current with
  | nil =>
    obtain rfl := Option.some.inj wins
    exact compact
  | cons call rest ih =>
    rw [updateAll, List.foldlM_cons] at wins
    obtain ⟨next, won, others⟩ := Option.bind_eq_some_iff.mp wins
    exact ih (compact_of_updateWithStatus compact won) others

def callsAt (clock : Int) (workers : List (LoadedTask json row)) :
    List (LoadedTask json row × Int) :=
  workers.map fun worker => (worker, clock)

omit [DecidableEq Snapshot] in
@[simp]
theorem map_fst_callsAt (clock : Int) (workers : List (LoadedTask json row)) :
    (callsAt clock workers).map Prod.fst = workers := by
  simp [callsAt, Function.comp_def]

variable {order : List (LoadedTask json row × Int)}

omit [DecidableEq Snapshot] in
theorem keeps_of_perm (perm : (order.map Prod.fst).Perm workers)
    (keep : ∀ worker ∈ workers, worker.Regular) :
    ∀ call ∈ order, call.1.Regular :=
  fun _ listed => keep _ (perm.mem_iff.mp (List.mem_map_of_mem listed))

instance : Std.Symm (@ChangesDisjoint Snapshot json row) where
  symm := fun _ _ disjoint part both => disjoint part both.symm

instance : Std.Symm (@ShowsApart Snapshot json row) where
  symm := fun _ _ apart part => (apart part).symm

theorem part_after_all (perm : (order.map Prod.fst).Perm workers)
    (keep : ∀ worker ∈ workers, worker.Regular) (stored : row.Stored)
    (compact : row.Compact json) {final : TaskRow Snapshot}
    (wins : updateAll (row.column .status) order row = some final) (value : part.Value Snapshot)
    (same : ∀ worker ∈ workers, worker.Shows part → part.stored (worker.contents.part part) = value)
    (written : row.part part = value ∨ ∃ worker ∈ workers, worker.Shows part) :
    final.part part = value := by
  obtain ⟨result, won, -, -, -, values⟩ :=
    updateAll_wins order (keeps_of_perm perm keep) compact stored compact rfl
  obtain rfl := Option.some.inj (wins.symm.trans won)
  refine values part value ?_ ?_
  · intro call listed
    exact same call.1 (perm.mem_iff.mp (List.mem_map_of_mem listed))
  · refine written.imp_right ?_
    rintro ⟨worker, listed, shows⟩
    obtain ⟨call, called, rfl⟩ := List.mem_map.mp (perm.mem_iff.mpr listed)
    exact ⟨call, called, shows⟩

/-- The value of a part after all workers have written, if what they have
changed shows and does not show for others. -/
theorem part_of_apart (shown : ∀ worker ∈ workers, ∀ part, worker.Changes part → worker.Shows part)
    (apart : workers.Pairwise ShowsApart) (perm : (order.map Prod.fst).Perm workers)
    (keep : ∀ worker ∈ workers, worker.Regular) (stored : row.Stored)
    (compact : row.Compact json) {final : TaskRow Snapshot}
    (wins : updateAll (row.column .status) order row = some final) (part : TaskPart) :
    (∀ worker ∈ workers, worker.Changes part →
      final.part part = part.stored (worker.contents.part part)) ∧
    ((∀ worker ∈ workers, ¬ worker.Changes part) → final.part part = row.part part) := by
  constructor
  · intro worker listed changes
    have shows := shown worker listed part changes
    refine part_after_all perm keep stored compact wins _ ?_ (Or.inr ⟨worker, listed, shows⟩)
    intro other otherListed otherShows
    by_cases same : other = worker
    · rw [same]
    · have isApart : ShowsApart other worker := apart.forall otherListed listed same
      exact absurd ⟨otherShows, changes⟩ (isApart part).1
  · intro unchanged
    refine part_after_all perm keep stored compact wins _ ?_ (Or.inl rfl)
    intro other listed _
    exact stored_of_unchanged (unchanged other listed)

theorem PatchesCommute.shows (commute : PatchesCommute workers)
    (disjoint : workers.Pairwise ChangesDisjoint)
    (keep : ∀ worker ∈ workers, worker.Regular) (stored : row.Stored)
    (compact : row.Compact json) (listed : worker ∈ workers) (changes : worker.Changes part) : worker.Shows part := by
  by_contra hidden
  have perm : ((callsAt 0 workers).map Prod.fst).Perm workers := by rw [map_fst_callsAt]
  obtain ⟨contents, commutes⟩ := commute
  obtain ⟨final, wins, rfl, values⟩ := commutes _ perm
  -- All others write what the row had, so that the change is lost.
  have lost : final.part part = row.part part := by
    refine part_after_all perm keep stored compact wins _ ?_ (Or.inl rfl)
    intro other otherListed shows
    have isOther : other ≠ worker := by
      rintro rfl
      exact hidden shows
    have unchanged : ¬ other.Changes part := fun otherChanges =>
      disjoint.forall otherListed listed isOther part ⟨otherChanges, changes⟩
    exact stored_of_unchanged unchanged
  exact changes (((values part).1 worker listed changes).symm.trans lost)

/-- A part that somebody else has changed does not show for a worker, who
might come last. -/
theorem PatchesCommute.not_shows (commute : PatchesCommute workers)
    (keep : ∀ worker ∈ workers, worker.Regular) (stored : row.Stored)
    (compact : row.Compact json) {other : LoadedTask json row} (listed : worker ∈ workers) (otherListed : other ∈ workers)
    (unchanged : ¬ worker.Changes part) (changes : other.Changes part) :
    ¬ worker.Shows part := by
  intro shows
  obtain ⟨before, after, split⟩ := List.append_of_mem listed
  have perm : ((callsAt 0 (before ++ after) ++ [(worker, 0)]).map Prod.fst).Perm workers := by
    rw [List.map_append, map_fst_callsAt, split]
    exact (List.perm_append_singleton _ _).trans List.perm_middle.symm
  obtain ⟨contents, commutes⟩ := commute
  obtain ⟨final, wins, rfl, values⟩ := commutes _ perm
  have last : final.part part = part.stored (worker.contents.part part) :=
    updateAll_last _ worker 0 (keeps_of_perm perm keep) stored compact wins shows
  rw [stored_of_unchanged unchanged] at last
  exact changes (((values part).1 other otherListed changes).symm.trans last)

theorem PatchesCommute.compact (commute : PatchesCommute workers) (compact : row.Compact json)
    (listed : worker ∈ workers) : worker.contents.Compact json := by
  have perm : ((callsAt 0 workers).map Prod.fst).Perm workers := by rw [map_fst_callsAt]
  obtain ⟨contents, commutes⟩ := commute
  obtain ⟨final, wins, rfl, values⟩ := commutes _ perm
  have finalCompact : final.Compact json := compact_of_updateAll compact wins
  let message : TaskPart := .field .pluginState rfl
  rw [← compact_stored_iff]
  by_cases changes : worker.Changes message
  · have same : final.privateData .pluginState = worker.contents.stored.privateData .pluginState :=
      (values message).1 worker listed changes
    rw [compact_iff, ← same, ← compact_iff]
    exact finalCompact
  · have same : worker.contents.stored.privateData .pluginState = row.privateData .pluginState :=
      not_not.mp changes
    rw [compact_iff, same, ← compact_iff]
    exact compact

end Commuting

def assigningWorker (column : TaskColumn) (value : column.Value) :
    LoadedTask noMessages requestRow :=
  requestWorker [.setColumn column value]

theorem assigningWorker_contents (column : TaskColumn) (value : column.Value) :
    (assigningWorker column value).contents =
      { requestRow.toTaskContents with
        column := Function.update requestRow.column column value } := by
  rw [← requestTask_scans.contents, contents, assigningWorker, requestWorker_state]
  rfl

theorem assigningWorker_compact (column : TaskColumn) (value : column.Value) :
    (assigningWorker column value).contents.Compact noMessages := by
  rw [compact_iff, assigningWorker_contents]
  rfl

theorem assigningWorker_unwritten (column : TaskColumn) (value : column.Value) :
    (assigningWorker column value).state.1 = requestMemory := by
  rw [assigningWorker, requestWorker_state]
  rfl

theorem assigningWorker_shows {column : TaskColumn} {value : column.Value}
    {part : TaskPart} (shows : (assigningWorker column value).Shows part) :
    part = .column column := by
  have baseline := (assigningWorker column value).baseline_eq requestRow_compact
  rw [assigningWorker_unwritten] at baseline
  have differs := shows _ (by rw [assigningWorker_unwritten]; exact baseline)
  rw [assigningWorker_contents] at differs
  by_contra isOther
  refine differs (Eq.trans ?_ (congrArg (TaskContents.part · part) requestTask_scans.contents.symm))
  cases part with
  | column name =>
    have otherName : name ≠ column := fun same => isOther (by rw [same])
    exact Function.update_of_ne otherName ..
  | field name plain | artifact key | header key => rfl

theorem assigningWorker_changes {column : TaskColumn} {value : column.Value}
    {part : TaskPart} (changes : (assigningWorker column value).Changes part) :
    (assigningWorker column value).Shows part :=
  shows_of_unwritten requestRow_stored requestRow_compact (assigningWorker_unwritten column value)
    changes

end NewApi.TaskRows
