import NewApi.Referral.SettlementQueue

/-!
# Settlement run after run

With nothing new in the queue, the settlement runs come to rest.  What they
have settled by then is decided by the rows that cannot settle: they keep their
places in the batch, and `RunSettlementBatchInline` fails on one whose
affiliate is missing.

The tables hold exact amounts.  A database may hold the balances as floating
point numbers, as SQLite does, so that the comparison of the pending balance is
a parameter of the runs here.
-/

namespace NewApi.Referral

open Transactions BatchQueue

/-! ## The comparison of the balance -/

section Comparison

variable {γ : Type}

/-- What the database answers to `pending_amount >= ?` for a commission. -/
abbrev BalanceComparison := ReferralDatabase → ReferralCommission → Bool

/-- The answer is that for the exact balance. -/
def BalanceComparison.Exact (covers : BalanceComparison) : Prop :=
  ∀ db commission account, db.accounts.lookup commission.affiliateId = some account →
    covers db commission = decide (commission.commissionAmount ≤ account.pendingAmount)

def exactComparison : BalanceComparison := fun db commission =>
  match db.accounts.lookup commission.affiliateId with
  | none => false
  | some account => decide (commission.commissionAmount ≤ account.pendingAmount)

theorem exactComparison_exact : BalanceComparison.Exact exactComparison := by
  intro db commission account found
  simp only [exactComparison, found]

/-- A row of a run in a database that compares balances by `covers`: a pending
commission of an affiliate that settles fails the run where the answer is no. -/
def comparedRow (covers : BalanceComparison) (affiliates : List ReferralAffiliate)
    (row : ReferralDatabase × γ → ReferralCommission → Except ReferralError (ReferralDatabase × γ))
    (progress : ReferralDatabase × γ) (commission : ReferralCommission) :
    Except ReferralError (ReferralDatabase × γ) :=
  if eligible affiliates commission &&
      (progress.1.commissions.lookup commission.id).any (fun stored => stored.status = .pending) &&
      !covers progress.1 commission then
    .error (.text "referral settlement account balance mismatch")
  else row progress commission

def runSettlementBatchIn (covers : BalanceComparison) (affiliates : List ReferralAffiliate)
    (now : Int) (db : ReferralDatabase) :
    Except ReferralError (ReferralDatabase × ReferralSettlementBatch) :=
  let commissions := (db.dueCommissions now).take settlementBatchLimit
  commissions.foldlM
    (comparedRow covers affiliates (runSettlementRow affiliates (fun _ => false) now))
    (db, { scannedCount := commissions.length })

def runSettlementBatchInlineIn (covers : BalanceComparison) (affiliates : List ReferralAffiliate)
    (now : Int) (db : ReferralDatabase) : Except ReferralError (ReferralDatabase × Nat) :=
  ((db.dueCommissions now).take settlementBatchLimit).foldlM
    (comparedRow covers affiliates (runSettlementRowInline affiliates now)) (db, 0)

variable {affiliates : List ReferralAffiliate} {blocks : ReferralCommission → Bool} {now : Int}
  {row : ReferralDatabase × γ → ReferralCommission → Except ReferralError (ReferralDatabase × γ)}

/-- An exact comparison never refuses a commission of tables that the
operations have written. -/
theorem RowRule.compared (rule : RowRule affiliates blocks now row) {covers : BalanceComparison}
    (exact : covers.Exact) : RowRule affiliates blocks now (comparedRow covers affiliates row) where
  fails := by
    intro db count commission blocked
    unfold comparedRow
    split
    · exact ⟨_, rfl⟩
    · exact rule.fails db count commission blocked
  settles := by
    intro db count commission settleable found pending settles
    obtain ⟨account, stored, covered⟩ := settleable.account found pending
    have answer : covers db commission = true := by
      rw [exact db commission account stored]
      exact decide_eq_true covered
    have same : comparedRow covers affiliates row (db, count) commission =
        row (db, count) commission := by
      simp [comparedRow, answer]
    rw [same]
    exact rule.settles db count commission settleable found pending settles
  skips := by
    intro db count commission free skipped
    have same : comparedRow covers affiliates row (db, count) commission =
        row (db, count) commission := by
      simp [comparedRow, skipped]
    rw [same]
    exact rule.skips db count commission free skipped

end Comparison

/-! ## Run after run -/

section Repeated

variable {γ : Type} {db : ReferralDatabase} {clock : Nat → Int}
  {affiliates : List ReferralAffiliate} {blocks : ReferralCommission → Bool}
  {run : Int → ReferralDatabase → Except ReferralError (ReferralDatabase × γ)}

/-- A run works off the first due commissions row by row. -/
def RunRule (affiliates : List ReferralAffiliate) (blocks : ReferralCommission → Bool)
    (run : Int → ReferralDatabase → Except ReferralError (ReferralDatabase × γ)) :
    Prop :=
  ∀ now db, ∃ row count, RowRule affiliates blocks now row ∧
    run now db = ((db.dueCommissions now).take settlementBatchLimit).foldlM row (db, count)

section

variable {covers : BalanceComparison} (exact : covers.Exact) (affiliates : List ReferralAffiliate)
include exact

theorem runRule_batch :
    RunRule affiliates (fun _ => false) (runSettlementBatchIn covers affiliates) :=
  fun _ _ => ⟨_, _, rowRule_batch.compared exact, rfl⟩

theorem runRule_inline :
    RunRule affiliates (affiliateMissing affiliates)
      (runSettlementBatchInlineIn covers affiliates) :=
  fun _ _ => ⟨_, _, rowRule_inline.compared exact, rfl⟩

end

/-- The tables after some settlement runs; a run that fails leaves them as they
were. -/
def settlementRuns (run : Int → ReferralDatabase → Except ReferralError (ReferralDatabase × γ))
    (clock : Nat → Int) (db : ReferralDatabase) : Nat → ReferralDatabase
  | 0 => db
  | n + 1 =>
    commit (settlementRuns run clock db n)
      ((run (clock n) (settlementRuns run clock db n)).map Prod.fst)

/-- No pending commission becomes due after the first run. -/
def NoArrivals (clock : Nat → Int) (db : ReferralDatabase) : Prop :=
  ∀ n, ∀ commission ∈ db.commissions.rows, commission.status = .pending →
    (commission.settleAt ≤ clock n ↔ commission.settleAt ≤ clock 0)

/-- The commissions of a later state, compared with those at the first run. -/
structure Queued (clock : Nat → Int) (db state : ReferralDatabase) : Prop where
  settleable : Settleable state
  pending : ∀ commission,
    state.commissions.lookup commission.id = some commission →
      commission.status = .pending → db.commissions.lookup commission.id = some commission
  due : ∀ commission ∈ db.dueCommissions (clock 0),
    state.commissions.lookup commission.id = some commission ∨
      ∃ time, state.commissions.lookup commission.id = some (settledRow commission time)

variable {state : ReferralDatabase}

theorem Queued.sameDue (queued : Queued clock db state)
    (noArrivals : NoArrivals clock db) (n : Nat) :
    state.dueCommissions (clock n) = state.dueCommissions (clock 0) := by
  refine (dueCommissions_sorted state _).eq_of_mem_iff (dueCommissions_sorted state _) ?_
  intro commission
  rw [mem_dueCommissions, mem_dueCommissions]
  constructor
  · rintro ⟨stored, pending, scheduled, due⟩
    have listed := queued.pending commission stored pending
    have early :=
      (noArrivals n commission (KeyedTable.lookup_eq_some_iff.mp listed).1 pending).mp due
    exact ⟨stored, pending, scheduled, early⟩
  · rintro ⟨stored, pending, scheduled, due⟩
    have listed := queued.pending commission stored pending
    have late :=
      (noArrivals n commission (KeyedTable.lookup_eq_some_iff.mp listed).1 pending).mpr due
    exact ⟨stored, pending, scheduled, late⟩

theorem queued_start (settleable : Settleable db) : Queued clock db db :=
  ⟨settleable, fun _ stored _ => stored, fun _ listed => Or.inl (mem_dueCommissions.mp listed).1⟩

theorem Queued.settled {later : ReferralDatabase} {now : Int} {batch : List ReferralCommission}
    (queued : Queued clock db state) (kept : Settleable later) (waiting : PendingBatch batch state)
    (settled : SettledBatch affiliates now batch state later) :
    Queued clock db later := by
  have outcome : ∀ id,
      later.commissions.lookup id = state.commissions.lookup id ∨
        ∃ commission, state.commissions.lookup id = some commission ∧
          later.commissions.lookup id = some (settledRow commission now) := by
    intro id
    by_cases inBatch : ∃ commission ∈ batch, commission.id = id ∧
        eligible affiliates commission = true
    · obtain ⟨commission, listed, rfl, settles⟩ := inBatch
      exact Or.inr
          ⟨commission, waiting.stored commission listed, settled.settled commission listed settles⟩
    · left
      apply settled.others
      intro commission listed same
      by_contra settles
      exact inBatch ⟨commission, listed, same, by simpa using settles⟩
  refine ⟨kept, ?_, ?_⟩
  · intro commission stored pending
    rcases outcome commission.id with same | ⟨old, _, gone⟩
    · rw [same] at stored
      exact queued.pending commission stored pending
    · rw [stored] at gone
      cases gone
      cases pending
  · intro commission listed
    rcases queued.due commission listed with stored | ⟨time, stored⟩
    · rcases outcome commission.id with same | ⟨old, found, gone⟩
      · exact Or.inl (same.trans stored)
      · rw [stored] at found
        cases found
        exact Or.inr ⟨now, gone⟩
    · rcases outcome commission.id with same | ⟨old, found, gone⟩
      · exact Or.inr ⟨time, same.trans stored⟩
      · rw [stored] at found
        cases found
        exact Or.inr ⟨now, gone⟩

/-- The queue of the state after `n` runs is worked off by the next run, unless
an entry of its batch makes the run fail. -/
theorem Queued.step {n : Nat} (rule : RunRule affiliates blocks run)
    (noArrivals : NoArrivals clock db) (queued : Queued clock db state) :
    Queued clock db (commit state ((run (clock n) state).map Prod.fst)) ∧
      (commit state ((run (clock n) state).map Prod.fst)).dueCommissions (clock 0) =
        if ((state.dueCommissions (clock 0)).take settlementBatchLimit).any blocks then
          state.dueCommissions (clock 0)
        else
          drain (ineligible affiliates) settlementBatchLimit (state.dueCommissions (clock 0)) := by
  have waiting := pendingBatch_due state (clock 0) settlementBatchLimit
  obtain ⟨row, count, rowRule, ran⟩ := rule (clock n) state
  rw [queued.sameDue noArrivals n] at ran
  cases window : ((state.dueCommissions (clock 0)).take settlementBatchLimit).any blocks with
  | true =>
    obtain ⟨err, failed⟩ := rowRule.error queued.settleable waiting window
    rw [ran, failed]
    exact ⟨queued, rfl⟩
  | false =>
    obtain ⟨later, counted, done, kept, settled⟩ := rowRule.ok queued.settleable waiting window
    rw [ran, done]
    refine ⟨queued.settled kept waiting settled, ?_⟩
    exact settled.dueCommissions

theorem queued_runs (rule : RunRule affiliates blocks run)
    (noArrivals : NoArrivals clock db) (settleable : Settleable db) (n : Nat) :
    Queued clock db (settlementRuns run clock db n) := by
  induction n with
  | zero => exact queued_start settleable
  | succ n ih => exact (ih.step rule noArrivals).1

/-- Every commission that is due at the first run and whose affiliate settles
has settled. -/
def AllSettled (affiliates : List ReferralAffiliate) (due : List ReferralCommission)
    (state : ReferralDatabase) : Prop :=
  ∀ commission ∈ due, eligible affiliates commission = true →
    ∃ row, state.commissions.lookup commission.id = some row ∧ row.status ≠ .pending

/-- What stays due is what no pass settles. -/
theorem Queued.allSettled_iff (queued : Queued clock db state) :
    AllSettled affiliates (db.dueCommissions (clock 0)) state ↔
      ∀ commission ∈ state.dueCommissions (clock 0), ineligible affiliates commission = true := by
  constructor
  · intro settled commission listed
    obtain ⟨stored, pending, scheduled, due⟩ := mem_dueCommissions.mp listed
    by_contra settles
    have before : commission ∈ db.dueCommissions (clock 0) :=
      mem_dueCommissions.mpr ⟨queued.pending commission stored pending, pending, scheduled, due⟩
    obtain ⟨row, found, notPending⟩ :=
      settled commission before (by simpa [ineligible] using settles)
    rw [stored] at found
    cases found
    exact notPending pending
  · intro rest commission listed settles
    obtain ⟨_, pending, scheduled, due⟩ := mem_dueCommissions.mp listed
    rcases queued.due commission listed with stored | ⟨time, stored⟩
    · have waiting : commission ∈ state.dueCommissions (clock 0) :=
        mem_dueCommissions.mpr ⟨stored, pending, scheduled, due⟩
      have fails := rest commission waiting
      simp [ineligible, settles] at fails
    · exact ⟨_, stored, by rintro ⟨⟩⟩

section

variable (rule : RunRule affiliates blocks run) (noArrivals : NoArrivals clock db)
  (settleable : Settleable db)
include rule noArrivals settleable

theorem RunRule.queue_succ (n : Nat) :
    (settlementRuns run clock db (n + 1)).dueCommissions (clock 0) =
      if (((settlementRuns run clock db n).dueCommissions (clock 0)).take
          settlementBatchLimit).any blocks then
        (settlementRuns run clock db n).dueCommissions (clock 0)
      else
        drain (ineligible affiliates) settlementBatchLimit
          ((settlementRuns run clock db n).dueCommissions (clock 0)) :=
  ((queued_runs rule noArrivals settleable n).step rule noArrivals).2

theorem RunRule.reaches_iff :
    (∃ n, AllSettled affiliates (db.dueCommissions (clock 0)) (settlementRuns run clock db n)) ↔
      ∃ n, ∀ commission ∈ (settlementRuns run clock db n).dueCommissions (clock 0),
        ineligible affiliates commission = true :=
  exists_congr fun n => (queued_runs rule noArrivals settleable n).allSettled_iff

end

theorem missing_ineligible (affiliates : List ReferralAffiliate) (commission : ReferralCommission)
    (missing : affiliateMissing affiliates commission = true) :
    ineligible affiliates commission = true := by
  have looked := Option.isNone_iff_eq_none.mp missing
  simp [ineligible, eligible, looked]

end Repeated

/-- On the tables of any run of the operations, and with an exact comparison of
the balances, `RunSettlementBatch` settles everything that can settle exactly
when fewer than a batch of other due commissions stand before each.
`RunSettlementBatchInline` settles it exactly when, besides, the rows that it
looks at on the way have their affiliates. -/
theorem settlement_reaches_all_iff (calls : List ReferralCall) (affiliates : List ReferralAffiliate)
    (clock : Nat → Int) (db : ReferralDatabase)
    (reached : db = execute referralStep ReferralDatabase.empty calls)
    (noArrivals : NoArrivals clock db) {covers : BalanceComparison} (exact : covers.Exact) :
    ((∃ n,
        AllSettled affiliates (db.dueCommissions (clock 0))
          (settlementRuns (runSettlementBatchIn covers affiliates) clock db n)) ↔
      ∀ commission ∈ db.dueCommissions (clock 0),
        eligible affiliates commission = true →
          Reached (ineligible affiliates) settlementBatchLimit
            (db.dueCommissions (clock 0)) commission) ∧
    ((∃ n,
        AllSettled affiliates (db.dueCommissions (clock 0))
          (settlementRuns (runSettlementBatchInlineIn covers affiliates) clock db n)) ↔
      ∃ n,
        (∀ commission ∈
            (db.dueCommissions (clock 0)).take
              (reach (ineligible affiliates) settlementBatchLimit (db.dueCommissions (clock 0)) n),
          affiliateMissing affiliates commission = false) ∧
        ∀ commission ∈
            (db.dueCommissions (clock 0)).drop
              (reach (ineligible affiliates) settlementBatchLimit (db.dueCommissions (clock 0)) n),
          eligible affiliates commission = false) := by
  have settleable : Settleable db := reached ▸ settleable_empty.execute calls
  constructor
  · have rule := runRule_batch exact affiliates
    have passes : ∀ n,
        (settlementRuns (runSettlementBatchIn covers affiliates) clock
            db (n + 1)).dueCommissions (clock 0) =
          drain (ineligible affiliates) settlementBatchLimit
            ((settlementRuns (runSettlementBatchIn covers affiliates)
              clock db n).dueCommissions (clock 0)) := by
      intro n
      simpa using rule.queue_succ noArrivals settleable n
    rw [rule.reaches_iff noArrivals settleable,
      exists_all_stuck_iff passes (dueCommissions_nodup db (clock 0))]
    simp only [ineligible, Bool.not_eq_false', settlementRuns]
  · rw [(runRule_inline exact affiliates).reaches_iff noArrivals settleable,
      exists_all_stuck_iff_of_blocks (missing_ineligible affiliates)
        ((runRule_inline exact affiliates).queue_succ noArrivals settleable)]
    simp only [ineligible, Bool.not_eq_true', settlementRuns]

def singleCommission : ReferralDatabase :=
  execute referralStep ReferralDatabase.empty (withdrawingRun.take 1)

theorem settlement_reaches_single :
    ∃ n,
      AllSettled [plainAffiliate] (singleCommission.dueCommissions 200)
        (settlementRuns (runSettlementBatchIn exactComparison [plainAffiliate])
          (fun _ => 200) singleCommission n) := by
  have few : (singleCommission.dueCommissions 200).length = 1 := by decide +kernel
  have iff :=
    settlement_reaches_all_iff (withdrawingRun.take 1) [plainAffiliate]
      (fun _ => 200) singleCommission rfl (fun _ _ _ _ => Iff.rfl) exactComparison_exact
  apply iff.1.mpr
  intro commission listed settles
  obtain ⟨first, alone⟩ := List.length_eq_one_iff.mp few
  rw [alone] at listed ⊢
  rw [List.mem_singleton.mp listed] at settles ⊢
  exact ⟨[], [], rfl, by simp [ineligible, settles], by decide⟩

def secondAffiliate : ReferralAffiliate :=
  { plainAffiliate with id := 2, userId := 9, inviteCode := "other" }

def twoCommissions : ReferralDatabase :=
  execute referralStep ReferralDatabase.empty
    ([(2, "first"), (1, "second")].map fun (affiliateId, tradeNo) =>
      ⟨.processCommission plainSettings [plainAffiliate, secondAffiliate] {} 100
        { plainOrder tradeNo 500 with affiliateId := affiliateId }, false⟩)

/-- The second affiliate is gone: every run fails on its commission, and the
commission of the first one waits behind it. -/
theorem missing_affiliate_starves_settlement : NoArrivals (fun _ => 200) twoCommissions ∧
      ¬∃ n,
        AllSettled [plainAffiliate] (twoCommissions.dueCommissions 200)
          (settlementRuns (runSettlementBatchInlineIn exactComparison [plainAffiliate])
            (fun _ => 200) twoCommissions n) := by
  refine ⟨fun _ _ _ _ => Iff.rfl, ?_⟩
  have fails : (runSettlementBatchInlineIn exactComparison [plainAffiliate] 200 twoCommissions).isOk = false := by
    decide +kernel
  have still : ∀ n,
      settlementRuns (runSettlementBatchInlineIn exactComparison [plainAffiliate])
        (fun _ => 200) twoCommissions n = twoCommissions := by
    intro n
    induction n with
    | zero => rfl
    | succ n ih =>
      rw [settlementRuns, ih]
      cases outcome : runSettlementBatchInlineIn exactComparison [plainAffiliate] 200 twoCommissions with
      | error err => rfl
      | ok result =>
        rw [outcome] at fails
        cases fails
  have waits : (twoCommissions.dueCommissions 200).any (fun commission =>
        eligible [plainAffiliate] commission &&
          ((twoCommissions.commissions.lookup commission.id).all
            (fun row => row.status = .pending))) = true := by
    decide +kernel
  rintro ⟨n, settled⟩
  obtain ⟨commission, listed, facts⟩ := List.any_eq_true.mp waits
  obtain ⟨settles, pending⟩ := (Bool.and_eq_true _ _).mp facts
  obtain ⟨row, found, notPending⟩ := settled commission listed settles
  rw [still n] at found
  rw [found] at pending
  exact notPending (of_decide_eq_true pending)

end NewApi.Referral
