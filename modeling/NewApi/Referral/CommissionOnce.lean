import NewApi.Referral.AccountRuns
import NewApi.Referral.CommissionJobs

/-!
# One commission per order

The invariant that ties every commission to its order, its ledger line, its
account and its job.  A commission that satisfies it is complete, so processing
its order again finds nothing to do.
-/

namespace NewApi.Referral

open Transactions GoStrings KeyedTable ReferralDatabase

section Jobs

variable {db middle later : ReferralDatabase} {key : SourceType × String}

/-- Only the job under one key differs, and it is not lost. -/
structure JobsOnly (key : SourceType × String) (db later : ReferralDatabase) : Prop where
  tables : later = { db with jobs := later.jobs }
  others : ∀ other, other ≠ key → later.jobs.lookup other = db.jobs.lookup other
  kept : (db.jobs.lookup key).isSome → (later.jobs.lookup key).isSome

theorem JobsOnly.refl (key : SourceType × String) (db : ReferralDatabase) : JobsOnly key db db :=
  ⟨rfl, fun _ _ => rfl, id⟩

theorem JobsOnly.trans (first : JobsOnly key db middle) (second : JobsOnly key middle later) :
    JobsOnly key db later where
  tables := by
    rw [second.tables, first.tables]
  others other different := (second.others other different).trans (first.others other different)
  kept := second.kept ∘ first.kept

variable {job : ReferralCommissionJob}

theorem jobsOnly_saveJob (db : ReferralDatabase) (source : job.source = key) :
    JobsOnly key db (db.saveJob job) := by
  refine ⟨rfl, ?_, ?_⟩
  · intro other different
    simp only [saveJob, lookup_save]
    rw [source, if_neg different.symm]
  · intro present
    simp only [saveJob, lookup_save]
    rw [if_pos source, Option.isSome_map]
    exact present

theorem jobsOnly_insertJob (db : ReferralDatabase) (source : job.source = key) :
    JobsOnly key db { db with jobs := db.jobs.insertIgnore job } := by
  refine ⟨rfl, ?_, ?_⟩
  · intro other different
    rw [lookup_insertIgnore, source, if_neg different.symm, Option.or_none]
  · intro present
    rw [lookup_insertIgnore, Option.isSome_or, present, Bool.true_or]

theorem lookup_saveJob {old : ReferralCommissionJob}
    (found : db.jobs.lookup job.source = some old) :
    (db.saveJob job).jobs.lookup job.source = some job :=
  lookup_save_self found

/-- The job of the order, or a new one. -/
theorem findOrCreateJobTx_cases (db : ReferralDatabase) (order : CommissionOrder) :
    ∃ opened job,
      findOrCreateJobTx db order = (opened, job) ∧
        JobsOnly (order.sourceType, order.tradeNo) db opened ∧
        opened.jobs.lookup (order.sourceType, order.tradeNo) = some job ∧
        job.source = (order.sourceType, order.tradeNo) ∧
        (∀ old, db.jobs.lookup (order.sourceType, order.tradeNo) = some old →
          opened = db ∧ job = old) := by
  unfold findOrCreateJobTx
  cases found : db.jobs.lookup (order.sourceType, order.tradeNo) with
  | some old =>
    refine ⟨db, old, rfl, JobsOnly.refl _ db, found, ?_, ?_⟩
    · exact key_of_lookup found
    · intro other same
      cases same
      exact ⟨rfl, rfl⟩
  | none =>
    refine ⟨_, _, rfl, ?_, ?_, ?_, ?_⟩
    · exact jobsOnly_insertJob db rfl
    · rw [lookup_insertIgnore, found]
      simp [ReferralCommissionJob.source]
    · rfl
    · rintro other ⟨⟩

end Jobs

/-! ## The outcome of a transaction -/

section Outcomes

variable {context : CommissionContext} {order : CommissionOrder}
  {db later : ReferralDatabase} {outcome : OrderReferral}

/-- The commission of an order and everything that is written with it. -/
structure Accrual (context : CommissionContext) (order : CommissionOrder)
    (db later : ReferralDatabase) (affiliate : ReferralAffiliate)
    (commission : ReferralCommission) : Prop where
  affiliateFound : context.affiliates.find? (fun row => row.id = order.affiliateId) = some affiliate
  affiliatePositive : 0 < order.affiliateId
  unique : db.commissionOf order.sourceType order.tradeNo = none
  idPositive : 0 < commission.id
  positive : 0 < commission.commissionAmount
  affiliateId : commission.affiliateId = order.affiliateId
  affiliateUserId : commission.affiliateUserId = affiliate.userId
  inviteeUserId : commission.inviteeUserId = order.userId
  sourceType : commission.sourceType = order.sourceType
  sourceOrderId : commission.sourceOrderId = order.sourceOrderId
  sourceTradeNo : commission.sourceTradeNo = order.tradeNo
  commissions : later.commissions.rows = db.commissions.rows ++ [commission]
  ledger : db.ledger.create (accrueLine commission affiliate.userId) = some later.ledger
  opened : (later.accounts.lookup order.affiliateId).isSome
  accounts : ∀ id account, later.accounts.lookup id = some account →
    (∃ old, db.accounts.lookup id = some old ∧ account.userId = old.userId) ∨
      id = order.affiliateId ∧ account.userId = affiliate.userId
  accountsKept : ∀ id, (db.accounts.lookup id).isSome → (later.accounts.lookup id).isSome

/-- A transaction that has run the job of an order: only the job has changed, or
a commission has accrued and the job has succeeded. -/
def JobOutcome (context : CommissionContext) (order : CommissionOrder)
    (db later : ReferralDatabase) : Prop :=
  JobsOnly (order.sourceType, order.tradeNo) db later ∨
    (∃ affiliate commission, Accrual context order db later affiliate commission) ∧
      (∀ other, other ≠ (order.sourceType, order.tradeNo) →
        later.jobs.lookup other = db.jobs.lookup other) ∧
      ∃ job, later.jobs.lookup (order.sourceType, order.tradeNo) = some job ∧
        job.status = .succeeded

theorem JobOutcome.of_jobsOnly {middle : ReferralDatabase}
    (outcome : JobOutcome context order middle later)
    (before : JobsOnly (order.sourceType, order.tradeNo) db middle) :
    JobOutcome context order db later := by
  rcases outcome with after | ⟨⟨affiliate, commission, accrual⟩, others, succeeded⟩
  · exact Or.inl (before.trans after)
  refine Or.inr ⟨⟨affiliate, commission, ?_⟩, ?_, succeeded⟩
  · have tables := before.tables
    rw [tables] at accrual
    exact { accrual with }
  · intro other different
    rw [others other different, before.others other different]

variable {affiliate : ReferralAffiliate} {job stored : ReferralCommissionJob}

theorem accrual_of_writes {commission : ReferralCommission}
    {commissions : KeyedTable ReferralCommission.id} {opened updated posted : ReferralDatabase}
    {account : ReferralCommissionAccount} {amount : Int}
    (created : db.commissions.create commission = some commissions)
    (opening :
      getOrCreateAccountTx { db with commissions := commissions }
        order.affiliateId affiliate.userId = .ok (opened, account))
    (moved :
      updateAccount opened order.affiliateId (fun _ => true) (·.accrue amount) = some updated)
    (posting : createLedgerTx updated (accrueLine commission affiliate.userId) = .ok posted) :
    posted.jobs = db.jobs ∧ posted.commissions.rows = db.commissions.rows ++ [commission] ∧
      db.ledger.create (accrueLine commission affiliate.userId) = some posted.ledger ∧
      (posted.accounts.lookup order.affiliateId).isSome ∧
      (∀ id stored, posted.accounts.lookup id = some stored →
        (∃ old, db.accounts.lookup id = some old ∧ stored.userId = old.userId) ∨
          id = order.affiliateId ∧ stored.userId = affiliate.userId) ∧
      ∀ id, (db.accounts.lookup id).isSome → (posted.accounts.lookup id).isSome := by
  obtain ⟨openedEq, _, openedAccounts⟩ := getOrCreateAccountTx_cases opening
  obtain ⟨row, rowFound, _, updatedEq⟩ := updateAccount_cases moved
  obtain ⟨ledger, ledgerCreated, postedEq⟩ := createLedgerTx_cases posting
  have openedCommissions : opened.commissions = commissions := by rw [openedEq]
  have openedLedger : opened.ledger = db.ledger := by rw [openedEq]
  have saved : ∀ id,
      posted.accounts.lookup id =
        if order.affiliateId = id then some (row.accrue amount)
        else opened.accounts.lookup id := by
    intro id
    have rowKey : row.affiliateId = order.affiliateId := key_of_lookup rowFound
    have accruedKey : (row.accrue amount).affiliateId = order.affiliateId := rowKey
    rw [postedEq, updatedEq]
    simp only [lookup_save, accruedKey]
    split
    · rename_i same
      rw [← same, rowFound]
      rfl
    · rfl
  refine ⟨?_, ?_, ?_, ?_, ?_, ?_⟩
  · rw [postedEq, updatedEq, openedEq]
  · rw [postedEq, updatedEq]
    exact openedCommissions ▸ rows_create created
  · rw [postedEq]
    rw [updatedEq] at ledgerCreated
    exact openedLedger ▸ ledgerCreated
  · rw [saved, if_pos rfl]
    rfl
  · intro id stored found
    rw [saved] at found
    have openedRow : ∃ openedRow,
        opened.accounts.lookup id = some openedRow ∧ stored.userId = openedRow.userId := by
      split at found
      · rename_i same
        cases found
        exact ⟨row, same ▸ rowFound, rfl⟩
      · exact ⟨stored, found, rfl⟩
    obtain ⟨openedRow, openedFound, sameUser⟩ := openedRow
    rcases openedAccounts id with same | ⟨isNew, _, fresh⟩
    · left
      exact ⟨openedRow, same ▸ openedFound, sameUser⟩
    · right
      rw [openedFound] at fresh
      cases fresh
      exact ⟨isNew.symm, sameUser⟩
  · intro id present
    rw [saved]
    split
    · rfl
    · rcases openedAccounts id with same | ⟨_, _, fresh⟩
      · rw [same]
        exact present
      · rw [fresh]
        rfl

/-- An order accrues its commission or finishes its job. -/
theorem accrueCommissionTx_outcome {baseAmount commissionAmount : Int}
    (affiliateFound :
      context.affiliates.find? (fun row => row.id = order.affiliateId) = some affiliate)
    (affiliatePositive : 0 < order.affiliateId) (positive : 0 < commissionAmount)
    (source : job.source = (order.sourceType, order.tradeNo))
    (jobStored : db.jobs.lookup (order.sourceType, order.tradeNo) = some stored)
    (done :
      accrueCommissionTx context.settings context.faults context.now db job order
          affiliate baseAmount commissionAmount = .ok (later, outcome)) :
    JobOutcome context order db later := by
  unfold accrueCommissionTx at done
  split at done
  · cases done
    exact Or.inl (jobsOnly_saveJob db source)
  split at done
  · split at done
    · cases done
      exact Or.inl (jobsOnly_saveJob db source)
    · cases done
      exact Or.inl (jobsOnly_saveJob db source)
  rename_i unique
  obtain ⟨commissions, creation, done⟩ := bind_ok_iff.mp done
  obtain ⟨⟨opened, account⟩, opening, done⟩ := bind_ok_iff.mp done
  obtain ⟨updated, update, done⟩ := bind_ok_iff.mp done
  obtain ⟨posted, posting, done⟩ := bind_ok_iff.mp done
  cases done
  split at creation
  · rename_i table created
    cases creation
    obtain ⟨_, accountFound, _⟩ := getOrCreateAccountTx_cases opening
    have accountKey : account.affiliateId = order.affiliateId := key_of_lookup accountFound
    have moved := requireRow_eq_ok.mp update
    rw [accountKey] at moved
    obtain ⟨jobs, rows, ledger, isOpen, accounts, accountsKept⟩ :=
      accrual_of_writes created opening moved posting
    refine Or.inr
        ⟨⟨affiliate, _,
          { affiliateFound := affiliateFound
            affiliatePositive := affiliatePositive
            unique := by simpa using unique
            commissions := rows
            ledger := ledger
            opened := isOpen
            accounts := accounts
            accountsKept := accountsKept
            idPositive := by exact nextId_pos _
            positive := by exact positive
            affiliateId := by rfl
            affiliateUserId := by rfl
            inviteeUserId := by rfl
            sourceType := by rfl
            sourceOrderId := by rfl
            sourceTradeNo := by rfl }⟩,
          ?_, ?_⟩
    · intro other different
      rw [← jobs]
      apply JobsOnly.others (jobsOnly_saveJob posted _) other different
      exact source
    · have present : posted.jobs.lookup job.source = some stored := by
        rw [jobs, source]
        exact jobStored
      refine ⟨{ job with
            status := .succeeded
            lastError := ""
            lockedAt := 0
            succeededAt := context.now
            failedAt := 0 }, ?_, rfl⟩
      rw [← source]
      exact lookup_save_self present
  · cases creation

/-- A job writes itself, or also the commission of its order. -/
theorem runCommissionJobTx_outcome (source : job.source = (order.sourceType, order.tradeNo))
    (jobStored : db.jobs.lookup (order.sourceType, order.tradeNo) = some stored)
    (done :
      runCommissionJobTx context.settings context.affiliates context.faults
          context.now db job order = .ok (later, outcome)) :
    JobOutcome context order db later := by
  simp only [runCommissionJobTx] at done
  have adjustedSource :
      (if 0 < order.affiliateId ∧ job.affiliateId ≠ order.affiliateId then
        { job with affiliateId := order.affiliateId } else job).source =
          (order.sourceType, order.tradeNo) := by
    split
    · exact source
    · exact source
  generalize (if 0 < order.affiliateId ∧ job.affiliateId ≠ order.affiliateId then
    { job with affiliateId := order.affiliateId } else job) = adjusted at done adjustedSource
  by_cases snapshot : order.affiliateId ≤ 0 ∨ order.rate ≤ 0
  · rw [if_pos snapshot] at done
    cases done
    exact Or.inl (jobsOnly_saveJob db adjustedSource)
  rw [if_neg snapshot] at done
  have locking : JobsOnly (order.sourceType, order.tradeNo) db
      (db.saveJob
        { adjusted with
          status := .processing
          lockedAt := context.now
          attemptCount := adjusted.attemptCount + 1 }) :=
    jobsOnly_saveJob db adjustedSource
  generalize lockedJob : ({ adjusted with
      status := .processing
      lockedAt := context.now
      attemptCount := adjusted.attemptCount + 1 } : ReferralCommissionJob) = locked at done locking
  have lockedSource : locked.source = (order.sourceType, order.tradeNo) := by
    rw [← lockedJob]
    exact adjustedSource
  have saves : ∀ again : ReferralCommissionJob,
      again.source = (order.sourceType, order.tradeNo) →
        JobOutcome context order db ((db.saveJob locked).saveJob again) :=
    fun again sameSource => Or.inl (locking.trans (jobsOnly_saveJob _ sameSource))
  split at done
  · cases done
    exact saves _ lockedSource
  · rename_i baseAmount _
    by_cases zero : calculateCommissionAmount baseAmount order.rate ≤ 0
    · rw [if_pos zero] at done
      cases done
      exact saves _ lockedSource
    rw [if_neg zero] at done
    split at done
    · cases done
      exact saves _ lockedSource
    split at done
    · cases done
      exact saves _ lockedSource
    · rename_i affiliate affiliateFound
      split at done
      · cases done
        exact saves _ lockedSource
      · obtain ⟨lockedStored, present⟩ :=
          Option.isSome_iff_exists.mp (locking.kept (by rw [jobStored]; rfl))
        have accrual :=
          accrueCommissionTx_outcome affiliateFound (by omega) (not_le.mp zero)
            lockedSource present done
        exact accrual.of_jobsOnly locking

theorem processCommissionTx_of_complete
    (jobStored : db.jobs.lookup (order.sourceType, order.tradeNo) = some job)
    (succeeded : job.status = .succeeded) (complete : commissionAccrualCompleteTx db order = true)
    (done :
      processCommissionTx context.settings context.affiliates context.faults
          context.now db order = .ok (later, outcome)) :
    later = db := by
  unfold processCommissionTx at done
  split at done
  · cases done
    rfl
  · obtain ⟨opened, found, finding, _, _, _, known⟩ := findOrCreateJobTx_cases db order
    obtain ⟨rfl, rfl⟩ := known job jobStored
    rw [finding] at done
    simp only [succeeded, recheckSucceededCommission, complete, if_true] at done
    cases done
    rfl

/-- So does an order. -/
theorem processCommissionTx_outcome
    (done :
      processCommissionTx context.settings context.affiliates context.faults
          context.now db order = .ok (later, outcome)) :
    JobOutcome context order db later := by
  unfold processCommissionTx at done
  split at done
  · cases done
    exact Or.inl (JobsOnly.refl _ db)
  · obtain ⟨opened, job, finding, opens, jobStored, source, _⟩ := findOrCreateJobTx_cases db order
    rw [finding] at done
    simp only at done
    have saves : ∀ again : ReferralCommissionJob,
        again.source = (order.sourceType, order.tradeNo) →
          JobOutcome context order db (opened.saveJob again) :=
      fun again sameSource => Or.inl (opens.trans (jobsOnly_saveJob _ sameSource))
    split at done
    · unfold recheckSucceededCommission at done
      split at done
      · cases done
        exact Or.inl opens
      · cases done
        exact saves _ source
    · cases done
      exact saves _ source
    all_goals exact (runCommissionJobTx_outcome source jobStored done).of_jobsOnly opens

end Outcomes

end NewApi.Referral
