import NewApi.Lib.Transactions
import NewApi.Referral.Withdrawals

/-!
# What a referral operation can do

Every operation on the referral tables is a sequence of a few transitions, found
here once.  An invariant of the tables is a statement about each transition.
-/

namespace NewApi.Referral

open Relation Transactions ReflTransGen KeyedTable

/-- One change of the referral tables.  `Amounts` restricts the amounts of the
commissions that settle. -/
inductive Transition (Amounts : Int → Prop) (db : ReferralDatabase) :
    ReferralDatabase → Prop where
  | jobs (jobs : KeyedTable ReferralCommissionJob.source) :
      Transition Amounts db { db with jobs := jobs }
  | opened
      {later : ReferralDatabase} {affiliateId userId : Int}
      {account : ReferralCommissionAccount}
      (opening : getOrCreateAccountTx db affiliateId userId = .ok (later, account)) :
      Transition Amounts db later
  | accrued
      {opened updated later : ReferralDatabase}
      {commission : ReferralCommission}
      {commissions : KeyedTable ReferralCommission.id}
      {account : ReferralCommissionAccount} {userId : Int}
      (created : db.commissions.create commission = some commissions)
      (newId : commission.id = nextId (db.commissions.rows.map ReferralCommission.id))
      (unique : db.commissionOf commission.sourceType commission.sourceTradeNo = none)
      (pending : commission.status = .pending)
      (positive : 0 < commission.commissionAmount)
      (opening :
        getOrCreateAccountTx { db with commissions := commissions }
          commission.affiliateId userId = .ok (opened, account))
      (moved :
        updateAccount opened commission.affiliateId (fun _ => true)
          (·.accrue commission.commissionAmount) = some updated)
      (posting : createLedgerTx updated (accrueLine commission userId) = .ok later) :
      Transition Amounts db later
  | settled
      {updated later : ReferralDatabase} {row : ReferralCommission}
      {userId : Int} (now : Int)
      (found : db.commissions.lookup row.id = some row)
      (pending : row.status = .pending) (allowed : Amounts row.commissionAmount)
      (moved :
        updateAccount
          { db with
            commissions :=
              db.commissions.save { row with status := .available, availableAt := now } }
          row.affiliateId
          (fun account => decide (row.commissionAmount ≤ account.pendingAmount))
          (·.settle row.commissionAmount) = some updated)
      (posting : createLedgerTx updated (settleLine row userId) = .ok later) :
      Transition Amounts db later
  | booked
      {later : ReferralDatabase} {affiliate : ReferralAffiliate}
      {withdrawal : ReferralWithdrawal} (now : Int)
      (newId : withdrawal.id = nextId (db.withdrawals.rows.map ReferralWithdrawal.id))
      (owner : withdrawal.affiliateId = affiliate.id)
      (pending : withdrawal.status = .pending)
      (positive : 0 < withdrawal.amount)
      (booking : bookWithdrawalTx now db affiliate withdrawal = .ok later) :
      Transition Amounts db later
  | approved
      {later : ReferralDatabase} {withdrawal : ReferralWithdrawal} {review : WithdrawalReview}
      {line : ReferralCommissionLedger}
      (found : db.withdrawals.lookup withdrawal.id = some withdrawal)
      (pending : withdrawal.status = .pending)
      (lineAffiliate : line.affiliateId = withdrawal.affiliateId)
      (lineDelta : line.delta = fun _ => 0)
      (lineReference : ∀ id, line.externalRefId ≠ .settle id)
      (posting :
        createLedgerTx
          (db.saveWithdrawal { withdrawal with status := .approved, review := review }) line =
            .ok later) :
      Transition Amounts db later
  | released
      {later : ReferralDatabase} {withdrawal : ReferralWithdrawal} {review : WithdrawalReview}
      {status : WithdrawalStatus} {type : LedgerType} {reference : ExternalRef}
      {remark : String} (now : Int)
      (found : db.withdrawals.lookup withdrawal.id = some withdrawal)
      (isOpen : withdrawal.status = .pending ∨ withdrawal.status = .approved)
      (closed : status = .canceled ∨ status = .rejected)
      (lineReference : ∀ id, reference ≠ .settle id)
      (release :
        releaseFrozenTx now
          (db.saveWithdrawal { withdrawal with status := status, review := review }) withdrawal
          type reference remark = .ok later) :
      Transition Amounts db later
  | paid
      {later : ReferralDatabase} {withdrawal : ReferralWithdrawal} {review : WithdrawalReview}
      {remark : String} (now : Int)
      (found : db.withdrawals.lookup withdrawal.id = some withdrawal)
      (approved : withdrawal.status = .approved)
      (payment :
        payFrozenTx now
          (db.saveWithdrawal { withdrawal with status := .paid, review := review })
          withdrawal remark = .ok later) :
      Transition Amounts db later
  | adjusted
      {posted later : ReferralDatabase} {affiliateId delta : Int}
      {line : ReferralCommissionLedger}
      (lineAffiliate : line.affiliateId = affiliateId)
      (lineDelta : line.delta = fun pot => if pot = .available then delta else 0)
      (lineReference : ∀ id, line.externalRefId ≠ .settle id)
      (posting : createLedgerTx db line = .ok posted)
      (moved :
        updateAccount posted affiliateId
          (fun account => decide (0 ≤ delta ∨ -delta ≤ account.availableAmount))
          (·.adjust delta) = some later) :
      Transition Amounts db later

def Changes (Amounts : Int → Prop) (db later : ReferralDatabase) : Prop :=
  ReflTransGen (Transition Amounts) db later

variable {Amounts : Int → Prop} {db : ReferralDatabase}

variable {holds : ReferralDatabase → Prop}

theorem Changes.invariant {later : ReferralDatabase} (changes : Changes Amounts db later)
    (preserved : ∀ first second, Transition Amounts first second → holds first → holds second)
    (before : holds db) :
    holds later := by
  induction changes with
  | refl => exact before
  | tail _ last ih => exact preserved _ _ last ih

section Statements

variable {db later : ReferralDatabase} {affiliateId userId : Int}
  {account : ReferralCommissionAccount}

/-- The account of the affiliate, or a new empty one. -/
theorem getOrCreateAccountTx_cases
    (done : getOrCreateAccountTx db affiliateId userId = .ok (later, account)) :
    later = { db with accounts := later.accounts } ∧
      later.accounts.lookup affiliateId = some account ∧
        ∀ other, later.accounts.lookup other = db.accounts.lookup other ∨
          affiliateId = other ∧ db.accounts.lookup other = none ∧
            later.accounts.lookup other = some { affiliateId := other, userId := userId } := by
  unfold getOrCreateAccountTx at done
  cases found : db.accounts.lookup affiliateId with
  | some stored =>
    simp only [found, Except.ok.injEq, Prod.mk.injEq] at done
    obtain ⟨rfl, rfl⟩ := done
    exact ⟨rfl, found, fun _ => Or.inl rfl⟩
  | none =>
    simp only [found] at done
    cases owned : db.accounts.rows.find? (fun row => row.userId = userId) with
    | some other =>
      simp only [owned] at done
      by_cases different : other.affiliateId ≠ affiliateId
      · rw [if_pos different] at done
        cases done
      · have present : db.accounts.lookup affiliateId = some other :=
          lookup_eq_some_iff.mpr ⟨List.mem_of_find?_eq_some owned, not_not.mp different⟩
        rw [found] at present
        cases present
    | none =>
      simp only [owned, Except.ok.injEq, Prod.mk.injEq] at done
      obtain ⟨rfl, rfl⟩ := done
      refine ⟨rfl, ?_, ?_⟩
      · rw [lookup_insertIgnore, found]
        simp
      · intro other
        rw [lookup_insertIgnore]
        by_cases same : affiliateId = other
        · right
          rw [← same, found]
          exact ⟨rfl, rfl, by simp⟩
        · left
          simp [same]

theorem requireRow_eq_ok {α : Type} {message : String} {found : Option α} {value : α} :
    requireRow message found = .ok value ↔ found = some value := by
  cases found with
  | none | some stored => simp [requireRow]

theorem updateAccount_cases {guard : ReferralCommissionAccount → Bool}
    {update : ReferralCommissionAccount → ReferralCommissionAccount}
    (done : updateAccount db affiliateId guard update = some later) :
    ∃ row, db.accounts.lookup affiliateId = some row ∧ guard row = true ∧
      later = { db with accounts := db.accounts.save (update row) } := by
  unfold updateAccount at done
  cases found : db.accounts.lookup affiliateId with
  | none => simp [found] at done
  | some row =>
    simp only [found] at done
    by_cases allowed : guard row = true
    · rw [if_pos allowed] at done
      cases done
      exact ⟨row, rfl, allowed, rfl⟩
    · rw [if_neg allowed] at done
      cases done

theorem createLedgerTx_cases {line : ReferralCommissionLedger}
    (done : createLedgerTx db line = .ok later) :
    ∃ ledger, db.ledger.create line = some ledger ∧ later = { db with ledger := ledger } := by
  unfold createLedgerTx at done
  cases created : db.ledger.create line with
  | none => simp [created] at done
  | some ledger =>
    simp only [created, Except.ok.injEq] at done
    exact ⟨ledger, rfl, done.symm⟩

end Statements

section Accrual

variable {Amounts : Int → Prop} {db later : ReferralDatabase} {now : Int}
  {settings : ReferralSettings} {affiliates : List ReferralAffiliate}
  {faults : CommissionFaults} {order : CommissionOrder}
  {job : ReferralCommissionJob} {outcome : OrderReferral}

theorem changes_saveJob (db : ReferralDatabase) (job : ReferralCommissionJob) :
    Changes Amounts db (db.saveJob job) :=
  single (.jobs _)

theorem changes_findOrCreateJobTx (db : ReferralDatabase) (order : CommissionOrder) :
    Changes Amounts db (findOrCreateJobTx db order).1 := by
  unfold findOrCreateJobTx
  split
  · exact refl
  · exact single (.jobs _)

theorem accrueCommissionTx_changes
    {affiliate : ReferralAffiliate} {baseAmount commissionAmount : Int}
    (positive : 0 < commissionAmount)
    (done :
      accrueCommissionTx settings faults now db job order affiliate baseAmount
          commissionAmount = .ok (later, outcome)) :
    Changes Amounts db later := by
  unfold accrueCommissionTx at done
  split at done
  · cases done
    exact changes_saveJob db _
  · split at done
    · split at done
      · cases done
        exact changes_saveJob db _
      · cases done
        exact changes_saveJob db _
    · rename_i unique
      obtain ⟨commissions, creation, done⟩ := bind_ok_iff.mp done
      obtain ⟨⟨opened, account⟩, opening, done⟩ := bind_ok_iff.mp done
      obtain ⟨updated, update, done⟩ := bind_ok_iff.mp done
      obtain ⟨posted, posting, done⟩ := bind_ok_iff.mp done
      cases done
      split at creation
      · rename_i table created
        cases creation
        obtain ⟨_, accountFound, _⟩ := getOrCreateAccountTx_cases opening
        have accountKey : account.affiliateId = order.affiliateId := key_of_lookup accountFound
        have moved := requireRow_eq_ok.mp update
        rw [accountKey] at moved
        have accrual : Transition Amounts db posted := by
          refine .accrued created rfl ?_ rfl positive opening moved posting
          simpa using unique
        exact (single accrual).tail (.jobs _)
      · cases creation

theorem runCommissionJobTx_changes
    (done : runCommissionJobTx settings affiliates faults now db job order = .ok (later, outcome)) :
    Changes Amounts db later := by
  simp only [runCommissionJobTx] at done
  split at done
  · cases done
    exact changes_saveJob db _
  · have saved : ∀ first second : ReferralCommissionJob,
        Changes Amounts db ((db.saveJob first).saveJob second) := fun _ _ =>
      (changes_saveJob db _).trans (changes_saveJob _ _)
    split at done
    · cases done
      exact saved _ _
    · rename_i baseAmount _
      by_cases zero : calculateCommissionAmount baseAmount order.rate ≤ 0
      · rw [if_pos zero] at done
        cases done
        exact saved _ _
      · rw [if_neg zero] at done
        split at done
        · cases done
          exact saved _ _
        · split at done
          · cases done
            exact saved _ _
          · split at done
            · cases done
              exact saved _ _
            · exact (changes_saveJob db _).trans (accrueCommissionTx_changes (not_le.mp zero) done)

theorem processCommissionTx_changes
    (done : processCommissionTx settings affiliates faults now db order = .ok (later, outcome)) :
    Changes Amounts db later := by
  unfold processCommissionTx at done
  split at done
  · cases done
    exact refl
  · have found := (changes_findOrCreateJobTx db order : Changes Amounts _ _)
    generalize findOrCreateJobTx db order = opened at found done
    obtain ⟨opened, job⟩ := opened
    simp only at found done
    split at done
    · unfold recheckSucceededCommission at done
      split at done
      · cases done
        exact found
      · cases done
        exact found.trans (changes_saveJob opened _)
    · cases done
      exact found.trans (changes_saveJob opened _)
    all_goals exact found.trans (runCommissionJobTx_changes done)

end Accrual

/-! ## Settlement -/

section Settlement

variable {Amounts : Int → Prop} {db later : ReferralDatabase} {now : Int}
  {affiliates : List ReferralAffiliate}

/-- The rows behind a batch of commissions still have the amounts and the
affiliates with which they were read. -/
def StillOwed (batch : List ReferralCommission) (db : ReferralDatabase) : Prop :=
  ∀ commission ∈ batch, ∀ row,
    db.commissions.lookup commission.id = some row →
      row.commissionAmount = commission.commissionAmount ∧ row.affiliateId = commission.affiliateId

theorem stillOwed_due (db : ReferralDatabase) (now : Int) (limit : Nat) :
    StillOwed ((db.dueCommissions now).take limit) db := by
  intro commission member row found
  have due : commission ∈ db.dueCommissions now := List.mem_of_mem_take member
  rw [ReferralDatabase.dueCommissions, List.mem_insertionSort] at due
  have stored : commission ∈ db.commissions.rows := (List.mem_filter.mp due).1
  have same : db.commissions.lookup commission.id = some commission :=
    lookup_eq_some_iff.mpr ⟨stored, rfl⟩
  rw [found] at same
  cases same
  exact ⟨rfl, rfl⟩

variable {commission : ReferralCommission}

variable {affiliate : ReferralAffiliate} {counts : ReferralSettlementBatch}

/-- Only a pending commission moves its amount. -/
theorem settleCommissionTx_cases {settled : Bool}
    (done : settleCommissionTx now db affiliate commission = .ok (later, settled)) :
    ∃ opened account,
      getOrCreateAccountTx db affiliate.id affiliate.userId = .ok (opened, account) ∧
        (settled = false ∧ later = opened ∧
            (∀ row, db.commissions.lookup commission.id = some row → row.status ≠ .pending) ∨
          settled = true ∧ ∃ row updated, opened.commissions.lookup commission.id = some row ∧
            row.status = .pending ∧
            updateAccount
                { opened with
                  commissions :=
                    opened.commissions.save { row with status := .available, availableAt := now } }
                affiliate.id
                (fun account => decide (commission.commissionAmount ≤ account.pendingAmount))
                (·.settle commission.commissionAmount) = some updated ∧
            createLedgerTx updated (settleLine commission affiliate.userId) = .ok later) := by
  obtain ⟨⟨opened, account⟩, opening, done⟩ := bind_ok_iff.mp done
  refine ⟨opened, account, opening, ?_⟩
  obtain ⟨openedEq, accountFound, _⟩ := getOrCreateAccountTx_cases opening
  have accountKey : account.affiliateId = affiliate.id := key_of_lookup accountFound
  have openedCommissions : opened.commissions = db.commissions := by rw [openedEq]
  cases found : opened.commissions.lookup commission.id with
  | none =>
    simp only [found] at done
    cases done
    left
    refine ⟨rfl, rfl, ?_⟩
    intro row stored
    rw [← openedCommissions, found] at stored
    cases stored
  | some row =>
    simp only [found] at done
    by_cases pending : row.status = .pending
    · rw [if_neg (not_not.mpr pending)] at done
      obtain ⟨updated, update, done⟩ := bind_ok_iff.mp done
      obtain ⟨posted, posting, done⟩ := bind_ok_iff.mp done
      cases done
      rw [accountKey] at update
      right
      exact ⟨rfl, row, updated, rfl, pending, requireRow_eq_ok.mp update, posting⟩
    · rw [if_pos pending] at done
      cases done
      left
      refine ⟨rfl, rfl, ?_⟩
      intro other stored
      rw [← openedCommissions, found] at stored
      cases stored
      exact pending

theorem settleLine_congr {first second : ReferralCommission} (sameId : first.id = second.id)
    (sameAffiliate : first.affiliateId = second.affiliateId)
    (sameAmount : first.commissionAmount = second.commissionAmount) (userId : Int) :
    settleLine first userId = settleLine second userId := by
  simp only [settleLine, sameId, sameAffiliate, sameAmount]

variable {batch : List ReferralCommission}

/-- A settlement leaves the rest of its batch owed. -/
theorem settleCommissionTx_changes {settled : Bool} (owed : StillOwed batch db)
    (member : commission ∈ batch) (owner : affiliate.id = commission.affiliateId)
    (allowed : Amounts commission.commissionAmount)
    (done : settleCommissionTx now db affiliate commission = .ok (later, settled)) :
    Changes Amounts db later ∧ StillOwed batch later := by
  obtain ⟨opened, account, opening, outcome⟩ := settleCommissionTx_cases done
  obtain ⟨openedEq, _, _⟩ := getOrCreateAccountTx_cases opening
  have openedCommissions : opened.commissions = db.commissions := by rw [openedEq]
  have opens : Changes Amounts db opened := single (.opened opening)
  have openedOwed : StillOwed batch opened := by
    intro other listed row found
    rw [openedCommissions] at found
    exact owed other listed row found
  rcases outcome with ⟨_, rfl, _⟩ | ⟨_, row, updated, found, pending, moved, posting⟩
  · exact ⟨opens, openedOwed⟩
  · have rowKey : row.id = commission.id := key_of_lookup found
    obtain ⟨amount, affiliateId⟩ := openedOwed commission member row found
    have settles : Transition Amounts opened later := by
      rw [owner, ← affiliateId, ← amount] at moved
      rw [settleLine_congr rowKey.symm affiliateId.symm amount.symm] at posting
      exact .settled now (rowKey ▸ found) pending (amount ▸ allowed) moved posting
    refine ⟨opens.tail settles, ?_⟩
    obtain ⟨_, _, _, updatedEq⟩ := updateAccount_cases moved
    obtain ⟨_, _, laterEq⟩ := createLedgerTx_cases posting
    intro other listed after afterFound
    rw [laterEq, updatedEq] at afterFound
    simp only [lookup_save] at afterFound
    by_cases same : row.id = other.id
    · rw [if_pos same, ← same, rowKey, found] at afterFound
      cases afterFound
      exact openedOwed other listed row (by rw [← same, rowKey, found])
    · rw [if_neg same] at afterFound
      exact openedOwed other listed after afterFound

/-- Every commission of a batch whose affiliate settles has an allowed
amount. -/
def SettlesOnly (Amounts : Int → Prop) (affiliates : List ReferralAffiliate)
    (batch : List ReferralCommission) : Prop :=
  ∀ commission ∈ batch, ∀ affiliate,
    affiliates.find? (fun row => row.id = commission.affiliateId) =
        some affiliate →
      affiliate.settles = true → Amounts commission.commissionAmount

theorem runSettlementRow_changes {lookupFails : Int → Bool}
    {counted : ReferralSettlementBatch} (allowed : SettlesOnly Amounts affiliates batch)
    (owed : StillOwed batch db) (member : commission ∈ batch)
    (done :
      runSettlementRow affiliates lookupFails now (db, counts) commission = .ok (later, counted)) :
    Changes Amounts db later ∧ StillOwed batch later := by
  simp only [runSettlementRow] at done
  split at done
  · cases done
    exact ⟨refl, owed⟩
  · rename_i affiliate looked
    split at looked
    · cases looked
    by_cases settles : affiliate.settles = true
    · simp only [settles, Bool.not_true, Bool.false_eq_true, if_false] at done
      obtain ⟨⟨settled, flag⟩, settlement, done⟩ := bind_ok_iff.mp done
      cases done
      have owner : affiliate.id = commission.affiliateId := by simpa using List.find?_some looked
      exact settleCommissionTx_changes owed member owner
          (allowed commission member affiliate looked settles) settlement
    · simp only [settles, Bool.not_false, if_true] at done
      cases done
      exact ⟨refl, owed⟩

/-- What the rows of a batch change adds up, whatever is counted beside. -/
theorem settleEach_changes {γ : Type} {counts counted : γ}
    {step : ReferralDatabase × γ → ReferralCommission → Except ReferralError (ReferralDatabase × γ)}
    (each : ∀ {state next commission counts counted}, StillOwed batch state → commission ∈ batch →
      step (state, counts) commission = .ok (next, counted) →
        Changes Amounts state next ∧ StillOwed batch next)
    (owed : StillOwed batch db) (done : batch.foldlM step (db, counts) = .ok (later, counted)) :
    Changes Amounts db later := by
  have kept :=
    foldlM_invariant
      (fun progress : ReferralDatabase × γ =>
        Changes Amounts db progress.1 ∧ StillOwed batch progress.1)
      (by
        rintro ⟨state, _⟩ commission ⟨next, _⟩ member step ⟨changes, owed⟩
        obtain ⟨further, stillOwed⟩ := each owed member step
        exact ⟨changes.trans further, stillOwed⟩)
      done ⟨refl, owed⟩
  exact kept.1

theorem runSettlementBatch_changes {lookupFails : Int → Bool}
    (allowed : SettlesOnly Amounts affiliates ((db.dueCommissions now).take settlementBatchLimit))
    (done : runSettlementBatch affiliates lookupFails now db = .ok (later, counts)) :
    Changes Amounts db later :=
  settleEach_changes (runSettlementRow_changes allowed) (stillOwed_due db now settlementBatchLimit)
    done

theorem runSettlementRowInline_changes {count counted : Nat}
    (allowed : SettlesOnly Amounts affiliates batch)
    (owed : StillOwed batch db) (member : commission ∈ batch)
    (done : runSettlementRowInline affiliates now (db, count) commission = .ok (later, counted)) :
    Changes Amounts db later ∧ StillOwed batch later := by
  simp only [runSettlementRowInline] at done
  split at done
  · cases done
  rename_i affiliate looked
  by_cases settles : affiliate.settles = true
  · simp only [settles, Bool.not_true, Bool.false_eq_true, if_false] at done
    obtain ⟨⟨settled, flag⟩, settlement, done⟩ := bind_ok_iff.mp done
    cases done
    have owner : affiliate.id = commission.affiliateId := by simpa using List.find?_some looked
    exact settleCommissionTx_changes owed member owner
        (allowed commission member affiliate looked settles) settlement
  · simp only [settles, Bool.not_false, if_true] at done
    cases done
    exact ⟨refl, owed⟩

theorem runSettlementBatchInline_changes {count : Nat}
    (allowed : SettlesOnly Amounts affiliates ((db.dueCommissions now).take settlementBatchLimit))
    (done : runSettlementBatchInline affiliates now db = .ok (later, count)) :
    Changes Amounts db later :=
  settleEach_changes (runSettlementRowInline_changes allowed)
    (stillOwed_due db now settlementBatchLimit) done

end Settlement

section Withdrawing

variable {Amounts : Int → Prop} {db later : ReferralDatabase} {now : Int}

theorem updateAccount_withdrawals {affiliateId : Int} {guard : ReferralCommissionAccount → Bool}
    {update : ReferralCommissionAccount → ReferralCommissionAccount}
    {updated : ReferralDatabase} (withdrawals : KeyedTable ReferralWithdrawal.id)
    (moved : updateAccount db affiliateId guard update = some updated) :
    updateAccount { db with withdrawals := withdrawals } affiliateId guard update =
      some { updated with withdrawals := withdrawals } := by
  unfold updateAccount at moved ⊢
  split at moved
  · cases moved
  split at moved
  · cases moved
    simp [*]
  · cases moved

variable {affiliate : ReferralAffiliate} {withdrawal : ReferralWithdrawal}
  {settings : ReferralSettings} {input : WithdrawalCreateInput}
  {affiliates : List ReferralAffiliate}

/-- The statements of a booking, the withdrawals read from the state before. -/
theorem bookWithdrawalTx_cases (done : bookWithdrawalTx now db affiliate withdrawal = .ok later) :
    ∃ updated withdrawals itemed,
      updateAccount db affiliate.id
          (fun account => decide (withdrawal.amount ≤ account.availableAmount))
          (·.freeze withdrawal.amount) = some updated ∧
        db.withdrawals.create withdrawal = some withdrawals ∧
        allocateWithdrawalItemsTx now { updated with withdrawals := withdrawals } affiliate.id
            withdrawal.id withdrawal.amount = .ok itemed ∧
        createLedgerTx itemed (freezeLine withdrawal affiliate) = .ok later := by
  obtain ⟨updated, update, done⟩ := bind_ok_iff.mp done
  obtain ⟨withdrawals, creation, done⟩ := bind_ok_iff.mp done
  obtain ⟨itemed, allocation, posting⟩ := bind_ok_iff.mp done
  have moved := requireRow_eq_ok.mp update
  obtain ⟨_, _, _, updatedEq⟩ := updateAccount_cases moved
  have updatedWithdrawals : updated.withdrawals = db.withdrawals := by rw [updatedEq]
  refine ⟨updated, withdrawals, itemed, moved, ?_, allocation, posting⟩
  rw [updatedWithdrawals] at creation
  split at creation
  · cases creation
  split at creation
  · cases creation
    assumption
  · cases creation

/-- The new withdrawal is pending under the key of its request. -/
theorem newWithdrawal_cases {qrImagePath : String} {id fee : Int}
    (created : newWithdrawal settings now affiliate input qrImagePath id fee = .ok withdrawal) :
    withdrawal.id = id ∧ withdrawal.affiliateId = affiliate.id ∧
      withdrawal.status = .pending ∧ withdrawal.amount = input.amount ∧
      withdrawal.userId = input.userId ∧
      withdrawal.idempotencyKey = GoStrings.trimSpace input.idempotencyKey := by
  simp only [newWithdrawal] at created
  split at created
  · cases created
  split at created
  · split at created
    · cases created
    cases created
    exact ⟨rfl, rfl, rfl, rfl, rfl, rfl⟩
  split at created
  · split at created
    · cases created
    cases created
    exact ⟨rfl, rfl, rfl, rfl, rfl, rfl⟩
  · cases created

variable {asset : String → Except ReferralError String}

/-- An accepted request repeats one that its key has made already, or books a
new withdrawal. -/
theorem createWithdrawal_cases {enabled : Bool}
    (done : createWithdrawal settings affiliates enabled asset now db input = .ok later) :
    let existing := db.withdrawals.rows.find? fun row =>
      row.userId = input.userId && row.idempotencyKey = GoStrings.trimSpace input.idempotencyKey
    (later = db ∧ ∃ row, existing = some row) ∨
      existing = none ∧ ∃ affiliate withdrawal,
        (withdrawal.id = nextId (db.withdrawals.rows.map ReferralWithdrawal.id) ∧
          withdrawal.affiliateId = affiliate.id ∧ withdrawal.status = .pending ∧
          0 < withdrawal.amount ∧ withdrawal.userId = input.userId ∧
          withdrawal.idempotencyKey = GoStrings.trimSpace input.idempotencyKey) ∧
        bookWithdrawalTx now db affiliate withdrawal = .ok later := by
  intro existing
  simp only [createWithdrawal, guard_ok_iff] at done
  obtain ⟨_, _, positive, _, _, done⟩ := done
  split at done
  · cases done
  simp only [guard_ok_iff] at done
  obtain ⟨_, _, done⟩ := done
  obtain ⟨qrImagePath, _, done⟩ := bind_ok_iff.mp done
  cases found : existing with
  | some row =>
    simp only [existing] at found
    simp only [found] at done
    split at done
    · cases done
      exact Or.inl ⟨rfl, row, rfl⟩
    · cases done
  | none =>
    simp only [existing] at found
    simp only [found, guard_ok_iff] at done
    obtain ⟨_, _, done⟩ := done
    obtain ⟨withdrawal, created, booking⟩ := bind_ok_iff.mp done
    obtain ⟨newId, owner, pending, amount, user, key⟩ := newWithdrawal_cases created
    exact Or.inr ⟨rfl, _, withdrawal,
      ⟨newId, owner, pending, amount ▸ not_le.mp positive, user, key⟩, booking⟩

theorem createWithdrawal_changes {enabled : Bool}
    (done : createWithdrawal settings affiliates enabled asset now db input = .ok later) :
    Changes Amounts db later := by
  rcases createWithdrawal_cases done with
    ⟨rfl, _⟩ | ⟨_, _, _, ⟨newId, owner, pending, positive, _⟩, booking⟩
  · exact refl
  · exact single (.booked now newId owner pending positive booking)

variable {withdrawalId : Int}

theorem cancelWithdrawal_changes {userId : Int}
    (done : cancelWithdrawal now db withdrawalId userId = .ok later) :
    Changes Amounts db later := by
  unfold cancelWithdrawal at done
  split at done
  · cases done
  split at done
  · cases done
  rename_i withdrawal found
  split at done
  · cases done
  split at done
  · cases done
  rename_i pending
  split at done
  · cases done
  split at done
  · cases done
  have key : withdrawal.id = withdrawalId := key_of_lookup found
  refine single (.released now (key ▸ found) (Or.inl (not_not.mp pending)) (Or.inl rfl) ?_ done)
  intro id same
  cases same

theorem approveWithdrawal_changes {deadline : Int} {review : WithdrawalReviewInput}
    (done : approveWithdrawal now deadline db review = .ok later) :
    Changes Amounts db later := by
  unfold approveWithdrawal at done
  split at done
  · cases done
  rename_i withdrawal found
  split at done
  · cases done
  rename_i pending
  have key : withdrawal.id = review.withdrawalId := key_of_lookup found
  refine single (.approved (key ▸ found) (not_not.mp pending) rfl ?_ ?_ done)
  · funext pot
    cases pot <;> rfl
  · nofun

theorem rejectWithdrawal_changes {review : WithdrawalReviewInput}
    {rejectProofURL rejectReason : String}
    (done : rejectWithdrawal now asset db review rejectProofURL rejectReason = .ok later) :
    Changes Amounts db later := by
  unfold rejectWithdrawal at done
  split at done
  · cases done
  rename_i withdrawal found
  split at done
  · cases done
  rename_i rejectable
  split at done
  · cases done
  obtain ⟨_, _, done⟩ := bind_ok_iff.mp done
  have key : withdrawal.id = review.withdrawalId := key_of_lookup found
  have isOpen : withdrawal.status = .pending ∨ withdrawal.status = .approved := by
    by_cases pending : withdrawal.status = .pending
    · exact Or.inl pending
    · right
      by_contra other
      exact rejectable ⟨pending, other⟩
  refine single (.released now (key ▸ found) isOpen (Or.inr rfl) ?_ done)
  intro id same
  cases same

theorem markWithdrawalPaid_changes {review : WithdrawalReviewInput}
    {paymentProofURL paymentTxnNo : String}
    (done : markWithdrawalPaid now asset db review paymentProofURL paymentTxnNo = .ok later) :
    Changes Amounts db later := by
  unfold markWithdrawalPaid at done
  split at done
  · cases done
  rename_i withdrawal found
  split at done
  · cases done
  rename_i approved
  obtain ⟨_, _, done⟩ := bind_ok_iff.mp done
  split at done
  · cases done
  have key : withdrawal.id = review.withdrawalId := key_of_lookup found
  exact single (.paid now (key ▸ found) (not_not.mp approved) done)

/-- An adjustment is one transition. -/
theorem adjustAffiliateCommission_changes {input : AdjustInput}
    (done : adjustAffiliateCommission affiliates db input = .ok later) :
    Changes Amounts db later := by
  unfold adjustAffiliateCommission at done
  split at done
  · cases done
  split at done
  · cases done
  split at done
  · cases done
  split at done
  · cases done
  rename_i affiliate _
  obtain ⟨⟨opened, account⟩, opening, done⟩ := bind_ok_iff.mp done
  have opens : Changes Amounts db opened := single (.opened opening)
  obtain ⟨_, accountFound, _⟩ := getOrCreateAccountTx_cases opening
  have accountKey : account.affiliateId = affiliate.id := key_of_lookup accountFound
  simp only at done
  split at done
  · split at done
    · cases done
      exact opens
    · cases done
  obtain ⟨posted, posting, done⟩ := bind_ok_iff.mp done
  have moved := requireRow_eq_ok.mp done
  rw [accountKey] at moved
  refine opens.tail (.adjusted ?_ ?_ ?_ posting moved)
  · rfl
  · funext pot
    cases pot <;> rfl
  · rintro _ ⟨⟩

end Withdrawing

/-- A call of one of the referral operations with everything it reads besides
the tables of the account: the affiliates as other operations left them, the
settings and the clock. -/
inductive ReferralOperation where
  | processCommission
      (settings : ReferralSettings) (affiliates : List ReferralAffiliate)
      (faults : CommissionFaults) (now : Int) (order : CommissionOrder)
  | runSettlementBatch (affiliates : List ReferralAffiliate) (lookupFails : Int → Bool) (now : Int)
  | runSettlementBatchInline (affiliates : List ReferralAffiliate) (now : Int)
  | createWithdrawal
      (settings : ReferralSettings) (affiliates : List ReferralAffiliate)
      (enabled : Bool) (asset : String → Except ReferralError String)
      (now : Int) (input : WithdrawalCreateInput)
  | cancelWithdrawal (now withdrawalId userId : Int)
  | approveWithdrawal (now deadline : Int) (input : WithdrawalReviewInput)
  | rejectWithdrawal
      (now : Int) (asset : String → Except ReferralError String)
      (input : WithdrawalReviewInput) (rejectProofURL rejectReason : String)
  | markWithdrawalPaid
      (now : Int) (asset : String → Except ReferralError String)
      (input : WithdrawalReviewInput) (paymentProofURL paymentTxnNo : String)
  | adjustAffiliateCommission (affiliates : List ReferralAffiliate) (input : AdjustInput)

def ReferralOperation.run (db : ReferralDatabase) :
    ReferralOperation → Except ReferralError ReferralDatabase
  | .processCommission settings affiliates faults now order =>
    (processCommissionTx settings affiliates faults now db order).map Prod.fst
  | .runSettlementBatch affiliates lookupFails now =>
    (Referral.runSettlementBatch affiliates lookupFails now db).map Prod.fst
  | .runSettlementBatchInline affiliates now =>
    (Referral.runSettlementBatchInline affiliates now db).map Prod.fst
  | .createWithdrawal settings affiliates enabled asset now input =>
    Referral.createWithdrawal settings affiliates enabled asset now db input
  | .cancelWithdrawal now withdrawalId userId =>
    Referral.cancelWithdrawal now db withdrawalId userId
  | .approveWithdrawal now deadline input =>
    Referral.approveWithdrawal now deadline db input
  | .rejectWithdrawal now asset input rejectProofURL rejectReason =>
    Referral.rejectWithdrawal now asset db input rejectProofURL rejectReason
  | .markWithdrawalPaid now asset input paymentProofURL paymentTxnNo =>
    Referral.markWithdrawalPaid now asset db input paymentProofURL paymentTxnNo
  | .adjustAffiliateCommission affiliates input =>
    Referral.adjustAffiliateCommission affiliates db input

def ReferralOperation.SettlesOnly
    (Amounts : Int → Prop) (db : ReferralDatabase) : ReferralOperation → Prop
  | .runSettlementBatch affiliates _ now
  | .runSettlementBatchInline affiliates now =>
    Referral.SettlesOnly Amounts affiliates ((db.dueCommissions now).take settlementBatchLimit)
  | _ => True

theorem ReferralOperation.settlesOnly_true (operation : ReferralOperation) (db : ReferralDatabase) :
    operation.SettlesOnly (fun _ => True) db := by
  unfold ReferralOperation.SettlesOnly
  split
  · exact fun _ _ _ _ _ => trivial
  · exact fun _ _ _ _ _ => trivial
  · trivial

theorem ReferralOperation.changes {later : ReferralDatabase}
    {operation : ReferralOperation} (allowed : operation.SettlesOnly Amounts db)
    (done : operation.run db = .ok later) :
    Changes Amounts db later := by
  cases operation with
  | processCommission settings affiliates faults now order =>
    obtain ⟨⟨_, outcome⟩, ran, rfl⟩ := map_eq_ok_iff.mp done
    exact processCommissionTx_changes ran
  | runSettlementBatch affiliates lookupFails now =>
    obtain ⟨⟨_, counts⟩, ran, rfl⟩ := map_eq_ok_iff.mp done
    exact runSettlementBatch_changes allowed ran
  | runSettlementBatchInline affiliates now =>
    obtain ⟨⟨_, count⟩, ran, rfl⟩ := map_eq_ok_iff.mp done
    exact runSettlementBatchInline_changes allowed ran
  | createWithdrawal settings affiliates enabled asset now input =>
    exact createWithdrawal_changes done
  | cancelWithdrawal now withdrawalId userId => exact cancelWithdrawal_changes done
  | approveWithdrawal now deadline input => exact approveWithdrawal_changes done
  | rejectWithdrawal now asset input rejectProofURL rejectReason =>
    exact rejectWithdrawal_changes done
  | markWithdrawalPaid now asset input paymentProofURL paymentTxnNo =>
    exact markWithdrawalPaid_changes done
  | adjustAffiliateCommission affiliates input => exact adjustAffiliateCommission_changes done

/-- An operation, and whether one of its statements or its commit fails. -/
structure ReferralCall where
  operation : ReferralOperation
  aborted : Bool

def referralStep (db : ReferralDatabase) (call : ReferralCall) :
    ReferralDatabase :=
  if call.aborted then db else commit db (call.operation.run db)

theorem referralStep_invariant
    (preserved : ∀ first second, Transition Amounts first second → holds first → holds second)
    {call : ReferralCall} (allowed : call.operation.SettlesOnly Amounts db) (before : holds db) :
    holds (referralStep db call) := by
  unfold referralStep
  split
  · exact before
  · apply commit_invariant before
    intro next done
    exact (ReferralOperation.changes allowed done).invariant preserved before

end NewApi.Referral
