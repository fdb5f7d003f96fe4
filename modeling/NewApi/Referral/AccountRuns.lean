import NewApi.Referral.Books

/-!
# The account equals its documents, in every run

Each transition of the referral tables keeps the books, and so does every run
of the operations from an empty database.
-/

namespace NewApi.Referral

open Transactions ReferralDatabase Pot WithdrawalStatus ReferralCommissionLedger Referral

section Documents

variable {db : ReferralDatabase} {withdrawal : ReferralWithdrawal} {review : WithdrawalReview}

theorem documents_create_commission {commission : ReferralCommission}
    {commissions : KeyedTable ReferralCommission.id}
    (created : db.commissions.create commission = some commissions)
    (pending : commission.status = .pending) (other : Int) (pot : Pot) :
    ({ db with commissions := commissions } : ReferralDatabase).documents other pot =
      credit db.documents commission.affiliateId
        (only .pending commission.commissionAmount) other pot := by
  cases pot with
  | pending =>
    simp only [documents, pendingCommissions, credit, only,
      KeyedTable.total_create _ created, pending, and_true, if_true]
    congr 1
    by_cases same : commission.affiliateId = other
    · rw [if_pos same, if_pos same.symm]
    · rw [if_neg same, if_neg (Ne.symm same)]
  | available => simp [documents, credit, only]
  | frozen | withdrawn => simp [documents, credit, only, withdrawalsIn]

theorem documents_settle {row : ReferralCommission} (settled : ReferralCommission)
    (found : db.commissions.lookup settled.id = some row)
    (pending : row.status = .pending) (ended : settled.status ≠ .pending)
    (other : Int) (pot : Pot) (documented : pot ≠ .available) :
    ({ db with commissions := db.commissions.save settled } :
        ReferralDatabase).documents other pot =
      credit db.documents row.affiliateId
        (transfer .pending .available row.commissionAmount) other pot := by
  cases pot with
  | pending =>
    simp only [documents, pendingCommissions, credit, transfer, only]
    rw [KeyedTable.total_save _ _ found]
    by_cases same : row.affiliateId = other
    · simp [same, pending, ended]
    · simp [same, Ne.symm same, ended]
  | available => exact absurd rfl documented
  | frozen | withdrawn =>
    simp [documents, credit, transfer, only, withdrawalsIn]

/-- The balance that an open or a paid withdrawal documents. -/
def WithdrawalStatus.pot : WithdrawalStatus → Option Pot
  | .pending | .approved => some .frozen
  | .paid => some .withdrawn
  | .rejected | .canceled => none

def documentedBy (withdrawal : ReferralWithdrawal) : Pot → Int :=
  match withdrawal.status.pot with
  | some pot => Pot.only pot withdrawal.amount
  | none => fun _ => 0

/-- The withdrawals behind one balance, as the sum of what each documents. -/
theorem documents_withdrawals (db : ReferralDatabase) (affiliateId : Int) (pot : Pot)
    (backed : pot = .frozen ∨ pot = .withdrawn) :
    db.documents affiliateId pot = db.withdrawals.total (fun withdrawal =>
        if withdrawal.affiliateId = affiliateId then documentedBy withdrawal pot
        else 0) := by
  have weights : ∀ statuses : List WithdrawalStatus,
      (∀ status, status ∈ statuses ↔ status.pot = some pot) →
        db.withdrawalsIn statuses affiliateId = db.withdrawals.total (fun withdrawal =>
            if withdrawal.affiliateId = affiliateId then documentedBy withdrawal pot
            else 0) := by
    intro statuses covers
    apply KeyedTable.total_congr
    intro row _
    by_cases owner : row.affiliateId = affiliateId
    · by_cases inside : row.status ∈ statuses
      · have potOf := (covers row.status).mp inside
        simp [owner, inside, documentedBy, potOf, only]
      · have other : row.status.pot ≠ some pot :=
          fun potOf => inside ((covers row.status).mpr potOf)
        cases potOf : row.status.pot with
        | none => simp [owner, inside, documentedBy, potOf]
        | some backing =>
          have different : pot ≠ backing := by
            rintro rfl
            exact other potOf
          simp [owner, inside, documentedBy, potOf, only, different]
    · simp [owner]
  rcases backed with rfl | rfl
  · apply weights
    intro status
    cases status <;> simp [pot]
  · apply weights
    intro status
    cases status <;> simp [pot]

theorem documents_saveWithdrawal (found : db.withdrawals.lookup withdrawal.id = some withdrawal)
    (status : WithdrawalStatus) (other : Int) (pot : Pot) (documented : pot ≠ .available) :
    (db.saveWithdrawal { withdrawal with status := status, review := review }).documents other pot =
      credit db.documents withdrawal.affiliateId
        (fun pot =>
          documentedBy { withdrawal with status := status, review := review } pot -
            documentedBy withdrawal pot)
        other pot := by
  by_cases backed : pot = .frozen ∨ pot = .withdrawn
  · simp only [credit]
    rw [documents_withdrawals _ _ _ backed, documents_withdrawals _ _ _ backed]
    simp only [saveWithdrawal]
    have stored : db.withdrawals.lookup
        ({ withdrawal with status := status, review := review } : ReferralWithdrawal).id =
          some withdrawal := found
    rw [KeyedTable.total_save _ _ stored]
    by_cases same : withdrawal.affiliateId = other
    · simp [same]
    · simp [same, Ne.symm same]
  · cases pot with
    | pending =>
      have none : ∀ row : ReferralWithdrawal, documentedBy row .pending = 0 := by
        intro row
        unfold documentedBy
        cases row.status <;> simp [pot, only]
      simp [credit, none, documents, pendingCommissions, saveWithdrawal]
    | available => exact absurd rfl documented
    | frozen | withdrawn => simp at backed

theorem documents_create_withdrawal {withdrawals : KeyedTable ReferralWithdrawal.id}
    (created : db.withdrawals.create withdrawal = some withdrawals)
    (other : Int) (pot : Pot) (documented : pot ≠ .available) :
    ({ db with withdrawals := withdrawals } : ReferralDatabase).documents other pot =
      credit db.documents withdrawal.affiliateId (documentedBy withdrawal) other pot := by
  by_cases backed : pot = .frozen ∨ pot = .withdrawn
  · simp only [credit]
    rw [documents_withdrawals _ _ _ backed, documents_withdrawals _ _ _ backed]
    rw [KeyedTable.total_create _ created]
    by_cases same : withdrawal.affiliateId = other
    · simp [same]
    · simp [same, Ne.symm same]
  · cases pot with
    | pending =>
      have none : documentedBy withdrawal .pending = 0 := by
        unfold documentedBy
        cases withdrawal.status <;> simp [pot, only]
      simp [credit, none, documents, pendingCommissions]
    | available => exact absurd rfl documented
    | frozen | withdrawn => simp at backed

theorem credit_congr {amounts : Int → Pot → Int} {affiliateId : Int} {first second : Pot → Int}
    {pot : Pot} (same : first pot = second pot) (other : Int) :
    credit amounts affiliateId first other pot = credit amounts affiliateId second other pot := by
  simp only [credit, same]

theorem withdrawalsPositive_save (books : Books db)
    (found : db.withdrawals.lookup withdrawal.id = some withdrawal) (status : WithdrawalStatus) :
    ∀ row ∈ (db.saveWithdrawal
        { withdrawal with status := status, review := review }).withdrawals.rows,
      0 < row.amount := by
  intro row listed
  rcases KeyedTable.mem_rows_save listed with new | old
  · rw [new]
    exact books.withdrawalsPositive withdrawal (KeyedTable.lookup_eq_some_iff.mp found).1
  · exact books.withdrawalsPositive row old

end Documents

/-! ## Transitions -/

section Transitions

variable {db opened updated posted later : ReferralDatabase} {now : Int}

theorem sameSheet_jobs (db : ReferralDatabase) (jobs : KeyedTable ReferralCommissionJob.source) :
    SameSheet db { db with jobs := jobs } :=
  ⟨rfl, rfl, rfl, rfl, id⟩

theorem Books.accrued {commission : ReferralCommission}
    {commissions : KeyedTable ReferralCommission.id}
    {account : ReferralCommissionAccount} {userId : Int} (books : Books db)
    (created : db.commissions.create commission = some commissions)
    (pending : commission.status = .pending) (positive : 0 < commission.commissionAmount)
    (opening :
      getOrCreateAccountTx { db with commissions := commissions }
        commission.affiliateId userId = .ok (opened, account))
    (moved :
      updateAccount opened commission.affiliateId (fun _ => true)
        (·.accrue commission.commissionAmount) = some updated)
    (posting : createLedgerTx updated (accrueLine commission userId) = .ok later) :
    Books later := by
  obtain ⟨openedEq, _, _⟩ := getOrCreateAccountTx_cases opening
  have openedBalance : opened.balance = db.balance := by
    rw [balance_opened opening]
    rfl
  refine books.booked _ openedBalance ?_ ?_ ?_ ?_ (movesBy_accrue _) moved
      (SameSheet.refl _) posting rfl ?_ ?_
  · rw [openedEq]
    rfl
  · intro other pot _
    rw [openedEq, ← documents_create_commission created pending other pot]
    cases pot <;> rfl
  · rw [openedEq]
    intro row listed
    rw [KeyedTable.rows_create created] at listed
    rcases List.mem_append.mp listed with old | new
    · exact books.commissionsPositive row old
    · rw [List.mem_singleton.mp new]
      exact positive
  · rw [openedEq]
    exact books.withdrawalsPositive
  · funext pot
    cases pot <;> rfl
  · intro row _ nonnegative pot
    have before := nonnegative pot
    simp only [only]
    split <;> omega

theorem Books.settled {row : ReferralCommission} {userId : Int}
    (books : Books db) (found : db.commissions.lookup row.id = some row)
    (pending : row.status = .pending)
    (moved :
      updateAccount
        { db with
          commissions := db.commissions.save { row with status := .available, availableAt := now } }
        row.affiliateId
        (fun account => decide (row.commissionAmount ≤ account.pendingAmount))
        (·.settle row.commissionAmount) = some updated)
    (posting : createLedgerTx updated (settleLine row userId) = .ok later) :
    Books later := by
  have positive : 0 < row.commissionAmount :=
    books.commissionsPositive row (KeyedTable.lookup_eq_some_iff.mp found).1
  refine books.booked _ ?_ ?_ ?_ ?_ ?_ (movesBy_settle _) moved (SameSheet.refl _) posting rfl ?_ ?_
  · rfl
  · rfl
  · intro other pot documented
    exact documents_settle { row with status := .available, availableAt := now }
        found pending nofun other pot documented
  · intro other listed
    rcases KeyedTable.mem_rows_save listed with new | old
    · rw [new]
      exact positive
    · exact books.commissionsPositive other old
  · exact books.withdrawalsPositive
  · funext pot
    cases pot <;> simp [delta, settleLine, transfer, only]
  · intro account guard nonnegative
    exact transfer_covered positive (of_decide_eq_true guard) nonnegative

variable {withdrawal : ReferralWithdrawal} {review : WithdrawalReview}

theorem Books.bookWithdrawalTx {affiliate : ReferralAffiliate}
    (books : Books db) (owner : withdrawal.affiliateId = affiliate.id)
    (pending : withdrawal.status = .pending) (positive : 0 < withdrawal.amount)
    (done : bookWithdrawalTx now db affiliate withdrawal = .ok later) :
    Books later := by
  obtain ⟨updated, withdrawals, itemed, moved, created, allocation, posting⟩ :=
    bookWithdrawalTx_cases done
  refine books.booked _ ?_ ?_ ?_ ?_ ?_ (movesBy_freeze withdrawal.amount)
      (updateAccount_withdrawals withdrawals moved)
      (allocateWithdrawalItemsTx_frame allocation) posting rfl ?_ ?_
  · rfl
  · rfl
  · intro other pot documented
    rw [documents_create_withdrawal created other pot documented, owner]
    apply credit_congr
    simp only [documentedBy, pending, WithdrawalStatus.pot, transfer,
      only, if_neg documented, sub_zero]
  · exact books.commissionsPositive
  · intro row listed
    rw [KeyedTable.rows_create created] at listed
    rcases List.mem_append.mp listed with old | new
    · exact books.withdrawalsPositive row old
    · rw [List.mem_singleton.mp new]
      exact positive
  · funext pot
    cases pot <;> simp [delta, freezeLine, transfer, only]
  · intro row guard nonnegative
    exact transfer_covered positive (of_decide_eq_true guard) nonnegative

section

variable {remark : String} (books : Books db)
  (found : db.withdrawals.lookup withdrawal.id = some withdrawal)
  (isOpen : withdrawal.status.pot = some .frozen)
include books found isOpen

theorem Books.releaseFrozenTx {status : WithdrawalStatus} {type : LedgerType}
    {reference : ExternalRef} (closed : status.pot = none)
    (done :
      releaseFrozenTx now
          (db.saveWithdrawal { withdrawal with status := status, review := review }) withdrawal
          type reference remark = .ok later) :
    Books later := by
  obtain ⟨updated, update, done⟩ := bind_ok_iff.mp done
  obtain ⟨itemed, release, posting⟩ := bind_ok_iff.mp done
  have positive : 0 < withdrawal.amount :=
    books.withdrawalsPositive withdrawal (KeyedTable.lookup_eq_some_iff.mp found).1
  refine books.booked _ ?_ ?_ ?_ ?_ ?_ (movesBy_release withdrawal.amount)
      (requireRow_eq_ok.mp update) (endItems_frame release) posting rfl ?_ ?_
  · rfl
  · rfl
  · intro other pot documented
    rw [documents_saveWithdrawal found _ other pot documented]
    apply credit_congr
    simp only [documentedBy, isOpen, closed, transfer, only, if_neg documented]
  · exact books.commissionsPositive
  · exact withdrawalsPositive_save books found status
  · funext pot
    cases pot <;> simp [delta, transfer, only]
  · intro row guard nonnegative
    exact transfer_covered positive (of_decide_eq_true guard) nonnegative

theorem Books.payFrozenTx
    (done :
      payFrozenTx now (db.saveWithdrawal { withdrawal with status := .paid, review := review })
          withdrawal remark = .ok later) :
    Books later := by
  obtain ⟨updated, update, done⟩ := bind_ok_iff.mp done
  obtain ⟨itemed, payment, posting⟩ := bind_ok_iff.mp done
  have positive : 0 < withdrawal.amount :=
    books.withdrawalsPositive withdrawal (KeyedTable.lookup_eq_some_iff.mp found).1
  refine books.booked _ ?_ ?_ ?_ ?_ ?_ (movesBy_pay withdrawal.amount)
      (requireRow_eq_ok.mp update) (endItems_frame payment) posting rfl ?_ ?_
  · rfl
  · rfl
  · intro other pot documented
    rw [documents_saveWithdrawal found _ other pot documented]
    apply credit_congr
    have paid : paid.pot = some .withdrawn := rfl
    simp only [documentedBy, isOpen, paid, transfer]
  · exact books.commissionsPositive
  · exact withdrawalsPositive_save books found .paid
  · funext pot
    cases pot <;> simp [delta, transfer, only]
  · intro row guard nonnegative
    exact transfer_covered positive (of_decide_eq_true guard) nonnegative

end

variable {line : ReferralCommissionLedger}

theorem Books.approved (books : Books db)
    (found : db.withdrawals.lookup withdrawal.id = some withdrawal)
    (pending : withdrawal.status = .pending)
    (lineAffiliate : line.affiliateId = withdrawal.affiliateId)
    (lineDelta : line.delta = fun _ => 0)
    (posting :
      createLedgerTx (db.saveWithdrawal { withdrawal with status := .approved, review := review })
        line = .ok later) :
    Books later := by
  obtain ⟨ledger, _, laterEq⟩ := createLedgerTx_cases posting
  refine books.credit withdrawal.affiliateId (fun _ => 0) ?_ ?_ ?_ ?_ ?_ ?_
  · rw [laterEq]
    funext other pot
    simp only [Referral.credit, ite_self, add_zero]
    rfl
  · rw [posted_created posting, lineAffiliate, lineDelta]
    rfl
  · intro other pot documented
    have saved := @documents_saveWithdrawal _ _ review found .approved other pot documented
    have same : later.documents other pot =
        (db.saveWithdrawal
          { withdrawal with status := .approved, review := review }).documents other pot := by
      rw [laterEq]
      cases pot <;> rfl
    rw [same, saved]
    apply credit_congr
    simp [documentedBy, pending, WithdrawalStatus.pot]
  · intro pot
    rw [add_zero]
    exact books.nonnegative _ pot
  · rw [laterEq]
    exact books.commissionsPositive
  · rw [laterEq]
    exact withdrawalsPositive_save books found .approved

theorem Books.adjusted {affiliateId delta : Int}
    (books : Books db) (lineAffiliate : line.affiliateId = affiliateId)
    (lineDelta : line.delta = Pot.only .available delta)
    (posting : createLedgerTx db line = .ok posted)
    (moved :
      updateAccount posted affiliateId
        (fun account => decide (0 ≤ delta ∨ -delta ≤ account.availableAmount))
        (·.adjust delta) = some later) :
    Books later := by
  obtain ⟨row, found, guard, laterEq⟩ := updateAccount_cases moved
  obtain ⟨ledger, _, postedEq⟩ := createLedgerTx_cases posting
  have postedBalance : posted.balance = db.balance := by
    rw [postedEq]
    rfl
  have enough := of_decide_eq_true guard
  refine books.credit affiliateId (only .available delta) ?_ ?_ ?_ ?_ ?_ ?_
  · rw [balance_updated (movesBy_adjust delta) moved, postedBalance]
  · rw [laterEq]
    change posted.posted = _
    rw [posted_created posting, lineAffiliate, lineDelta]
  · intro other pot documented
    have same : later.documents other pot = db.documents other pot := by
      rw [laterEq, postedEq]
      cases pot <;> rfl
    rw [same]
    simp [Referral.credit, only, documented]
  · intro pot
    have before := books.nonnegative affiliateId pot
    rw [← postedBalance, balance_of_lookup found] at before ⊢
    cases pot with
    | available =>
      simp only [ReferralCommissionAccount.balance, only, if_true] at before ⊢
      omega
    | pending | frozen | withdrawn => simpa [only] using before
  · rw [laterEq, postedEq]
    exact books.commissionsPositive
  · rw [laterEq, postedEq]
    exact books.withdrawalsPositive

theorem Books.transition {Amounts : Int → Prop} (transition : Transition Amounts db later)
    (books : Books db) :
    Books later := by
  cases transition with
  | jobs jobs => exact books.sameSheet (sameSheet_jobs db jobs)
  | opened opening => exact books.opened opening
  | accrued created newId unique pending positive opening moved posting =>
    exact books.accrued created pending positive opening moved posting
  | settled now found pending allowed moved posting =>
    exact books.settled found pending moved posting
  | booked now newId owner pending positive booking =>
    exact books.bookWithdrawalTx owner pending positive booking
  | approved found pending lineAffiliate lineDelta lineReference posting =>
    exact books.approved found pending lineAffiliate lineDelta posting
  | released now found isOpen closed lineReference release =>
    apply books.releaseFrozenTx found _ _ release
    · rcases isOpen with pending | approved
      · rw [pending]
        rfl
      · rw [approved]
        rfl
    · rcases closed with rfl | rfl <;> rfl
  | paid now found approved payment =>
    apply books.payFrozenTx found _ payment
    rw [approved]
    rfl
  | adjusted lineAffiliate lineDelta lineReference posting moved =>
    exact books.adjusted lineAffiliate lineDelta posting moved

end Transitions

theorem books_empty : Books empty := by
  have noBalance : ∀ affiliateId pot, empty.balance affiliateId pot = 0 := fun _ _ => rfl
  refine ⟨?_, ?_, ?_, ?_, ?_⟩
  · intro affiliateId pot
    rw [noBalance]
    simp [posted, empty]
  · intro affiliateId pot _
    rw [noBalance]
    cases pot <;>
      simp [documents, pendingCommissions, withdrawalsIn, empty]
  · intro affiliateId pot
    rw [noBalance]
  · intro commission listed
    cases listed
  · intro withdrawal listed
    cases listed

theorem Books.execute {db : ReferralDatabase} (books : Books db) (calls : List ReferralCall) :
    Books (execute referralStep db calls) := by
  induction calls generalizing db with
  | nil => exact books
  | cons call rest ih =>
    apply ih
    exact referralStep_invariant (fun _ _ transition => Books.transition transition)
        (call.operation.settlesOnly_true db) books

/-- After every run of the referral operations from an empty database, every
account equals its commissions, its withdrawals and its ledger lines. -/
theorem account_equals_documents (calls : List ReferralCall) (account : ReferralCommissionAccount)
    (member : account ∈ (execute referralStep ReferralDatabase.empty calls).accounts.rows) :
    AccountBalanced (execute referralStep ReferralDatabase.empty calls) account :=
  (books_empty.execute calls).account member

def plainAffiliate : ReferralAffiliate where
  id := 1
  userId := 7
  inviteCode := "code"
  status := .approved
  acquisitionEnabled := true
  settlementEnabled := true
  withdrawalEnabled := true

def plainSettings : ReferralSettings where
  mapping := .ascii
  settlementCurrency := "USD"
  fxRate _ := none
  settleFreezeDays := 0
  minWithdrawAmount := 0
  withdrawFee := 0

def plainOrder (tradeNo : String) (paidAmount : Int) : CommissionOrder where
  sourceType := .topup
  tradeNo := tradeNo
  userId := 8
  sourceOrderId := 1
  affiliateId := 1
  rate := 100 * moneyScale
  paidAmount := paidAmount
  paidCurrency := "USD"
  referral := { status := none, error := "", at_ := 0 }

def plainWithdrawal (key : String) (amount : Int) : WithdrawalCreateInput where
  userId := 7
  amount := amount
  accountType := "alipay"
  accountName := "name"
  accountNo := "number"
  accountNetwork := ""
  qrImageURL := ""
  applicantNote := ""
  idempotencyKey := key

def withdrawingRun : List ReferralCall :=
  [ ⟨.processCommission plainSettings [plainAffiliate] {} 100
      (plainOrder "order" 500), false⟩,
    ⟨.runSettlementBatch [plainAffiliate] (fun _ => false) 200, false⟩,
    ⟨.createWithdrawal plainSettings [plainAffiliate] true .ok 300
      (plainWithdrawal "first" 200), false⟩ ]

theorem account_equals_documents_after_withdrawing :
    AccountBalanced (execute referralStep ReferralDatabase.empty withdrawingRun)
      { affiliateId := 1, userId := 7, availableAmount := 300, frozenAmount := 200 } :=
  account_equals_documents withdrawingRun _ (by decide +kernel)

end NewApi.Referral
