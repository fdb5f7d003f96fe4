import NewApi.Referral.CommissionOnce

/-!
# One commission per order, in every run

The transactions of any number of workers in any order.  As long as the lookup
of the subscription order answers, an order has one source type, and then it
has one commission, one accrual line and a succeeded job at most.
-/

namespace NewApi.Referral

open Transactions GoStrings KeyedTable CommissionCall Referral ReferralDatabase

theorem redemptionCommissionTradeNo_inj
    {first second : Int} (firstPositive : 0 < first) (secondPositive : 0 < second)
    (same : redemptionCommissionTradeNo first = redemptionCommissionTradeNo second) :
    first = second := by
  obtain ⟨left, rfl⟩ := Int.eq_ofNat_of_zero_le (le_of_lt firstPositive)
  obtain ⟨right, rfl⟩ := Int.eq_ofNat_of_zero_le (le_of_lt secondPositive)
  have digits : Nat.repr left = Nat.repr right := (String.append_right_inj _).mp same
  have chars := congrArg String.toList digits
  rw [Nat.toList_repr, Nat.toList_repr] at chars
  have values := congrArg (fun text => Nat.ofDigitChars 10 text 0) chars
  simp only [Nat.ofDigitChars_ten_toDigits] at values
  exact congrArg _ values

theorem isSpace_of_isDigit {char : Char} (digit : char.isDigit = true) : isSpace char = false := by
  simp only [Char.isDigit, Bool.and_eq_true, decide_eq_true_eq] at digit
  have lower : 48 ≤ char.toNat := digit.1
  have upper : char.toNat ≤ 57 := digit.2
  simp only [isSpace, Bool.or_eq_false_iff, Bool.and_eq_false_iff,
    decide_eq_false_iff_not, beq_eq_false_iff_ne]
  omega

theorem trimSpace_redemptionCommissionTradeNo {id : Int} (positive : 0 < id) :
    trimSpace (redemptionCommissionTradeNo id) = redemptionCommissionTradeNo id := by
  obtain ⟨number, rfl⟩ := Int.eq_ofNat_of_zero_le (le_of_lt positive)
  have chars : (redemptionCommissionTradeNo number).toList =
      "redemption:".toList ++ Nat.toDigits 10 number := by
    rw [redemptionCommissionTradeNo, String.toList_append]
    congr 1
    exact Nat.toList_repr
  rw [trimSpace_eq, trimFunc_eq_self]
  · exact String.ofList_toList
  · intro char first
    rw [chars] at first
    have isR : 'r' = char := by simpa using first
    rw [← isR]
    decide
  · intro char last
    rw [chars, List.getLast?_append_of_ne_nil _ Nat.toDigits_ne_nil] at last
    have member : char ∈ Nat.toDigits 10 number := List.mem_of_getLast? last
    exact isSpace_of_isDigit (Nat.isDigit_of_mem_toDigits (by decide) (by decide) member)

/-! ## Commissions and their orders -/

/-- The columns of an order that its commission repeats. -/
structure Repeats (order : OrderIdentity) (commission : ReferralCommission) :
    Prop where
  userId : commission.inviteeUserId = order.userId
  id : commission.sourceOrderId = order.id
  affiliateId : commission.affiliateId = order.affiliateId

/-- The order behind a commission.  A top-up is one only without a subscription
order of the same trade number. -/
def HasOrder (orders : PaidOrders) (commission : ReferralCommission) : Prop :=
  match commission.sourceType with
  | .topup =>
    orders.subscriptions commission.sourceTradeNo = none ∧
      ∃ order, orders.topups commission.sourceTradeNo = some order ∧ Repeats order commission
  | .subscription =>
    ∃ order, orders.subscriptions commission.sourceTradeNo = some order ∧ Repeats order commission
  | .redemption =>
    0 < commission.sourceOrderId ∧
      commission.sourceTradeNo =
          redemptionCommissionTradeNo commission.sourceOrderId ∧
        orders.redemptions commission.sourceOrderId = some commission.inviteeUserId

theorem HasOrder.sourceType_eq {orders : PaidOrders} {first second : ReferralCommission}
    (left : HasOrder orders first) (right : HasOrder orders second)
    (same : first.sourceTradeNo = second.sourceTradeNo) :
    first.sourceType = second.sourceType := by
  unfold HasOrder at left right
  cases firstType : first.sourceType with
  | topup =>
    rw [firstType] at left
    obtain ⟨noSubscription, order, found, _⟩ := left
    cases secondType : second.sourceType with
    | topup => rfl
    | subscription =>
      rw [secondType] at right
      obtain ⟨other, otherFound, _⟩ := right
      rw [← same, noSubscription] at otherFound
      cases otherFound
    | redemption =>
      rw [secondType] at right
      have shape := (orders.topupTradeNo _ _ found).notRedemption
      exact absurd (same.trans right.2.1) (shape _)
  | subscription =>
    rw [firstType] at left
    obtain ⟨order, found, _⟩ := left
    cases secondType : second.sourceType with
    | topup =>
      rw [secondType] at right
      rw [← same, found] at right
      cases right.1
    | subscription => rfl
    | redemption =>
      rw [secondType] at right
      have shape := (orders.subscriptionTradeNo _ _ found).notRedemption
      exact absurd (same.trans right.2.1) (shape _)
  | redemption =>
    rw [firstType] at left
    cases secondType : second.sourceType with
    | topup =>
      rw [secondType] at right
      obtain ⟨_, order, found, _⟩ := right
      have shape := (orders.topupTradeNo _ _ found).notRedemption
      exact absurd (same.symm.trans left.2.1) (shape _)
    | subscription =>
      rw [secondType] at right
      obtain ⟨order, found, _⟩ := right
      have shape := (orders.subscriptionTradeNo _ _ found).notRedemption
      exact absurd (same.symm.trans left.2.1) (shape _)
    | redemption => rfl

structure CommissionRow (users : Int → Int) (orders : PaidOrders) (db : ReferralDatabase)
    (commission : ReferralCommission) : Prop where
  order : HasOrder orders commission
  idPositive : 0 < commission.id
  positive : 0 < commission.commissionAmount
  affiliatePositive : 0 < commission.affiliateId
  user : commission.affiliateUserId = users commission.affiliateId
  userPositive : 0 < commission.affiliateUserId
  account : (db.accounts.lookup commission.affiliateId).isSome
  line : accrueLine commission commission.affiliateUserId ∈ db.ledger.rows
  job : ∃ job,
    db.jobs.lookup (commission.sourceType, commission.sourceTradeNo) = some job ∧
      job.status = .succeeded

structure Accrued (users : Int → Int) (orders : PaidOrders) (db : ReferralDatabase) :
    Prop where
  books : Books db
  unique : ∀ first ∈ db.commissions.rows, ∀ second ∈ db.commissions.rows,
    first.sourceType = second.sourceType →
      first.sourceTradeNo = second.sourceTradeNo → first = second
  rows : ∀ commission ∈ db.commissions.rows, CommissionRow users orders db commission
  lines : ∀ line ∈ db.ledger.rows, ∃ commission ∈ db.commissions.rows,
    line = accrueLine commission commission.affiliateUserId
  accounts : ∀ id account, db.accounts.lookup id = some account → account.userId = users id

section Invariant

variable {users : Int → Int} {orders : PaidOrders} {db later : ReferralDatabase}

theorem accrued_empty : Accrued users orders empty := by
  refine ⟨books_empty, ?_, ?_, ?_, ?_⟩
  · intro first listed
    cases listed
  · intro commission listed
    cases listed
  · intro line listed
    cases listed
  · intro id account found
    cases found

variable {sourceType : SourceType} {commission : ReferralCommission} {context : CommissionContext}
  {order : CommissionOrder}

theorem mem_of_commissionOf {tradeNo : String}
    (found : db.commissionOf sourceType tradeNo = some commission) :
    commission ∈ db.commissions.rows ∧ commission.sourceType = sourceType ∧
      commission.sourceTradeNo = tradeNo := by
  have same := List.find?_some found
  simp only [Bool.and_eq_true, decide_eq_true_eq] at same
  exact ⟨List.mem_of_find?_eq_some found, same.1, same.2⟩

theorem not_mem_of_commissionOf_none {tradeNo : String}
    (absent : db.commissionOf sourceType tradeNo = none)
    (listed : commission ∈ db.commissions.rows) :
    (commission.sourceType, commission.sourceTradeNo) ≠ (sourceType, tradeNo) := by
  intro same
  obtain ⟨sameType, sameTradeNo⟩ := Prod.mk.inj same
  have differs := List.find?_eq_none.mp absent commission listed
  simp [sameType, sameTradeNo] at differs

section

variable (accrued : Accrued users orders db)
include accrued

theorem accrueLedgerComplete (listed : commission ∈ db.commissions.rows) :
    referralCommissionAccrueLedgerComplete db commission commission.sourceType
      commission.sourceTradeNo = true := by
  have line := (accrued.rows commission listed).line
  have found : db.ledger.lookup (.accrue commission.sourceType commission.sourceTradeNo) =
        some (accrueLine commission commission.affiliateUserId) :=
    lookup_eq_some_iff.mpr ⟨line, rfl⟩
  have lines : db.ledger.rows.filter (fun line =>
          line.commissionId = commission.id && line.type = .commissionAccrue &&
            line.refType = commission.sourceType.text &&
              line.refId = commission.sourceTradeNo &&
                line.externalRefId = .accrue commission.sourceType commission.sourceTradeNo) =
        [accrueLine commission commission.affiliateUserId] := by
    apply filter_rows_eq_singleton found
    · simp [accrueLine]
    · intro other stored storedFound passes
      simp only [Bool.and_eq_true, decide_eq_true_eq] at passes
      rw [← passes.2]
      exact (key_of_lookup storedFound).symm
  simp only [referralCommissionAccrueLedgerComplete, lines]
  simp [accrueLine, referralMoneyEqual]

theorem accountBalanceComplete (listed : commission ∈ db.commissions.rows) :
    referralAccountLedgerBalanceComplete db commission.affiliateId
      commission.affiliateUserId = true := by
  have row := accrued.rows commission listed
  obtain ⟨account, found⟩ := Option.isSome_iff_exists.mp row.account
  have owner : account.userId = commission.affiliateUserId := by
    rw [accrued.accounts _ _ found, row.user]
  have posted : ∀ pot,
      account.balance pot = db.ledger.total (fun line =>
          if line.affiliateId = commission.affiliateId ∧
              line.userId = commission.affiliateUserId then
            line.delta pot
          else
            0) := by
    intro pot
    rw [← balance_of_lookup found, accrued.books.posted]
    apply total_congr
    intro line lineListed
    obtain ⟨other, otherListed, rfl⟩ := accrued.lines line lineListed
    by_cases same : other.affiliateId = commission.affiliateId
    · have user : other.affiliateUserId = commission.affiliateUserId := by
        rw [(accrued.rows other otherListed).user, same, row.user]
      simp [accrueLine, same, user]
    · simp [accrueLine, same]
  have pending := posted .pending
  have available := posted .available
  have frozen := posted .frozen
  have withdrawn := posted .withdrawn
  simp only [ReferralCommissionAccount.balance] at pending available frozen withdrawn
  simp only [referralAccountLedgerBalanceComplete, found, owner, decide_true,
    Bool.true_and, ← pending, ← available, ← frozen, ← withdrawn]
  simp [referralMoneyEqual]

theorem Accrued.jobs (tables : later = { db with jobs := later.jobs })
    (jobs : ∀ commission ∈ db.commissions.rows, ∃ job,
      later.jobs.lookup (commission.sourceType, commission.sourceTradeNo) = some job ∧
        job.status = .succeeded) :
    Accrued users orders later := by
  rw [tables]
  have books : Books { db with jobs := later.jobs } :=
    accrued.books.sameSheet (sameSheet_jobs db later.jobs)
  refine ⟨books, accrued.unique, ?_, accrued.lines, accrued.accounts⟩
  intro commission listed
  exact { accrued.rows commission listed with job := jobs commission listed }

theorem Accrued.jobsOnly {tradeNo : String} (only : JobsOnly (sourceType, tradeNo) db later)
    (absent : db.commissionOf sourceType tradeNo = none) :
    Accrued users orders later := by
  apply accrued.jobs only.tables
  intro commission listed
  rw [only.others _ (not_mem_of_commissionOf_none absent listed)]
  exact (accrued.rows commission listed).job

theorem Accrued.accrual {affiliate : ReferralAffiliate} (books : Books later)
    (accrual : Accrual context order db later affiliate commission)
    (jobs : ∀ other, other ≠ (order.sourceType, order.tradeNo) →
      later.jobs.lookup other = db.jobs.lookup other)
    (succeeded : ∃ job,
      later.jobs.lookup (order.sourceType, order.tradeNo) = some job ∧ job.status = .succeeded)
    (user : affiliate.userId = users affiliate.id) (userPositive : 0 < affiliate.userId)
    (hasOrder : HasOrder orders commission) :
    Accrued users orders later := by
  have affiliateKey : affiliate.id = order.affiliateId := by
    simpa using List.find?_some accrual.affiliateFound
  have line : accrueLine commission affiliate.userId =
      accrueLine commission commission.affiliateUserId := by
    rw [accrual.affiliateUserId]
  have ledgerRows := rows_create accrual.ledger
  have key : (commission.sourceType, commission.sourceTradeNo) =
      (order.sourceType, order.tradeNo) := by
    rw [accrual.sourceType, accrual.sourceTradeNo]
  refine ⟨books, ?_, ?_, ?_, ?_⟩
  · intro first firstListed second secondListed sameType sameTradeNo
    rw [accrual.commissions] at firstListed secondListed
    have fresh : ∀ other ∈ db.commissions.rows,
        other.sourceType = commission.sourceType →
          other.sourceTradeNo ≠ commission.sourceTradeNo := by
      intro other otherListed sameOther sameNo
      apply not_mem_of_commissionOf_none accrual.unique otherListed
      rw [sameOther, sameNo, key]
    rcases List.mem_append.mp firstListed with firstOld | firstNew
    · rcases List.mem_append.mp secondListed with secondOld | secondNew
      · exact accrued.unique first firstOld second secondOld sameType sameTradeNo
      · rw [List.mem_singleton.mp secondNew] at sameType sameTradeNo
        exact absurd sameTradeNo (fresh first firstOld sameType)
    · rw [List.mem_singleton.mp firstNew] at sameType sameTradeNo ⊢
      rcases List.mem_append.mp secondListed with secondOld | secondNew
      · exact absurd sameTradeNo.symm (fresh second secondOld sameType.symm)
      · exact (List.mem_singleton.mp secondNew).symm
  · intro row listed
    rw [accrual.commissions] at listed
    rcases List.mem_append.mp listed with old | new
    · have before := accrued.rows row old
      refine
        { before with
          account := accrual.accountsKept _ before.account
          line := ?_
          job := ?_ }
      · rw [ledgerRows]
        exact List.mem_append_left _ before.line
      · rw [jobs _ (not_mem_of_commissionOf_none accrual.unique old)]
        exact before.job
    · rw [List.mem_singleton.mp new]
      refine
        { order := hasOrder
          idPositive := accrual.idPositive
          positive := accrual.positive
          affiliatePositive := ?_
          user := ?_
          userPositive := ?_
          account := ?_
          line := ?_
          job := ?_ }
      · rw [accrual.affiliateId]
        exact accrual.affiliatePositive
      · rw [accrual.affiliateUserId, accrual.affiliateId, user, affiliateKey]
      · rw [accrual.affiliateUserId]
        exact userPositive
      · rw [accrual.affiliateId]
        exact accrual.opened
      · rw [ledgerRows, ← line]
        exact List.mem_append_right _ List.mem_cons_self
      · rw [key]
        exact succeeded
  · intro posted listed
    rw [ledgerRows] at listed
    rw [accrual.commissions]
    rcases List.mem_append.mp listed with old | new
    · obtain ⟨row, rowListed, same⟩ := accrued.lines posted old
      exact ⟨row, List.mem_append_left _ rowListed, same⟩
    · refine ⟨commission, List.mem_append_right _ List.mem_cons_self, ?_⟩
      rw [List.mem_singleton.mp new, line]
  · intro id account found
    rcases accrual.accounts id account found with
      ⟨old, oldFound, same⟩ | ⟨isNew, same⟩
    · rw [same]
      exact accrued.accounts id old oldFound
    · rw [same, user, affiliateKey, isNew]

end

def KeepsUsers (users : Int → Int) (context : CommissionContext) : Prop :=
  ∀ affiliate ∈ context.affiliates, affiliate.userId = users affiliate.id ∧ 0 < affiliate.userId

theorem Accrued.processCommissionTx {outcome : OrderReferral}
    (accrued : Accrued users orders db) (keeps : KeepsUsers users context)
    (absent : db.commissionOf order.sourceType order.tradeNo = none)
    (hasOrder : ∀ commission : ReferralCommission,
      commission.sourceType = order.sourceType →
        commission.sourceTradeNo = order.tradeNo →
          commission.inviteeUserId = order.userId →
            commission.sourceOrderId = order.sourceOrderId →
              commission.affiliateId = order.affiliateId → HasOrder orders commission)
    (done :
      processCommissionTx context.settings context.affiliates
          context.faults context.now db order = .ok (later, outcome)) :
    Accrued users orders later := by
  have changes : Changes (fun _ => True) db later := processCommissionTx_changes done
  have books : Books later :=
    changes.invariant (fun _ _ transition => Books.transition transition) accrued.books
  rcases processCommissionTx_outcome done with only |
    ⟨⟨affiliate, commission, accrual⟩, jobs, succeeded⟩
  · exact accrued.jobsOnly only absent
  · obtain ⟨user, userPositive⟩ :=
      keeps affiliate (List.mem_of_find?_eq_some accrual.affiliateFound)
    exact accrued.accrual books accrual jobs succeeded user userPositive
        (hasOrder commission accrual.sourceType accrual.sourceTradeNo
          accrual.inviteeUserId accrual.sourceOrderId accrual.affiliateId)

/-- Only jobs have changed, or a commission of the trade number is new. -/
def Recorded (tradeNo : String) (db later : ReferralDatabase) : Prop :=
  later = { db with jobs := later.jobs } ∨
    ∃ commission,
      later.commissions.rows = db.commissions.rows ++ [commission] ∧
        commission.sourceTradeNo = tradeNo ∧ commission ∉ db.commissions.rows

theorem recorded_refl (tradeNo : String) (db : ReferralDatabase) : Recorded tradeNo db db :=
  Or.inl rfl

theorem Recorded.of_jobsOnly
    {key : SourceType × String} {middle : ReferralDatabase} {tradeNo : String}
    (recorded : Recorded tradeNo middle later) (before : JobsOnly key db middle) :
    Recorded tradeNo db later := by
  have tables := before.tables
  rcases recorded with same | ⟨commission, rows, sameTradeNo, fresh⟩
  · left
    rw [same, tables]
  · right
    rw [tables] at rows fresh
    exact ⟨commission, rows, sameTradeNo, fresh⟩

theorem JobOutcome.recorded (outcome : JobOutcome context order db later) :
    Recorded order.tradeNo db later := by
  rcases outcome with only | ⟨⟨affiliate, commission, accrual⟩, _, _⟩
  · exact Or.inl only.tables
  · refine Or.inr ⟨commission, accrual.commissions, accrual.sourceTradeNo, ?_⟩
    intro listed
    apply not_mem_of_commissionOf_none accrual.unique listed
    rw [accrual.sourceType, accrual.sourceTradeNo]

theorem Accrued.commissionAccrualComplete (accrued : Accrued users orders db)
    (found : db.commissionOf order.sourceType order.tradeNo = some commission)
    (tradeNo : OrderTradeNo order.tradeNo) (user : commission.inviteeUserId = order.userId)
    (id : commission.sourceOrderId = order.sourceOrderId)
    (affiliate : commission.affiliateId = order.affiliateId) :
    commissionAccrualCompleteTx db order = true := by
  obtain ⟨listed, sameType, sameTradeNo⟩ := mem_of_commissionOf found
  have row := accrued.rows commission listed
  have ledger := accrueLedgerComplete accrued listed
  rw [sameType, sameTradeNo] at ledger
  have invalid : ¬ (commission.id ≤ 0 ∨ commission.affiliateId ≤ 0 ∨
        commission.affiliateUserId ≤ 0 ∨ commission.commissionAmount ≤ 0) := by
    have := row.idPositive
    have := row.affiliatePositive
    have := row.userPositive
    have := row.positive
    omega
  simp only [commissionAccrualCompleteTx, tradeNo.trimmed, if_neg tradeNo.nonempty,
    found, if_neg invalid]
  rw [if_neg (fun differs => differs.2 affiliate),
    if_neg (fun differs => differs.2 user), if_neg (fun differs => differs.2 id),
    ledger, accountBalanceComplete accrued listed]
  rfl

theorem Accrued.processOrderTx {table : String → Option OrderIdentity} {tradeNo : String}
    {columns : OrderColumns} (accrued : Accrued users orders db) (keeps : KeepsUsers users context)
    (shape : ∀ order, table tradeNo = some order → OrderTradeNo tradeNo)
    (hasOrder : ∀ order, table tradeNo = some order →
      ∀ commission : ReferralCommission,
        commission.sourceType = sourceType →
          commission.sourceTradeNo = tradeNo →
            (HasOrder orders commission ↔ Repeats order commission))
    (done : processOrderTx context sourceType table db tradeNo columns = .ok later) :
    Accrued users orders later ∧ Recorded tradeNo db later := by
  unfold Referral.processOrderTx at done
  split at done
  · cases done
  rename_i order found
  split at done
  · obtain ⟨⟨written, outcome⟩, processed, rfl⟩ := map_eq_ok_iff.mp done
    refine ⟨?_, (processCommissionTx_outcome processed).recorded⟩
    cases known : db.commissionOf sourceType tradeNo with
    | none =>
      refine accrued.processCommissionTx keeps known ?_ processed
      intro commission sameType sameTradeNo user id affiliate
      exact (hasOrder order found commission sameType sameTradeNo).mpr ⟨user, id, affiliate⟩
    | some commission =>
      obtain ⟨listed, sameType, sameTradeNo⟩ := mem_of_commissionOf known
      have row := accrued.rows commission listed
      obtain ⟨user, id, affiliate⟩ :=
        (hasOrder order found commission sameType sameTradeNo).mp row.order
      obtain ⟨job, jobStored, succeeded⟩ := row.job
      rw [sameType, sameTradeNo] at jobStored
      have unchanged : written = db := by
        refine processCommissionTx_of_complete jobStored succeeded ?_ processed
        exact accrued.commissionAccrualComplete known (shape order found) user id affiliate
      exact unchanged ▸ accrued
  · cases done
    exact ⟨accrued, recorded_refl tradeNo db⟩

/-! ## Redemptions -/

theorem syncRedemptionTerminalJob_spec
    (db : ReferralDatabase) (redemptionId : Int) (terminalStatus : JobStatus)
    (affiliateId succeededAt : Int) (lastError : String) :
    JobsOnly (.redemption, redemptionCommissionTradeNo redemptionId) db
        (syncRedemptionTerminalJob db redemptionId terminalStatus affiliateId
          succeededAt lastError) ∧
      ∃ job,
        (syncRedemptionTerminalJob db redemptionId terminalStatus affiliateId
              succeededAt lastError).jobs.lookup
            (.redemption, redemptionCommissionTradeNo redemptionId) = some job ∧
          job.status = terminalStatus := by
  simp only [syncRedemptionTerminalJob]
  cases found : db.jobs.lookup (.redemption, redemptionCommissionTradeNo redemptionId) with
  | none =>
    refine ⟨jobsOnly_insertJob db rfl,
        { sourceType := .redemption
          sourceTradeNo := redemptionCommissionTradeNo redemptionId
          affiliateId := affiliateId
          status := terminalStatus
          lastError := lastError
          succeededAt := succeededAt }, ?_, rfl⟩
    simp only [lookup_insertIgnore, found]
    simp [ReferralCommissionJob.source]
  | some job =>
    have source : job.source = (.redemption, redemptionCommissionTradeNo redemptionId) :=
      key_of_lookup found
    have saves : ∀ updated : ReferralCommissionJob,
        updated.source = (.redemption, redemptionCommissionTradeNo redemptionId) →
          updated.status = terminalStatus →
            JobsOnly (.redemption, redemptionCommissionTradeNo redemptionId) db
                (db.saveJob updated) ∧
              ∃ stored,
                (db.saveJob updated).jobs.lookup
                    (.redemption, redemptionCommissionTradeNo redemptionId) = some stored ∧
                  stored.status = terminalStatus := by
      intro updated sameSource status
      refine ⟨jobsOnly_saveJob db sameSource, updated, ?_, status⟩
      rw [← sameSource]
      exact lookup_saveJob (sameSource.symm ▸ found)
    simp only
    split
    · exact saves _ source rfl
    · exact saves _ source rfl

theorem resetRedemptionCommissionJob_jobsOnly
    (db : ReferralDatabase) (redemptionId affiliateId failedAt : Int) :
    JobsOnly (.redemption, redemptionCommissionTradeNo redemptionId) db
      (resetRedemptionCommissionJob db redemptionId affiliateId failedAt) := by
  simp only [resetRedemptionCommissionJob]
  cases found : db.jobs.lookup (.redemption, redemptionCommissionTradeNo redemptionId) with
  | none => exact jobsOnly_insertJob db rfl
  | some job =>
    have source : job.source = (.redemption, redemptionCommissionTradeNo redemptionId) :=
      key_of_lookup found
    exact jobsOnly_saveJob db source

section

variable (accrued : Accrued users orders db)
include accrued

theorem Accrued.redemptionCommissionRecordComplete
    {redemptionId usedUserId : Int} (positive : 0 < redemptionId)
    (redemption : orders.redemptions redemptionId = some usedUserId)
    (found :
      db.commissionOf .redemption (redemptionCommissionTradeNo redemptionId) = some commission) :
    redemptionCommissionRecordComplete db redemptionId usedUserId =
      (some commission, true) := by
  obtain ⟨listed, sameType, sameTradeNo⟩ := mem_of_commissionOf found
  have row := accrued.rows commission listed
  have ledger := accrueLedgerComplete accrued listed
  rw [sameType, sameTradeNo] at ledger
  have order := row.order
  simp only [HasOrder, sameType] at order
  obtain ⟨idPositive, tradeNo, owner⟩ := order
  have sameId : commission.sourceOrderId = redemptionId :=
    redemptionCommissionTradeNo_inj idPositive positive (tradeNo ▸ sameTradeNo)
  have sameUser : commission.inviteeUserId = usedUserId := by
    rw [sameId, redemption] at owner
    exact (Option.some.inj owner).symm
  have invalid : ¬ (commission.id ≤ 0 ∨ commission.affiliateId ≤ 0 ∨
        commission.affiliateUserId ≤ 0 ∨ commission.commissionAmount ≤ 0) := by
    have := row.idPositive
    have := row.affiliatePositive
    have := row.userPositive
    have := row.positive
    omega
  simp only [Referral.redemptionCommissionRecordComplete, found, if_neg invalid,
    trimSpace_redemptionCommissionTradeNo positive]
  rw [if_neg (fun differs => differs.2 sameId), if_neg (fun differs => differs.2 sameUser), ledger,
    accountBalanceComplete accrued listed]
  rfl

theorem Accrued.processRedemptionTx {redemptionId : Int} {columns : RedemptionColumns}
    (keeps : KeepsUsers users context)
    (done : Referral.processRedemptionTx context orders db redemptionId columns = .ok later) :
    Accrued users orders later ∧ Recorded (redemptionCommissionTradeNo redemptionId) db later := by
  simp only [Referral.processRedemptionTx] at done
  split at done
  · cases done
  rename_i positive
  have positive : 0 < redemptionId := not_le.mp positive
  split at done
  · cases done
  rename_i usedUserId redemption
  split at done
  · cases done
    exact ⟨accrued, recorded_refl _ db⟩
  cases known : db.commissionOf .redemption (redemptionCommissionTradeNo redemptionId) with
  | some commission =>
    rw [accrued.redemptionCommissionRecordComplete positive redemption known] at done
    cases done
    obtain ⟨only, succeeded⟩ :=
      syncRedemptionTerminalJob_spec db redemptionId .succeeded commission.affiliateId
        (completedRedemptionAt context.now columns commission) ""
    refine ⟨accrued.jobs only.tables ?_, Or.inl only.tables⟩
    intro other listed
    by_cases same : (other.sourceType, other.sourceTradeNo) =
        (.redemption, redemptionCommissionTradeNo redemptionId)
    · rw [same]
      exact succeeded
    · rw [only.others _ same]
      exact (accrued.rows other listed).job
  | none =>
    have record :
        Referral.redemptionCommissionRecordComplete db redemptionId usedUserId = (none, false) := by
      simp only [Referral.redemptionCommissionRecordComplete, known]
    rw [record] at done
    have processed : ∀ (snapshot : RedemptionSnapshot)
        (status : Option JobStatus) (middle : ReferralDatabase),
        JobsOnly (.redemption, redemptionCommissionTradeNo redemptionId) db middle →
          (Referral.processCommissionTx context.settings
            context.affiliates context.faults context.now middle
            { sourceType := .redemption
              tradeNo := redemptionCommissionTradeNo redemptionId
              userId := usedUserId
              sourceOrderId := redemptionId
              affiliateId := snapshot.affiliateId
              rate := snapshot.rate
              paidAmount := snapshot.paidAmount
              paidCurrency := "CNY"
              referral := { snapshot.referral with status := status } }).map
              Prod.fst = .ok later →
            Accrued users orders later ∧
              Recorded (redemptionCommissionTradeNo redemptionId) db later := by
      intro snapshot status middle only run
      obtain ⟨⟨_, outcome⟩, processing, rfl⟩ := map_eq_ok_iff.mp run
      have absent : middle.commissionOf .redemption
          (redemptionCommissionTradeNo redemptionId) = none := by
        rw [only.tables]
        exact known
      refine ⟨(accrued.jobsOnly only known).processCommissionTx keeps absent ?_ processing,
          (processCommissionTx_outcome processing).recorded.of_jobsOnly only⟩
      intro commission sameType sameTradeNo user id _
      simp only [HasOrder, sameType]
      rw [id, user]
      exact ⟨positive, sameTradeNo, redemption⟩
    have skips : ∀ middle : ReferralDatabase,
        JobsOnly (.redemption, redemptionCommissionTradeNo redemptionId) db middle →
          Accrued users orders middle ∧
            Recorded (redemptionCommissionTradeNo redemptionId) db middle :=
      fun middle only => ⟨accrued.jobsOnly only known, Or.inl only.tables⟩
    simp only at done
    split at done
    · split at done
      · cases done
      exact processed _ _ _ (resetRedemptionCommissionJob_jobsOnly db redemptionId _ _) done
    · cases done
      exact skips _ (syncRedemptionTerminalJob_spec db redemptionId _ _ _ _).1
    · split at done
      · cases done
      exact processed _ _ db (JobsOnly.refl _ db) done

theorem Accrued.markCommissionJobFailed (now : Int) (sourceType : SourceType) (tradeNo : String)
    (affiliateId : Int) (reason : String) :
    let later := markCommissionJobFailed now db sourceType tradeNo affiliateId reason
    Accrued users orders later ∧ later = { db with jobs := later.jobs } := by
  simp only [Referral.markCommissionJobFailed]
  split
  · exact ⟨accrued, rfl⟩
  -- A commission under this key would come with a job that has succeeded.
  have absent : ∀ stored,
      db.jobs.lookup (sourceType, trimSpace tradeNo) = stored →
        (∀ job, stored = some job → job.status ≠ .succeeded) →
          db.commissionOf sourceType (trimSpace tradeNo) = none := by
    intro stored found unfinished
    by_contra known
    obtain ⟨commission, known⟩ := Option.ne_none_iff_exists'.mp known
    obtain ⟨listed, sameType, sameTradeNo⟩ := mem_of_commissionOf known
    obtain ⟨job, jobStored, succeeded⟩ := (accrued.rows commission listed).job
    rw [sameType, sameTradeNo, found] at jobStored
    exact unfinished job jobStored succeeded
  cases found : db.jobs.lookup (sourceType, trimSpace tradeNo) with
  | none =>
    refine ⟨accrued.jobsOnly (jobsOnly_insertJob db ?_) (absent none found (by rintro _ ⟨⟩)), rfl⟩
    rfl
  | some job =>
    have source : job.source = (sourceType, trimSpace tradeNo) := key_of_lookup found
    simp only
    split
    · exact ⟨accrued, rfl⟩
    · rename_i unfinished
      refine ⟨accrued.jobsOnly (jobsOnly_saveJob db source) ?_, rfl⟩
      apply absent (some job) found
      rintro other ⟨⟩ succeeded
      exact unfinished (Or.inl succeeded)

theorem Accrued.moveCommissionJobToCanonicalSource (now : Int) {tradeNo : String}
    (subscribed : orders.subscriptions (trimSpace tradeNo) ≠ none) :
    let later := Referral.moveCommissionJobToCanonicalSource now db .topup .subscription tradeNo
    Accrued users orders later ∧ later = { db with jobs := later.jobs } := by
  have noTopup : ∀ commission ∈ db.commissions.rows,
      (commission.sourceType, commission.sourceTradeNo) ≠ (.topup, trimSpace tradeNo) := by
    intro commission listed same
    obtain ⟨sameType, sameTradeNo⟩ := Prod.mk.inj same
    have order := (accrued.rows commission listed).order
    simp only [HasOrder, sameType, sameTradeNo] at order
    exact subscribed order.1
  simp only [Referral.moveCommissionJobToCanonicalSource]
  split
  · exact ⟨accrued, rfl⟩
  cases oldFound : db.jobs.lookup (.topup, trimSpace tradeNo) with
  | none => exact ⟨accrued, rfl⟩
  | some oldJob =>
    have oldSource : oldJob.source = (.topup, trimSpace tradeNo) := key_of_lookup oldFound
    cases newFound : db.jobs.lookup (.subscription, trimSpace tradeNo) with
    | some existing =>
      have newSource : existing.source = (.subscription, trimSpace tradeNo) :=
        key_of_lookup newFound
      have superseded : ∀ middle : ReferralDatabase,
          JobsOnly (.subscription, trimSpace tradeNo) db middle →
            (middle = db ∨ existing.status ≠ .succeeded) →
              ∀ skipped : ReferralCommissionJob,
                skipped.source = (.topup, trimSpace tradeNo) →
                  Accrued users orders (middle.saveJob skipped) ∧
                    middle.saveJob skipped = { db with jobs := (middle.saveJob skipped).jobs } := by
        intro middle only changed skipped source
        have last := jobsOnly_saveJob middle source
        have tables : middle.saveJob skipped =
            { db with jobs := (middle.saveJob skipped).jobs } := by
          rw [saveJob, only.tables]
        refine ⟨accrued.jobs tables ?_, tables⟩
        intro commission listed
        rw [last.others _ (noTopup commission listed)]
        obtain ⟨job, jobStored, succeeded⟩ := (accrued.rows commission listed).job
        rcases changed with same | unfinished
        · rw [same]
          exact ⟨job, jobStored, succeeded⟩
        · rw [only.others]
          · exact ⟨job, jobStored, succeeded⟩
          · intro sameKey
            rw [sameKey, newFound] at jobStored
            cases jobStored
            exact unfinished succeeded
      simp only
      split
      · rename_i unfinished
        refine superseded _ (jobsOnly_saveJob db ?_) (Or.inr unfinished) _ ?_
        · exact newSource
        · exact oldSource
      · exact superseded db (JobsOnly.refl _ db) (Or.inl rfl) _ oldSource
    | none =>
      refine ⟨accrued.jobs rfl ?_, rfl⟩
      intro commission listed
      obtain ⟨job, jobStored, succeeded⟩ := (accrued.rows commission listed).job
      refine ⟨job, ?_, succeeded⟩
      rw [lookup_insertIgnore, lookup_delete, if_neg (noTopup commission listed), jobStored]
      rfl

end

def CommissionStep.tradeNo : CommissionStep → String
  | .topup _ tradeNo _ => tradeNo
  | .subscription _ tradeNo _ => tradeNo
  | .redemption _ redemptionId _ => redemptionCommissionTradeNo redemptionId
  | .move _ _ _ tradeNo => trimSpace tradeNo
  | .fail _ _ tradeNo _ _ => trimSpace tradeNo

/-- The affiliates that a transaction sees keep their users, and it treats an
order with a subscription as a subscription. -/
def CommissionStep.Canonical (users : Int → Int) (orders : PaidOrders) : CommissionStep → Prop
  | .topup context tradeNo _ =>
    KeepsUsers users context ∧ orders.subscriptions (trimSpace tradeNo) = none
  | .subscription context _ _ => KeepsUsers users context
  | .redemption context _ _ => KeepsUsers users context
  | .move _ oldSourceType newSourceType tradeNo =>
    oldSourceType = .topup ∧ newSourceType = .subscription ∧
      orders.subscriptions (trimSpace tradeNo) ≠ none
  | .fail _ _ _ _ _ => True

section

variable (accrued : Accrued users orders db)
include accrued

/-- One transaction keeps what has accrued, and records at most its own order. -/
theorem Accrued.step {step : CommissionStep} (canonical : step.Canonical users orders)
    (done : step.run orders db = .ok later) :
    Accrued users orders later ∧ Recorded step.tradeNo db later := by
  cases step with
  | topup context tradeNo columns =>
    refine accrued.processOrderTx canonical.1 (orders.topupTradeNo tradeNo) ?_ done
    intro order found commission sameType sameTradeNo
    have trimmed := (orders.topupTradeNo tradeNo order found).trimmed
    have noSubscription := canonical.2
    rw [trimmed] at noSubscription
    simp only [CommissionStep.tradeNo] at found sameTradeNo
    simp [HasOrder, sameType, sameTradeNo, noSubscription, found]
  | subscription context tradeNo columns =>
    refine accrued.processOrderTx canonical (orders.subscriptionTradeNo tradeNo) ?_ done
    intro order found commission sameType sameTradeNo
    simp [HasOrder, sameType, sameTradeNo, found]
  | redemption context redemptionId columns => exact accrued.processRedemptionTx canonical done
  | move now oldSourceType newSourceType tradeNo =>
    obtain ⟨rfl, rfl, subscribed⟩ := canonical
    obtain rfl := Except.ok.inj done
    obtain ⟨kept, tables⟩ := accrued.moveCommissionJobToCanonicalSource now subscribed
    exact ⟨kept, Or.inl tables⟩
  | fail now sourceType tradeNo affiliateId reason =>
    obtain rfl := Except.ok.inj done
    obtain ⟨kept, tables⟩ :=
      accrued.markCommissionJobFailed now sourceType tradeNo affiliateId reason
    exact ⟨kept, Or.inl tables⟩

theorem Accrued.transaction {transaction : CommissionTransaction}
    (canonical : transaction.step.Canonical users orders) :
    Accrued users orders (commissionTransaction orders db transaction) ∧
      Recorded transaction.step.tradeNo db (commissionTransaction orders db transaction) := by
  unfold commissionTransaction
  split
  · exact ⟨accrued, recorded_refl _ db⟩
  · cases result : transaction.step.run orders db with
    | error failure => exact ⟨accrued, recorded_refl _ db⟩
    | ok later => exact accrued.step canonical result

theorem Accrued.eq_of_tradeNo {first second : ReferralCommission}
    (firstListed : first ∈ db.commissions.rows) (secondListed : second ∈ db.commissions.rows)
    (same : first.sourceTradeNo = second.sourceTradeNo) :
    first = second := by
  have sameType : first.sourceType = second.sourceType :=
    (accrued.rows first firstListed).order.sourceType_eq
      (accrued.rows second secondListed).order same
  exact accrued.unique first firstListed second secondListed sameType same

theorem Accrued.again {transaction : CommissionTransaction}
    (canonical : transaction.step.Canonical users orders)
    (listed : commission ∈ db.commissions.rows)
    (same : transaction.step.tradeNo = commission.sourceTradeNo) :
    let later := commissionTransaction orders db transaction
    later.accounts = db.accounts ∧
      ∃ job,
        later.jobs.lookup (commission.sourceType, commission.sourceTradeNo) = some job ∧
          job.status = .succeeded := by
  obtain ⟨kept, recorded⟩ := accrued.transaction canonical
  intro later
  have tables : later = { db with jobs := later.jobs } := by
    rcases recorded with tables | ⟨added, rows, addedTradeNo, fresh⟩
    · exact tables
    -- The order would have two commissions.
    have addedListed : added ∈ later.commissions.rows := by
      rw [rows]
      exact List.mem_append_right _ List.mem_cons_self
    have stillListed : commission ∈ later.commissions.rows := by
      rw [rows]
      exact List.mem_append_left _ listed
    have equal : added = commission :=
      kept.eq_of_tradeNo addedListed stillListed (addedTradeNo.trans same)
    exact absurd (equal ▸ listed) fresh
  have stillListed : commission ∈ later.commissions.rows := by
    rw [tables]
    exact listed
  refine ⟨?_, (kept.rows commission stillListed).job⟩
  rw [tables]

end

end Invariant

/-- `ProcessTopUpCommission` does not take a failed lookup of a subscription
order for its absence. -/
def CommissionCall.Answered (orders : PaidOrders) : CommissionCall → Prop
  | .processTopUp _ existsFails tradeNo =>
    existsFails = true → orders.subscriptions (trimSpace tradeNo) = none
  | .retry _ _ existsFails _ tradeNo =>
    existsFails = true → orders.subscriptions (trimSpace tradeNo) = none
  | .processSubscription _ _ => True
  | .processRedemption _ _ => True
  | .markFailed _ _ _ _ _ => True
  | .backfill _ _ => True

def CommissionCall.KeepsUsers (users : Int → Int) : CommissionCall → Prop
  | .processTopUp reads _ _ => Referral.KeepsUsers users reads.context
  | .processSubscription reads _ => Referral.KeepsUsers users reads.context
  | .processRedemption reads _ => Referral.KeepsUsers users reads.context
  | .retry reads _ _ _ _ => Referral.KeepsUsers users reads.context
  | .markFailed _ _ _ _ _ => True
  | .backfill redemptions _ =>
    ∀ redemption ∈ redemptions, Referral.KeepsUsers users redemption.2.context

section Calls

variable {users : Int → Int} {orders : PaidOrders}

variable {fails : Bool} {tradeNo : String}

theorem subscriptionOrderExists_eq_true
    (isThere : subscriptionOrderExists orders fails tradeNo = true) :
    orders.subscriptions (trimSpace tradeNo) ≠ none := by
  simp only [subscriptionOrderExists] at isThere
  split at isThere
  · cases isThere
  split at isThere
  · cases isThere
  exact Option.isSome_iff_ne_none.mp isThere

theorem subscriptions_eq_none
    (answered : fails = true → orders.subscriptions (trimSpace tradeNo) = none)
    (missing : subscriptionOrderExists orders fails tradeNo = false) :
    orders.subscriptions (trimSpace tradeNo) = none := by
  simp only [subscriptionOrderExists] at missing
  split at missing
  · rename_i empty
    by_contra present
    obtain ⟨order, found⟩ := Option.ne_none_iff_exists'.mp present
    exact (orders.subscriptionTradeNo _ order found).nonempty empty
  split at missing
  · rename_i failed
    exact answered failed
  · simpa using missing

theorem processTopUpCommission_canonical {reads : CommissionReads} {existsFails : Bool}
    (keeps : KeepsUsers users reads.context)
    (answered : existsFails = true → orders.subscriptions (trimSpace tradeNo) = none) :
    (processTopUpCommission orders reads existsFails tradeNo).Canonical users orders := by
  unfold processTopUpCommission
  split
  · exact keeps
  · rename_i missing
    exact ⟨keeps, subscriptions_eq_none answered (by simpa using missing)⟩

/-- A retried job that belongs to another source is the top-up of a subscription
order. -/
theorem canonicalCommissionSourceType_moved {sourceType canonical : SourceType}
    (found : canonicalCommissionSourceType orders fails sourceType tradeNo = some canonical)
    (moved : canonical ≠ sourceType) :
    sourceType = .topup ∧ canonical = .subscription ∧
      orders.subscriptions (trimSpace tradeNo) ≠ none := by
  simp only [canonicalCommissionSourceType] at found
  cases sourceType with
  | redemption =>
    cases found
    exact absurd rfl moved
  | topup =>
    split at found
    · contradiction
    split at found
    · rename_i isThere
      cases found
      exact ⟨rfl, rfl, subscriptionOrderExists_eq_true isThere⟩
    · cases found
      exact absurd rfl moved
  | subscription =>
    split at found
    · contradiction
    split at found
    · cases found
      exact absurd rfl moved
    · cases found

theorem CommissionCall.canonical {call : CommissionCall} {step : CommissionStep}
    (answered : call.Answered orders) (keeps : call.KeepsUsers users)
    (listed : step ∈ call.steps orders) :
    step.Canonical users orders := by
  cases call with
  | processTopUp reads existsFails tradeNo =>
    rw [List.mem_singleton.mp listed]
    exact processTopUpCommission_canonical keeps answered
  | processSubscription reads tradeNo | processRedemption reads redemptionId =>
    rw [List.mem_singleton.mp listed]
    exact keeps
  | markFailed now sourceType tradeNo affiliateId reason =>
    rw [List.mem_singleton.mp listed]
    trivial
  | backfill redemptions reason =>
    obtain ⟨⟨redemptionId, reads⟩, redemptionListed, stepListed⟩ := List.mem_flatMap.mp listed
    rcases List.mem_cons.mp stepListed with rfl | last
    · exact keeps _ redemptionListed
    · rw [List.mem_singleton.mp last]
      trivial
  | retry reads canonicalFails existsFails sourceType tradeNo =>
    simp only [Answered, KeepsUsers, steps] at answered keeps listed
    split at listed
    · cases listed
    split at listed
    · cases listed
    rename_i canonical found
    rcases List.mem_append.mp listed with moving | processing
    · split at moving
      · rename_i moved
        rw [List.mem_singleton.mp moving]
        exact canonicalCommissionSourceType_moved found moved
      · cases moving
    · cases canonical with
      | topup =>
        have same : step = processTopUpCommission orders reads existsFails (trimSpace tradeNo) :=
          List.mem_singleton.mp processing
        rw [same]
        refine processTopUpCommission_canonical ?_ ?_
        · exact keeps
        · rw [trimSpace_trimSpace]
          exact answered
      | subscription =>
        rw [List.mem_singleton.mp processing]
        exact keeps
      | redemption =>
        simp only at processing
        split at processing
        · cases processing
        rw [List.mem_singleton.mp processing]
        exact keeps

/-- The transaction belongs to a call that sees affiliates who keep their
users. -/
def CommissionStep.FromCall
    (users : Int → Int) (orders : PaidOrders) (step : CommissionStep) : Prop :=
  ∃ call : CommissionCall, call.KeepsUsers users ∧ step ∈ call.steps orders

/-- Besides, the lookup of the subscription order does not fail where there is
one. -/
def CommissionStep.FromAnsweredCall
    (users : Int → Int) (orders : PaidOrders) (step : CommissionStep) : Prop :=
  ∃ call : CommissionCall, call.Answered orders ∧ call.KeepsUsers users ∧ step ∈ call.steps orders

theorem CommissionStep.FromAnsweredCall.canonical
    {step : CommissionStep} (answered : step.FromAnsweredCall users orders) :
    step.Canonical users orders := by
  obtain ⟨call, callAnswered, keeps, listed⟩ := answered
  exact call.canonical callAnswered keeps listed

theorem accrued_execute (run : List CommissionTransaction)
    (calls : ∀ transaction ∈ run, transaction.step.FromAnsweredCall users orders) :
    Accrued users orders (execute (commissionTransaction orders) empty run) := by
  apply List.foldlRecOn run (commissionTransaction orders) accrued_empty
  intro db accrued transaction listed
  exact (accrued.transaction (calls transaction listed).canonical).1

end Calls

/-- Every trade number has one commission and one accrual line at most over all
source types, and none of the allowed transactions of an order that has accrued
changes an account or takes its job out of `succeeded`. -/
structure OneCommission (allowed : CommissionStep → Prop) (orders : PaidOrders)
    (db : ReferralDatabase) : Prop where
  commissions : ∀ tradeNo,
    (db.commissions.rows.filter (fun commission => commission.sourceTradeNo = tradeNo)).length ≤ 1
  accruals : ∀ tradeNo,
    (db.ledger.rows.filter (fun line =>
      line.type = .commissionAccrue && line.refId = tradeNo)).length ≤ 1
  again : ∀ commission ∈ db.commissions.rows,
    ∀ transaction : CommissionTransaction,
      allowed transaction.step →
        transaction.step.tradeNo = commission.sourceTradeNo →
          let later := commissionTransaction orders db transaction
          later.accounts = db.accounts ∧
            ∃ job,
              later.jobs.lookup
                    (commission.sourceType, commission.sourceTradeNo) =
                  some job ∧
                job.status = .succeeded

theorem length_filter_le_one {α : Type} {rows : List α} (distinct : rows.Nodup) (test : α → Bool)
    (same : ∀ first ∈ rows, ∀ second ∈ rows,
      test first = true → test second = true → first = second) :
    (rows.filter test).length ≤ 1 := by
  have filtered : (rows.filter test).Nodup := distinct.filter test
  cases passing : rows.filter test with
  | nil => exact Nat.zero_le 1
  | cons first rest =>
    cases rest with
    | nil => exact le_rfl
    | cons second others =>
      exfalso
      have firstPasses : first ∈ rows.filter test := by
        rw [passing]
        exact List.mem_cons_self
      have secondPasses : second ∈ rows.filter test := by
        rw [passing]
        exact List.mem_cons_of_mem _ List.mem_cons_self
      obtain ⟨firstListed, firstTest⟩ := List.mem_filter.mp firstPasses
      obtain ⟨secondListed, secondTest⟩ := List.mem_filter.mp secondPasses
      have equal := same first firstListed second secondListed firstTest secondTest
      rw [passing, equal] at filtered
      exact (List.nodup_cons.mp filtered).1 List.mem_cons_self

theorem Accrued.oneCommission {users : Int → Int} {orders : PaidOrders} {db : ReferralDatabase}
    (accrued : Accrued users orders db) :
    OneCommission (CommissionStep.FromAnsweredCall users orders) orders db where
  commissions tradeNo := by
    refine length_filter_le_one (List.Nodup.of_map _ db.commissions.unique) _ ?_
    intro first firstListed second secondListed firstSame secondSame
    apply accrued.eq_of_tradeNo firstListed secondListed
    rw [of_decide_eq_true firstSame, of_decide_eq_true secondSame]
  accruals tradeNo := by
    refine length_filter_le_one (List.Nodup.of_map _ db.ledger.unique) _ ?_
    intro first firstListed second secondListed firstSame secondSame
    simp only [Bool.and_eq_true, decide_eq_true_eq] at firstSame secondSame
    obtain ⟨left, leftListed, rfl⟩ := accrued.lines first firstListed
    obtain ⟨right, rightListed, rfl⟩ := accrued.lines second secondListed
    have sameCommission : left = right :=
      accrued.eq_of_tradeNo leftListed rightListed (firstSame.2.trans secondSame.2.symm)
    rw [sameCommission]
  again commission listed _ answered sameTradeNo :=
    accrued.again answered.canonical listed sameTradeNo

/-- In every run of the commission jobs whose top-up calls do not lose the
subscription order to a failed lookup, an order has one commission. -/
theorem one_commission_per_order
    (users : Int → Int) (orders : PaidOrders) (run : List CommissionTransaction)
    (calls : ∀ transaction ∈ run, transaction.step.FromAnsweredCall users orders) :
    OneCommission (CommissionStep.FromAnsweredCall users orders) orders
      (execute (commissionTransaction orders) ReferralDatabase.empty run) :=
  (accrued_execute run calls).oneCommission

theorem orderTradeNo_sub : OrderTradeNo "sub" where
  trimmed := by decide +kernel
  nonempty := by decide
  notRedemption id same := by
    have heads := congrArg (fun text => text.toList.head?) same
    simp [redemptionCommissionTradeNo] at heads

def mirroredOrders : PaidOrders where
  topups tradeNo :=
    if tradeNo = "sub" then some { id := 2, userId := 8, affiliateId := 1 }
    else none
  subscriptions tradeNo :=
    if tradeNo = "sub" then some { id := 1, userId := 8, affiliateId := 1 }
    else none
  redemptions _ := none
  topupTradeNo tradeNo order found := by
    split at found
    · rename_i same
      rw [same]
      exact orderTradeNo_sub
    · cases found
  subscriptionTradeNo tradeNo order found := by
    split at found
    · rename_i same
      rw [same]
      exact orderTradeNo_sub
    · cases found

def plainReads : CommissionReads where
  context :=
    { settings := plainSettings
      affiliates := [plainAffiliate]
      faults := {}
      now := 100 }
  order :=
    { success := true
      rate := 100 * moneyScale
      paidAmount := 500
      paidCurrency := "USD"
      referral := { status := none, error := "", at_ := 0 } }
  redemption :=
    { redeemed := false
      affiliateId := 0
      referral := { status := none, error := "", at_ := 0 }
      snapshotMatches := true
      snapshot := none }

theorem plainReads_keepsUsers : KeepsUsers (fun _ => 7) plainReads.context := by
  intro affiliate listed
  rw [List.mem_singleton.mp listed]
  decide

/-- The subscription order is processed, and then its mirror. -/
def mirroredRun (existsFails : Bool) : List CommissionTransaction :=
  [ ⟨.subscription plainReads.context "sub" plainReads.order, false⟩,
    ⟨processTopUpCommission mirroredOrders plainReads existsFails "sub", false⟩ ]

theorem mirroredRun_fromCall (existsFails : Bool) :
    ∀ transaction ∈ mirroredRun existsFails,
      transaction.step.FromCall (fun _ => 7) mirroredOrders := by
  intro transaction listed
  rcases List.mem_cons.mp listed with rfl | last
  · exact ⟨.processSubscription plainReads "sub", plainReads_keepsUsers, List.mem_cons_self⟩
  · rw [List.mem_singleton.mp last]
    exact ⟨.processTopUp plainReads existsFails "sub", plainReads_keepsUsers, List.mem_cons_self⟩

theorem one_commission_of_mirroredRun :
    OneCommission (CommissionStep.FromAnsweredCall (fun _ => 7) mirroredOrders) mirroredOrders
      (execute (commissionTransaction mirroredOrders) ReferralDatabase.empty
        (mirroredRun false)) := by
  apply one_commission_per_order
  intro transaction listed
  rcases List.mem_cons.mp listed with rfl | last
  · exact
      ⟨.processSubscription plainReads "sub", trivial, plainReads_keepsUsers, List.mem_cons_self⟩
  · rw [List.mem_singleton.mp last]
    exact ⟨.processTopUp plainReads false "sub", nofun, plainReads_keepsUsers, List.mem_cons_self⟩

/-- The lookup of the subscription order fails once, and the mirror of the order
accrues a second commission. -/
theorem failed_lookup_accrues_twice :
    ¬ ∀ (users : Int → Int) (orders : PaidOrders) (run : List CommissionTransaction),
      (∀ transaction ∈ run, transaction.step.FromCall users orders) →
        OneCommission (CommissionStep.FromCall users orders) orders
          (execute (commissionTransaction orders) ReferralDatabase.empty run) := by
  intro always
  have one :=
    (always (fun _ => 7) mirroredOrders (mirroredRun true)
      (mirroredRun_fromCall true)).commissions "sub"
  revert one
  decide +kernel

end NewApi.Referral
