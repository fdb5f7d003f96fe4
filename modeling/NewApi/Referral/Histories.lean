import NewApi.Lib.Persistence
import NewApi.Referral.SettlementQueue

/-!
# Histories of the referral tables

What a later state keeps of an earlier one, whatever ran in between.  The keys of
adjustments and withdrawals are single-use for this reason.
-/

namespace NewApi.Referral

open GoStrings Transactions KeyedTable

/-- The statuses a withdrawal can still take. -/
def WithdrawalStatus.leadsTo : WithdrawalStatus → WithdrawalStatus → Bool
  | .pending, _ => true
  | .approved, after => after ≠ .pending
  | before, after => after = before

/-- Review and payment write into an open withdrawal only, and of the request
itself nothing changes. -/
structure WithdrawalFollows (before after : ReferralWithdrawal) : Prop where
  leads : before.status.leadsTo after.status
  request : after = { before with status := after.status, review := after.review }
  closed : before.status.itemStatus ≠ .frozen → after = before

def OwedFollows (before after : Owed) : Prop :=
  after.amount = before.amount ∧ (before.settled = true → after.settled = true)

/-- Ledger lines never change, accounts stay with their users, withdrawals change
only by the review and until they are closed, and no commission changes its
amount or becomes unsettled. -/
structure Follows (db later : ReferralDatabase) : Prop where
  accounts : RowsStay (fun before after => after.userId = before.userId)
    db.accounts.lookup later.accounts.lookup
  ledger : RowsStay Eq db.ledger.lookup later.ledger.lookup
  withdrawals : RowsStay WithdrawalFollows db.withdrawals.lookup later.withdrawals.lookup
  owed : RowsStay OwedFollows db.owed later.owed

section Statements

theorem WithdrawalFollows.refl (withdrawal : ReferralWithdrawal) :
    WithdrawalFollows withdrawal withdrawal := by
  refine ⟨?_, rfl, fun _ => rfl⟩
  cases withdrawal.status <;> rfl

theorem WithdrawalFollows.trans (first second third : ReferralWithdrawal)
    (left : WithdrawalFollows first second) (right : WithdrawalFollows second third) :
    WithdrawalFollows first third := by
  refine ⟨?_, by rw [right.request, left.request], ?_⟩
  rotate_left
  · intro closed
    obtain rfl := left.closed closed
    exact right.closed closed
  have leads := left.leads
  have further := right.leads
  revert leads further
  cases first.status <;> cases second.status <;> cases third.status <;> decide

theorem OwedFollows.refl (entry : Owed) : OwedFollows entry entry := ⟨rfl, id⟩

variable {db middle later : ReferralDatabase}

theorem Follows.trans (first : Follows db middle) (second : Follows middle later) :
    Follows db later where
  accounts := first.accounts.trans (fun _ _ _ left right => right.trans left) second.accounts
  ledger := first.ledger.trans (fun _ _ _ => Eq.trans) second.ledger
  withdrawals := first.withdrawals.trans WithdrawalFollows.trans second.withdrawals
  owed := first.owed.trans
    (fun _ _ _ left right => ⟨right.1.trans left.1, right.2 ∘ left.2⟩) second.owed

theorem Follows.frame (sameAccounts : later.accounts = db.accounts)
    (sameLedger : later.ledger = db.ledger) (sameWithdrawals : later.withdrawals = db.withdrawals)
    (sameOwed : later.owed = db.owed) :
    Follows db later where
  accounts := .of_eq (fun _ => rfl) (congrArg _ sameAccounts)
  ledger := .of_eq (fun _ => rfl) (congrArg _ sameLedger)
  withdrawals := .of_eq WithdrawalFollows.refl (congrArg _ sameWithdrawals)
  owed := .of_eq OwedFollows.refl sameOwed

theorem Follows.refl (db : ReferralDatabase) : Follows db db := .frame rfl rfl rfl rfl

theorem follows_posted {line : ReferralCommissionLedger}
    (posting : createLedgerTx db line = .ok later) :
    Follows db later := by
  obtain ⟨ledger, created, rfl⟩ := createLedgerTx_cases posting
  exact { Follows.refl db with ledger := .create (fun _ => rfl) created }

theorem follows_opened {affiliateId userId : Int} {account : ReferralCommissionAccount}
    (opening : getOrCreateAccountTx db affiliateId userId = .ok (later, account)) :
    Follows db later := by
  obtain ⟨laterEq, _, lookup⟩ := getOrCreateAccountTx_cases opening
  rw [laterEq]
  refine { Follows.refl db with accounts := ?_ }
  intro id row found
  rcases lookup id with same | ⟨_, absent, _⟩
  · exact ⟨row, same.trans found, rfl⟩
  · rw [found] at absent
    cases absent

theorem follows_updated {affiliateId : Int} {guard : ReferralCommissionAccount → Bool}
    {update : ReferralCommissionAccount → ReferralCommissionAccount}
    (moved : updateAccount db affiliateId guard update = some later)
    (keeps : ∀ row, (update row).affiliateId = row.affiliateId ∧ (update row).userId = row.userId) :
    Follows db later := by
  obtain ⟨row, found, _, rfl⟩ := updateAccount_cases moved
  refine { Follows.refl db with accounts := .save (fun _ => rfl) ?_ (keeps row).2 }
  rw [(keeps row).1, key_of_lookup found]
  exact found

theorem follows_saveWithdrawal {withdrawal : ReferralWithdrawal} {status : WithdrawalStatus}
    {review : WithdrawalReview} (found : db.withdrawals.lookup withdrawal.id = some withdrawal)
    (isOpen : withdrawal.status.itemStatus = .frozen)
    (leads : withdrawal.status.leadsTo status) :
    Follows db (db.saveWithdrawal { withdrawal with status := status, review := review }) :=
  { Follows.refl db with
    withdrawals := .save WithdrawalFollows.refl found ⟨leads, rfl, absurd isOpen⟩ }

theorem follows_endItems {now : Int} {change : ReferralWithdrawalItem → ReferralWithdrawalItem}
    {items : List ReferralWithdrawalItem} (loop : items.foldlM (endItem now change) db = .ok later) :
    Follows db later :=
  have frame := endItems_frame loop
  .frame frame.accounts frame.ledger frame.withdrawals (owed_endItems loop)

end Statements

theorem Follows.transition {Amounts : Int → Prop} {db later : ReferralDatabase}
    (transition : Transition Amounts db later) :
    Follows db later := by
  cases transition with
  | jobs jobs => exact .frame rfl rfl rfl rfl
  | opened opening => exact follows_opened opening
  | @accrued _ _ _ commission commissions _ _ created _ _ _ _ opening moved posting =>
    have entered : Follows db { db with commissions := commissions } := by
      refine { Follows.refl db with owed := .enter OwedFollows.refl (owed_created created) ?_ }
      intro entry found
      simp [ReferralDatabase.owed, (lookup_create created).1] at found
    exact ((entered.trans (follows_opened opening)).trans
      (follows_updated moved fun _ => ⟨rfl, rfl⟩)).trans (follows_posted posting)
  | @settled _ _ row _ now found _ _ moved posting =>
    have entered : Follows db
        { db with commissions := db.commissions.save (settledRow row now) } := by
      refine { Follows.refl db with owed := .enter OwedFollows.refl (owed_settled found) ?_ }
      intro entry stored
      rw [ReferralDatabase.owed, found] at stored
      cases stored
      exact ⟨rfl, fun _ => rfl⟩
    exact (entered.trans (follows_updated moved fun _ => ⟨rfl, rfl⟩)).trans (follows_posted posting)
  | booked now newId owner pending positive booking =>
    obtain ⟨updated, withdrawals, itemed, moved, created, allocation, posting⟩ :=
      bookWithdrawalTx_cases booking
    have same := (sameDocuments_updated moved).2.2
    have booked : Follows updated { updated with withdrawals := withdrawals } :=
      { Follows.refl updated with
        withdrawals := .create WithdrawalFollows.refl (same ▸ created) }
    have frame := allocateWithdrawalItemsTx_frame allocation
    exact (((follows_updated moved fun _ => ⟨rfl, rfl⟩).trans booked).trans
      (.frame frame.accounts frame.ledger frame.withdrawals
        (owed_allocateWithdrawalItemsTx allocation))).trans (follows_posted posting)
  | approved found pending _ _ _ posting =>
    refine (follows_saveWithdrawal found ?_ ?_).trans (follows_posted posting)
    · rw [pending]
      rfl
    · rw [pending]
      rfl
  | released now found isOpen closed _ release =>
    obtain ⟨updated, update, release⟩ := bind_ok_iff.mp release
    obtain ⟨itemed, loop, posting⟩ := bind_ok_iff.mp release
    refine (((follows_saveWithdrawal found ?_ ?_).trans
      (follows_updated (requireRow_eq_ok.mp update) fun _ => ⟨rfl, rfl⟩)).trans
      (follows_endItems loop)).trans (follows_posted posting)
    · rcases isOpen with same | same <;> rw [same] <;> rfl
    · rcases isOpen with same | same <;> rcases closed with rfl | rfl <;> rw [same] <;> decide
  | paid now found approved payment =>
    obtain ⟨updated, update, payment⟩ := bind_ok_iff.mp payment
    obtain ⟨itemed, loop, posting⟩ := bind_ok_iff.mp payment
    refine (((follows_saveWithdrawal found ?_ ?_).trans
      (follows_updated (requireRow_eq_ok.mp update) fun _ => ⟨rfl, rfl⟩)).trans
      (follows_endItems loop)).trans (follows_posted posting)
    · rw [approved]
      rfl
    · rw [approved]
      decide
  | adjusted _ _ _ posting moved =>
    exact (follows_posted posting).trans (follows_updated moved fun _ => ⟨rfl, rfl⟩)

theorem Follows.execute (db : ReferralDatabase) (calls : List ReferralCall) :
    Follows db (execute referralStep db calls) := by
  refine execute_related Follows.refl (fun _ _ _ => Follows.trans) ?_ db calls
  intro state call
  exact referralStep_invariant (fun _ _ transition before => before.trans (.transition transition))
    (call.operation.settlesOnly_true state) (.refl state)

section Keys

variable {affiliates current : List ReferralAffiliate} {db later : ReferralDatabase}

theorem adjustment_replayed {input : AdjustInput}
    (done : adjustAffiliateCommission affiliates db input = .ok later)
    (sameAffiliate : current.find? (fun row => row.userId = input.userId) =
      affiliates.find? (fun row => row.userId = input.userId))
    (calls : List ReferralCall) :
    adjustAffiliateCommission current (execute referralStep later calls) input =
      .ok (execute referralStep later calls) := by
  have follows := Follows.execute later calls
  unfold adjustAffiliateCommission at done ⊢
  split at done
  · cases done
  split at done
  · cases done
  split at done
  · cases done
  rename_i valid nonzero keyed
  rw [if_neg valid, if_neg nonzero, if_neg keyed, sameAffiliate]
  split at done
  · cases done
  rename_i affiliate _
  obtain ⟨⟨opened, account⟩, opening, done⟩ := bind_ok_iff.mp done
  obtain ⟨_, accountFound, _⟩ := getOrCreateAccountTx_cases opening
  have kept : (∃ row, later.accounts.lookup affiliate.id = some row) ∧
      ∃ line, later.ledger.lookup (.adjust (trimSpace input.idempotencyKey)) = some line ∧
        sameAdjustmentPayload line affiliate.id affiliate.userId input.delta input.remark =
          true := by
    simp only at done
    split at done
    · rename_i existing found
      split at done
      · cases done
        exact ⟨⟨account, accountFound⟩, existing, found, by assumption⟩
      · cases done
    obtain ⟨posted, posting, done⟩ := bind_ok_iff.mp done
    have moved := follows_updated (requireRow_eq_ok.mp done) fun _ => ⟨rfl, rfl⟩
    obtain ⟨row, rowFound, _⟩ :=
      ((follows_posted posting).trans moved).accounts _ _ accountFound
    obtain ⟨ledger, created, rfl⟩ := createLedgerTx_cases posting
    obtain ⟨line, lineFound, rfl⟩ :=
      moved.ledger _ _ (((lookup_create created).2 _).trans (if_pos rfl))
    refine ⟨⟨row, rowFound⟩, _, lineFound, ?_⟩
    simp [sameAdjustmentPayload, trimSpace_trimSpace]
  obtain ⟨⟨row, rowFound⟩, line, lineFound, same⟩ := kept
  obtain ⟨current, currentFound, _⟩ := follows.accounts _ _ rowFound
  obtain ⟨_, stored, rfl⟩ := follows.ledger _ _ lineFound
  simp [getOrCreateAccountTx, currentFound, stored, same, bind, Except.bind]
  rfl

theorem adjustment_replayed_once :
    ∃ later, adjustAffiliateCommission [plainAffiliate] .empty ⟨7, 1, 5, "", "key"⟩ = .ok later ∧
      adjustAffiliateCommission [plainAffiliate] (execute referralStep later withdrawingRun)
        ⟨7, 1, 5, "", "key"⟩ = .ok (execute referralStep later withdrawingRun) :=
  exists_ok (by decide +kernel) fun _ done => adjustment_replayed done rfl withdrawingRun

variable {settings : ReferralSettings} {enabled : Bool}
  {asset : String → Except ReferralError String} {now : Int} {input : WithdrawalCreateInput}

/-- The request repeats a withdrawal. -/
def ReferralDatabase.keyUsed (db : ReferralDatabase) (input : WithdrawalCreateInput) : Prop :=
  ∃ id row, db.withdrawals.lookup id = some row ∧ row.userId = input.userId ∧
    row.idempotencyKey = trimSpace input.idempotencyKey

theorem createWithdrawal_keyUsed
    (done : createWithdrawal settings affiliates enabled asset now db input = .ok later) :
    later.keyUsed input ∧ (db.keyUsed input → later = db) := by
  rcases createWithdrawal_cases done with
    ⟨rfl, row, found⟩ | ⟨absent, _, withdrawal, ⟨_, _, _, _, owned⟩, booking⟩
  · have owner := List.find?_some found
    simp only [Bool.and_eq_true, decide_eq_true_eq] at owner
    have member := List.mem_of_find?_eq_some found
    exact ⟨⟨row.id, row, lookup_eq_some_iff.mpr ⟨member, rfl⟩, owner⟩, fun _ => rfl⟩
  · obtain ⟨updated, withdrawals, itemed, moved, stored, allocation, posting⟩ :=
      bookWithdrawalTx_cases booking
    refine ⟨⟨withdrawal.id, withdrawal, ?_, owned⟩, ?_⟩
    · rw [(sameDocuments_posted posting).2.2,
        (allocateWithdrawalItemsTx_frame allocation).withdrawals]
      exact ((lookup_create stored).2 _).trans (if_pos rfl)
    · rintro ⟨id, row, found, owner, key⟩
      have member := (lookup_eq_some_iff.mp found).1
      have differs := List.find?_eq_none.mp absent row member
      simp [owner, key] at differs

theorem withdrawal_key_single_use {repeated : WithdrawalCreateInput}
    (done : createWithdrawal settings affiliates enabled asset now db input = .ok later)
    (sameUser : repeated.userId = input.userId)
    (sameKey : trimSpace repeated.idempotencyKey = trimSpace input.idempotencyKey)
    (calls : List ReferralCall) (settings : ReferralSettings)
    (affiliates : List ReferralAffiliate) (enabled : Bool)
    (asset : String → Except ReferralError String) (now : Int) (aborted : Bool) :
    referralStep (execute referralStep later calls)
        ⟨.createWithdrawal settings affiliates enabled asset now repeated, aborted⟩ =
      execute referralStep later calls := by
  obtain ⟨id, row, found, owner, key⟩ := (createWithdrawal_keyUsed done).1
  obtain ⟨next, nextFound, _, same⟩ := (Follows.execute later calls).withdrawals id row found
  have used : (execute referralStep later calls).keyUsed repeated := by
    refine ⟨id, next, nextFound, ?_⟩
    rw [same, sameUser, sameKey]
    exact ⟨owner, key⟩
  unfold referralStep
  split
  · rfl
  generalize ran : ReferralOperation.run _ _ = outcome
  cases outcome with
  | error err => rfl
  | ok state => exact (createWithdrawal_keyUsed ran).2 used

def payingRun : List ReferralCall :=
  [ ⟨.approveWithdrawal 400 173200 ⟨1, 1, "checked"⟩, false⟩,
    ⟨.markWithdrawalPaid 500 .ok ⟨1, 1, ""⟩ "proof" "transfer", false⟩ ]

theorem withdrawal_key_single_use_twice :
    ∃ later, createWithdrawal plainSettings [plainAffiliate] true .ok 300
        (execute referralStep .empty (withdrawingRun.take 2)) (plainWithdrawal "first" 200) =
          .ok later ∧
      referralStep (execute referralStep later payingRun)
          ⟨.createWithdrawal plainSettings [plainAffiliate] true .ok 600
            (plainWithdrawal " first" 100), false⟩ =
        execute referralStep later payingRun :=
  exists_ok (by decide +kernel) fun _ done =>
    withdrawal_key_single_use done (by rfl) (by decide +kernel) payingRun _ _ _ _ _ _

example : ((execute referralStep .empty (withdrawingRun ++ payingRun)).withdrawals.lookup 1).map
    (fun row => (row.status, row.review.payoutDeadlineAt)) = some (.paid, 173200) := by
  decide +kernel

end Keys

end NewApi.Referral
