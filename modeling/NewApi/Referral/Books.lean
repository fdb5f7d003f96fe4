import NewApi.Referral.Transitions

/-!
# The account equals its documents

Every balance of an affiliate is the sum of its ledger lines and of its
documents.  Each transaction moves an account, its ledger and its documents by
the same amount; `Books.credit` says that this is all it takes.
-/

namespace NewApi.Referral

open Transactions ReferralCommissionAccount KeyedTable Pot

/-- What the documents of an affiliate add up to.  Nothing documents the
available balance, which adjustments change at will. -/
def ReferralDatabase.documents (db : ReferralDatabase) (affiliateId : Int) : Pot → Int
  | .pending => db.pendingCommissions affiliateId
  | .available => 0
  | .frozen => db.withdrawalsIn [.pending, .approved] affiliateId
  | .withdrawn => db.withdrawalsIn [.paid] affiliateId

/-- Amounts per affiliate, with a change booked on one of them. -/
def credit (amounts : Int → Pot → Int) (affiliateId : Int) (change : Pot → Int) :
    Int → Pot → Int :=
  fun other pot => amounts other pot + if other = affiliateId then change pot else 0

/-- The money that a transaction moves into each balance. -/
def Pot.only (target : Pot) (amount : Int) : Pot → Int :=
  fun pot => if pot = target then amount else 0

def Pot.transfer (source target : Pot) (amount : Int) : Pot → Int :=
  fun pot => Pot.only target amount pot - Pot.only source amount pot

structure Books (db : ReferralDatabase) : Prop where
  posted : ∀ affiliateId pot, db.balance affiliateId pot = db.posted affiliateId pot
  documented : ∀ affiliateId pot, pot ≠ .available →
    db.balance affiliateId pot = db.documents affiliateId pot
  nonnegative : ∀ affiliateId pot, 0 ≤ db.balance affiliateId pot
  commissionsPositive : ∀ commission ∈ db.commissions.rows, 0 < commission.commissionAmount
  withdrawalsPositive : ∀ withdrawal ∈ db.withdrawals.rows, 0 < withdrawal.amount

/-- An account row equals its documents and its ledger lines. -/
structure AccountBalanced (db : ReferralDatabase) (account : ReferralCommissionAccount) : Prop where
  pending : account.pendingAmount = db.pendingCommissions account.affiliateId
  frozen : account.frozenAmount = db.withdrawalsIn [.pending, .approved] account.affiliateId
  withdrawn : account.withdrawnAmount = db.withdrawalsIn [.paid] account.affiliateId
  posted : ∀ pot, account.balance pot = db.posted account.affiliateId pot
  nonnegative : ∀ pot, 0 ≤ account.balance pot

section Sheets

variable {db later : ReferralDatabase}

theorem balance_of_lookup {affiliateId : Int} {account : ReferralCommissionAccount}
    (found : db.accounts.lookup affiliateId = some account) (pot : Pot) :
    db.balance affiliateId pot = account.balance pot := by
  simp [ReferralDatabase.balance, found]

theorem Books.account (books : Books db) {account : ReferralCommissionAccount}
    (member : account ∈ db.accounts.rows) :
    AccountBalanced db account := by
  have found : db.accounts.lookup account.affiliateId = some account :=
    lookup_eq_some_iff.mpr ⟨member, rfl⟩
  have balance := fun pot => balance_of_lookup found pot
  refine ⟨?_, ?_, ?_, ?_, ?_⟩
  · exact (balance .pending).symm.trans (books.documented _ .pending nofun)
  · exact (balance .frozen).symm.trans (books.documented _ .frozen nofun)
  · exact (balance .withdrawn).symm.trans (books.documented _ .withdrawn nofun)
  · intro pot
    rw [← balance pot, books.posted]
  · intro pot
    rw [← balance pot]
    exact books.nonnegative _ pot

theorem Books.credit (books : Books db) (affiliateId : Int) (change : Pot → Int)
    (balance : later.balance = Referral.credit db.balance affiliateId change)
    (posted : later.posted = Referral.credit db.posted affiliateId change)
    (documents : ∀ other pot, pot ≠ .available →
      later.documents other pot = Referral.credit db.documents affiliateId change other pot)
    (covered : ∀ pot, 0 ≤ db.balance affiliateId pot + change pot)
    (commissionsPositive : ∀ commission ∈ later.commissions.rows, 0 < commission.commissionAmount)
    (withdrawalsPositive : ∀ withdrawal ∈ later.withdrawals.rows, 0 < withdrawal.amount) :
    Books later := by
  refine ⟨?_, ?_, ?_, commissionsPositive, withdrawalsPositive⟩
  · intro other pot
    simp only [balance, posted, Referral.credit, books.posted]
  · intro other pot documented
    simp only [balance, documents other pot documented, Referral.credit,
      books.documented other pot documented]
  · intro other pot
    simp only [balance, Referral.credit]
    by_cases same : other = affiliateId
    · rw [if_pos same, same]
      exact covered pot
    · rw [if_neg same, add_zero]
      exact books.nonnegative other pot

end Sheets

/-- A change of the account row moves its balances by the given amounts. -/
structure MovesBy (update : ReferralCommissionAccount → ReferralCommissionAccount)
    (change : Pot → Int) : Prop where
  sameKey : ∀ row, (update row).affiliateId = row.affiliateId
  moves : ∀ row pot, (update row).balance pot = row.balance pot + change pot

theorem movesBy_accrue (amount : Int) : MovesBy (·.accrue amount) (only .pending amount) := by
  refine ⟨fun _ => rfl, ?_⟩
  intro row pot
  cases pot <;> simp [balance, accrue, only]

theorem movesBy_settle (amount : Int) :
    MovesBy (·.settle amount) (transfer .pending .available amount) := by
  refine ⟨fun _ => rfl, ?_⟩
  intro row pot
  cases pot <;>
    simp [balance, settle, transfer, only, sub_eq_add_neg]

theorem movesBy_freeze (amount : Int) :
    MovesBy (·.freeze amount) (transfer .available .frozen amount) := by
  refine ⟨fun _ => rfl, ?_⟩
  intro row pot
  cases pot <;>
    simp [balance, freeze, transfer, only, sub_eq_add_neg]

theorem movesBy_release (amount : Int) :
    MovesBy (·.release amount) (transfer .frozen .available amount) := by
  refine ⟨fun _ => rfl, ?_⟩
  intro row pot
  cases pot <;>
    simp [balance, release, transfer, only, sub_eq_add_neg]

theorem movesBy_pay (amount : Int) :
    MovesBy (·.pay amount) (transfer .frozen .withdrawn amount) := by
  refine ⟨fun _ => rfl, ?_⟩
  intro row pot
  cases pot <;>
    simp [balance, pay, transfer, only, sub_eq_add_neg]

theorem movesBy_adjust (delta : Int) : MovesBy (·.adjust delta) (only .available delta) := by
  refine ⟨fun _ => rfl, ?_⟩
  intro row pot
  cases pot <;> simp [balance, adjust, only]

theorem transfer_covered {row : ReferralCommissionAccount} {source target : Pot} {amount : Int}
    (positive : 0 < amount) (enough : amount ≤ row.balance source)
    (nonnegative : ∀ pot, 0 ≤ row.balance pot) (pot : Pot) :
    0 ≤ row.balance pot + transfer source target amount pot := by
  have before := nonnegative pot
  simp only [transfer, only]
  by_cases isSource : pot = source
  · rw [isSource]
    split <;> simp <;> omega
  · split <;> omega


section Statements

variable {db later : ReferralDatabase} {affiliateId userId : Int}
  {account : ReferralCommissionAccount}

theorem balance_opened (done : getOrCreateAccountTx db affiliateId userId = .ok (later, account)) :
    later.balance = db.balance := by
  obtain ⟨_, _, accounts⟩ := getOrCreateAccountTx_cases done
  funext other pot
  rcases accounts other with same | ⟨_, absent, opened⟩
  · simp only [ReferralDatabase.balance, same]
  · simp only [ReferralDatabase.balance, absent, opened]
    cases pot <;> rfl

theorem balance_updated {guard : ReferralCommissionAccount → Bool}
    {update : ReferralCommissionAccount → ReferralCommissionAccount}
    {change : Pot → Int} (movesBy : MovesBy update change)
    (done : updateAccount db affiliateId guard update = some later) :
    later.balance = credit db.balance affiliateId change := by
  obtain ⟨row, found, _, rfl⟩ := updateAccount_cases done
  have rowKey : row.affiliateId = affiliateId := key_of_lookup found
  funext other pot
  simp only [ReferralDatabase.balance, credit, lookup_save, movesBy.sameKey, rowKey]
  by_cases same : affiliateId = other
  · rw [if_pos same, if_pos same.symm, ← same, found]
    simp [movesBy.moves]
  · rw [if_neg same, if_neg (Ne.symm same), add_zero]

theorem posted_created {line : ReferralCommissionLedger}
    (done : createLedgerTx db line = .ok later) :
    later.posted = credit db.posted line.affiliateId line.delta := by
  obtain ⟨ledger, created, rfl⟩ := createLedgerTx_cases done
  funext other pot
  simp only [ReferralDatabase.posted, credit, total_create _ created]
  congr 1
  by_cases same : line.affiliateId = other
  · rw [if_pos same, if_pos same.symm]
  · rw [if_neg same, if_neg (Ne.symm same)]

end Statements

/-! ## Items and jobs -/

/-- The two states have the same accounts, ledger and documents. -/
structure SameSheet (db later : ReferralDatabase) : Prop where
  accounts : later.accounts = db.accounts
  ledger : later.ledger = db.ledger
  withdrawals : later.withdrawals = db.withdrawals
  pending : later.pendingCommissions = db.pendingCommissions
  commissionsPositive :
    (∀ commission ∈ db.commissions.rows, 0 < commission.commissionAmount) →
      ∀ commission ∈ later.commissions.rows, 0 < commission.commissionAmount

section Frames

variable {db middle later : ReferralDatabase} {now : Int}

theorem SameSheet.refl (db : ReferralDatabase) : SameSheet db db := ⟨rfl, rfl, rfl, rfl, id⟩

theorem SameSheet.trans (first : SameSheet db middle) (second : SameSheet middle later) :
    SameSheet db later where
  accounts := second.accounts.trans first.accounts
  ledger := second.ledger.trans first.ledger
  withdrawals := second.withdrawals.trans first.withdrawals
  pending := second.pending.trans first.pending
  commissionsPositive := second.commissionsPositive ∘ first.commissionsPositive

theorem SameSheet.balance (same : SameSheet db later) : later.balance = db.balance := by
  funext affiliateId pot
  simp only [ReferralDatabase.balance, same.accounts]

theorem SameSheet.posted (same : SameSheet db later) : later.posted = db.posted := by
  funext affiliateId pot
  simp only [ReferralDatabase.posted, same.ledger]

theorem SameSheet.documents (same : SameSheet db later) : later.documents = db.documents := by
  funext affiliateId pot
  cases pot with
  | pending => exact congrFun same.pending affiliateId
  | available => rfl
  | frozen | withdrawn =>
    simp only [ReferralDatabase.documents, ReferralDatabase.withdrawalsIn, same.withdrawals]

theorem Books.sameSheet (books : Books db) (same : SameSheet db later) : Books later where
  posted := by
    rw [same.balance, same.posted]
    exact books.posted
  documented := by
    rw [same.balance, same.documents]
    exact books.documented
  nonnegative := by
    rw [same.balance]
    exact books.nonnegative
  commissionsPositive := same.commissionsPositive books.commissionsPositive
  withdrawalsPositive := by
    rw [same.withdrawals]
    exact books.withdrawalsPositive

theorem syncCommissionStatusTx_frame {commissionId : Int}
    (done : syncCommissionStatusTx now db commissionId = .ok later) :
    SameSheet db later := by
  unfold syncCommissionStatusTx at done
  cases found : db.commissions.lookup commissionId with
  | none => simp [found] at done
  | some commission =>
    simp only [found] at done
    by_cases pending : commission.status = .pending
    · rw [if_pos pending] at done
      cases done
      exact SameSheet.refl db
    · rw [if_neg pending] at done
      cases done
      have settled : ∀ amount : Int,
          deriveCommissionStatusTx db commissionId amount ≠ .pending := by
        intro amount
        unfold deriveCommissionStatusTx
        split
        · rintro ⟨⟩
        · split <;> rintro ⟨⟩
      have commissionKey : commission.id = commissionId := key_of_lookup found
      refine ⟨rfl, rfl, rfl, ?_, ?_⟩
      · funext affiliateId
        simp only [ReferralDatabase.pendingCommissions]
        rw [total_save _ _ (commissionKey ▸ found)]
        simp [pending, settled]
      · intro positive row listed
        rcases mem_rows_save listed with new | old
        · rw [new]
          exact positive commission (lookup_eq_some_iff.mp found).1
        · exact positive row old

variable {withdrawalId : Int} {change : ReferralWithdrawalItem → ReferralWithdrawalItem}

theorem createItem_frame {commissionId amount : Int}
    (done : createItem db withdrawalId commissionId amount = .ok later) :
    SameSheet db later := by
  unfold createItem at done
  split at done
  · cases done
    exact ⟨rfl, rfl, rfl, rfl, id⟩
  · cases done

theorem endItem_frame {item : ReferralWithdrawalItem}
    (done : endItem now change db item = .ok later) :
    SameSheet db later := by
  have saved : SameSheet db { db with items := db.items.save (change item) } :=
    ⟨rfl, rfl, rfl, rfl, id⟩
  unfold endItem at done
  by_cases placeholder : item.commissionId ≤ 0
  · simp only [if_pos placeholder, Except.ok.injEq] at done
    exact done ▸ saved
  · simp only [if_neg placeholder] at done
    exact saved.trans (syncCommissionStatusTx_frame done)

theorem endItems_frame {items : List ReferralWithdrawalItem}
    (done : items.foldlM (endItem now change) db = .ok later) :
    SameSheet db later := by
  refine foldlM_invariant (SameSheet db) ?_ done (SameSheet.refl db)
  intro state item next _ step same
  exact same.trans (endItem_frame step)

theorem allocateFromCommission_frame {remaining left : Int} {commission : ReferralCommission}
    (done :
      allocateFromCommission now withdrawalId (db, remaining) commission = .ok (later, left)) :
    SameSheet db later := by
  simp only [allocateFromCommission] at done
  split at done
  · cases done
    exact SameSheet.refl db
  · split at done
    · cases done
      exact SameSheet.refl db
    · obtain ⟨created, creation, done⟩ := bind_ok_iff.mp done
      obtain ⟨synced, sync, done⟩ := bind_ok_iff.mp done
      cases done
      exact (createItem_frame creation).trans (syncCommissionStatusTx_frame sync)

theorem allocateWithdrawalItemsTx_frame {affiliateId amount : Int}
    (done : allocateWithdrawalItemsTx now db affiliateId withdrawalId amount = .ok later) :
    SameSheet db later := by
  obtain ⟨⟨allocated, remaining⟩, allocation, done⟩ := bind_ok_iff.mp done
  have same : SameSheet db allocated := by
    refine foldlM_invariant (fun progress => SameSheet db progress.1)
      ?_ allocation (SameSheet.refl db)
    rintro ⟨state, left⟩ commission ⟨next, nextLeft⟩ _ step same
    exact same.trans (allocateFromCommission_frame step)
  simp only at done
  split at done
  · exact same.trans (createItem_frame done)
  · cases done
    exact same

end Frames

theorem Books.opened {db later : ReferralDatabase} {affiliateId userId : Int}
    {account : ReferralCommissionAccount} (books : Books db)
    (opening : getOrCreateAccountTx db affiliateId userId = .ok (later, account)) :
    Books later := by
  obtain ⟨laterEq, _, _⟩ := getOrCreateAccountTx_cases opening
  have sameBalance := balance_opened opening
  have samePosted : later.posted = db.posted := by
    rw [laterEq]
    rfl
  have sameDocuments : later.documents = db.documents := by
    rw [laterEq]
    funext other pot
    cases pot <;> rfl
  refine ⟨?_, ?_, ?_, ?_, ?_⟩
  · rw [sameBalance, samePosted]
    exact books.posted
  · rw [sameBalance, sameDocuments]
    exact books.documented
  · rw [sameBalance]
    exact books.nonnegative
  · rw [laterEq]
    exact books.commissionsPositive
  · rw [laterEq]
    exact books.withdrawalsPositive

/-- The common shape of the money transactions: a document changes, the account
moves by the same amounts under a guard that covers them, items follow, and a
ledger line posts the amounts. -/
theorem Books.booked {db documented updated itemed later : ReferralDatabase} {affiliateId : Int}
    {guard : ReferralCommissionAccount → Bool}
    {update : ReferralCommissionAccount → ReferralCommissionAccount}
    {line : ReferralCommissionLedger} (books : Books db) (change : Pot → Int)
    (sameBalance : documented.balance = db.balance) (samePosted : documented.posted = db.posted)
    (documents : ∀ other pot, pot ≠ .available →
      documented.documents other pot = Referral.credit db.documents affiliateId change other pot)
    (commissionsPositive : ∀ commission ∈ documented.commissions.rows,
      0 < commission.commissionAmount)
    (withdrawalsPositive : ∀ withdrawal ∈ documented.withdrawals.rows, 0 < withdrawal.amount)
    (movesBy : MovesBy update change)
    (moved : updateAccount documented affiliateId guard update = some updated)
    (same : SameSheet updated itemed) (posting : createLedgerTx itemed line = .ok later)
    (lineAffiliate : line.affiliateId = affiliateId) (lineDelta : line.delta = change)
    (covered : ∀ row, guard row = true → (∀ pot, 0 ≤ row.balance pot) →
      ∀ pot, 0 ≤ row.balance pot + change pot) :
    Books later := by
  obtain ⟨row, found, allowed, updatedEq⟩ := updateAccount_cases moved
  obtain ⟨ledger, _, laterEq⟩ := createLedgerTx_cases posting
  have updatedBalance := balance_updated movesBy moved
  have updatedPosted : updated.posted = documented.posted := by
    rw [updatedEq]
    rfl
  have updatedDocuments : updated.documents = documented.documents := by
    rw [updatedEq]
    funext other pot
    cases pot <;> rfl
  have laterDocuments : later.documents = itemed.documents := by
    rw [laterEq]
    funext other pot
    cases pot <;> rfl
  have rowBalance : ∀ pot, db.balance affiliateId pot = row.balance pot := by
    intro pot
    rw [← sameBalance]
    exact balance_of_lookup found pot
  refine books.credit affiliateId change ?_ ?_ ?_ ?_ ?_ ?_
  · rw [laterEq]
    change itemed.balance = _
    rw [same.balance, updatedBalance, sameBalance]
  · rw [posted_created posting, same.posted, updatedPosted, samePosted, lineAffiliate, lineDelta]
  · intro other pot documentedPot
    rw [laterDocuments, same.documents, updatedDocuments]
    exact documents other pot documentedPot
  · intro pot
    rw [rowBalance pot]
    apply covered row allowed
    intro other
    rw [← rowBalance other]
    exact books.nonnegative affiliateId other
  · rw [laterEq]
    apply same.commissionsPositive
    rw [updatedEq]
    exact commissionsPositive
  · rw [laterEq]
    rw [same.withdrawals, updatedEq]
    exact withdrawalsPositive

end NewApi.Referral
