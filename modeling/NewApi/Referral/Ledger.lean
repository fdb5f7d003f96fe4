import NewApi.Lib.GoStrings
import NewApi.Lib.Totals
import NewApi.Lib.Transactions
import NewApi.Referral.Records

/-!
# The referral account

The tables that carry the money of affiliates, and the statements that all
referral transactions share: finding or opening an account, moving an amount
from one balance of it to another, and writing a ledger line.
-/

namespace NewApi.Referral

inductive ReferralError where
  | text (message : String)
  | recordNotFound
  | duplicatedKey
  deriving DecidableEq, Repr

structure ReferralDatabase where
  accounts : KeyedTable ReferralCommissionAccount.affiliateId
  commissions : KeyedTable ReferralCommission.id
  ledger : KeyedTable ReferralCommissionLedger.externalRefId
  withdrawals : KeyedTable ReferralWithdrawal.id
  items : KeyedTable ReferralWithdrawalItem.id
  jobs : KeyedTable ReferralCommissionJob.source

def ReferralDatabase.empty : ReferralDatabase where
  accounts := .empty
  commissions := .empty
  ledger := .empty
  withdrawals := .empty
  items := .empty
  jobs := .empty

/-- The id that the database gives to the next row: one more than all before. -/
def nextId (ids : List Int) : Int := ids.foldr max 0 + 1

theorem nextId_pos (ids : List Int) : 0 < nextId ids := by
  have nonnegative : 0 ≤ ids.foldr max 0 := by
    induction ids with
    | nil => exact le_refl 0
    | cons head tail ih =>
      simp only [List.foldr_cons]
      omega
  unfold nextId
  omega

def getOrCreateAccountTx (db : ReferralDatabase) (affiliateId userId : Int) :
    Except ReferralError (ReferralDatabase × ReferralCommissionAccount) :=
  match db.accounts.lookup affiliateId with
  | some account => .ok (db, account)
  | none =>
    match db.accounts.rows.find? (fun account => account.userId = userId) with
    | some account =>
      if account.affiliateId ≠ affiliateId then
        .error
          (.text
            ("referral account uniqueness mismatch: affiliate_id=" ++
              toString affiliateId ++ " user_id=" ++ toString userId ++
              " existing_affiliate_id=" ++ toString account.affiliateId))
      else .ok (db, account)
    | none =>
      let account : ReferralCommissionAccount := { affiliateId := affiliateId, userId := userId }
      .ok ({ db with accounts := db.accounts.insertIgnore account }, account)

namespace ReferralCommissionAccount

def accrue (amount : Int) (account : ReferralCommissionAccount) :
    ReferralCommissionAccount :=
  { account with pendingAmount := account.pendingAmount + amount }

def settle (amount : Int) (account : ReferralCommissionAccount) :
    ReferralCommissionAccount :=
  { account with
    pendingAmount := account.pendingAmount - amount
    availableAmount := account.availableAmount + amount }

def freeze (amount : Int) (account : ReferralCommissionAccount) :
    ReferralCommissionAccount :=
  { account with
    availableAmount := account.availableAmount - amount
    frozenAmount := account.frozenAmount + amount }

def release (amount : Int) (account : ReferralCommissionAccount) :
    ReferralCommissionAccount :=
  { account with
    frozenAmount := account.frozenAmount - amount
    availableAmount := account.availableAmount + amount }

def pay (amount : Int) (account : ReferralCommissionAccount) :
    ReferralCommissionAccount :=
  { account with
    frozenAmount := account.frozenAmount - amount
    withdrawnAmount := account.withdrawnAmount + amount }

def adjust (delta : Int) (account : ReferralCommissionAccount) :
    ReferralCommissionAccount :=
  { account with availableAmount := account.availableAmount + delta }

end ReferralCommissionAccount

/-- An update of the account row under a condition on it; the number of rows
affected is one or zero. -/
def updateAccount (db : ReferralDatabase) (affiliateId : Int)
    (guard : ReferralCommissionAccount → Bool)
    (change : ReferralCommissionAccount → ReferralCommissionAccount) :
    Option ReferralDatabase :=
  match db.accounts.lookup affiliateId with
  | none => none
  | some account =>
    if guard account then some { db with accounts := db.accounts.save (change account) }
    else none

def createLedgerTx (db : ReferralDatabase) (line : ReferralCommissionLedger) :
    Except ReferralError ReferralDatabase :=
  match db.ledger.create line with
  | some ledger => .ok { db with ledger := ledger }
  | none => .error .duplicatedKey

def requireRow {α : Type} (message : String) : Option α → Except ReferralError α
  | some value => .ok value
  | none => .error (.text message)

inductive Pot where
  | pending
  | available
  | frozen
  | withdrawn
  deriving DecidableEq, Repr

def ReferralCommissionAccount.balance (account : ReferralCommissionAccount) : Pot → Int
  | .pending => account.pendingAmount
  | .available => account.availableAmount
  | .frozen => account.frozenAmount
  | .withdrawn => account.withdrawnAmount

def ReferralCommissionLedger.delta (line : ReferralCommissionLedger) : Pot → Int
  | .pending => line.deltaPending
  | .available => line.deltaAvailable
  | .frozen => line.deltaFrozen
  | .withdrawn => line.deltaWithdrawn

def ReferralDatabase.balance (db : ReferralDatabase) (affiliateId : Int) (pot : Pot) : Int :=
  ((db.accounts.lookup affiliateId).map (fun account => account.balance pot)).getD 0

def ReferralDatabase.posted (db : ReferralDatabase) (affiliateId : Int) (pot : Pot) : Int :=
  db.ledger.total (fun line => if line.affiliateId = affiliateId then line.delta pot else 0)

def ReferralDatabase.pendingCommissions (db : ReferralDatabase) (affiliateId : Int) : Int :=
  db.commissions.total (fun commission =>
    if commission.affiliateId = affiliateId ∧ commission.status = .pending then
      commission.commissionAmount
    else 0)

def ReferralDatabase.withdrawalsIn (db : ReferralDatabase) (statuses : List WithdrawalStatus)
    (affiliateId : Int) : Int :=
  db.withdrawals.total (fun withdrawal =>
    if withdrawal.affiliateId = affiliateId ∧ withdrawal.status ∈ statuses then withdrawal.amount
    else 0)

end NewApi.Referral
