import NewApi.Billing.Database

/-!
# The rows of one request

A wallet-funded request lives in four rows, which `RequestScope.view` reads off
a database.  Everything proved about a wallet request is proved about views.
-/

namespace NewApi.Billing

open KeyedTable Database

namespace Database

def saveWalletPreConsume (db : Database) (record : WalletPreConsumeRecord) : Database :=
  { db with walletPreConsumes := db.walletPreConsumes.save record }

def createWalletPreConsume (db : Database) (record : WalletPreConsumeRecord) :
    Except BillingError Database :=
  match db.walletPreConsumes.create record with
  | none => .error .duplicatedKey
  | some records => .ok { db with walletPreConsumes := records }

def saveBillingAdjustment (db : Database) (row : BillingAdjustment) : Database :=
  { db with billingAdjustments := db.billingAdjustments.save row }

def createBillingAdjustment (db : Database) (row : BillingAdjustment) :
    Except BillingError Database :=
  match db.billingAdjustments.create row with
  | none => .error .duplicatedKey
  | some rows => .ok { db with billingAdjustments := rows }

end Database

structure RequestScope where
  requestID : String
  key : String
  userID : Int
  tokenID : Int
  deriving DecidableEq, Repr

structure RequestView where
  quota : Int
  token : Option Token
  record : Option WalletPreConsumeRecord
  row : Option BillingAdjustment
  deriving DecidableEq, Repr

namespace RequestScope

variable (scope : RequestScope)

def view (db : Database) : RequestView where
  quota := quotaIn db.users scope.userID
  token := db.tokens.lookup scope.tokenID
  record := db.walletPreConsumes.lookup scope.requestID
  row := db.billingAdjustments.lookup scope.key

def OwnsRows (db : Database) : Prop :=
  ∀ key row,
    db.billingAdjustments.lookup key = some row → row.requestID = scope.requestID → key = scope.key

variable {scope} {db after : Database}

theorem view_walletMoved {amount : Int} (moved : WalletMoved db after scope.userID amount) :
    scope.view after = { scope.view db with quota := (scope.view db).quota + amount } ∧
      (scope.OwnsRows db → scope.OwnsRows after) := by
  obtain ⟨users, rfl, balance, _⟩ := moved
  refine ⟨?_, id⟩
  simp only [view, balance]

theorem view_tokenMoved {update : Token → Token}
    (moved : TokenMoved db after scope.tokenID update) :
    scope.view after = { scope.view db with token := (scope.view db).token.map update } ∧
      (scope.OwnsRows db → scope.OwnsRows after) := by
  obtain ⟨tokens, rfl, stored⟩ := moved
  refine ⟨?_, id⟩
  simp only [view, stored]

theorem view_saveWalletPreConsume (record : WalletPreConsumeRecord) {old : WalletPreConsumeRecord}
    (found : (scope.view db).record = some old) (sameID : record.requestID = scope.requestID) :
    scope.view (db.saveWalletPreConsume record) = { scope.view db with record := some record } ∧
      (scope.OwnsRows db → scope.OwnsRows (db.saveWalletPreConsume record)) := by
  refine ⟨?_, id⟩
  have stored : (db.walletPreConsumes.save record).lookup scope.requestID = some record := by
    rw [← sameID]
    apply lookup_save_self
    rw [sameID]
    exact found
  simp only [view, saveWalletPreConsume, stored]

theorem view_createWalletPreConsume {record : WalletPreConsumeRecord}
    (done : db.createWalletPreConsume record = .ok after)
    (sameID : record.requestID = scope.requestID) :
    scope.view after = { scope.view db with record := some record } ∧
      (scope.OwnsRows db → scope.OwnsRows after) := by
  unfold createWalletPreConsume at done
  split at done
  · cases done
  rename_i records created
  cases done
  have lookups := (lookup_create created).2
  refine ⟨?_, id⟩
  simp only [view, lookups, sameID, if_true]

theorem view_saveBillingAdjustment (row : BillingAdjustment) {old : BillingAdjustment}
    (found : (scope.view db).row = some old) (sameKey : row.idempotencyKey = scope.key) :
    scope.view (db.saveBillingAdjustment row) = { scope.view db with row := some row } ∧
      (scope.OwnsRows db → scope.OwnsRows (db.saveBillingAdjustment row)) := by
  have lookups := fun key => lookup_save db.billingAdjustments row key
  constructor
  · have stored := lookups scope.key
    have present : db.billingAdjustments.lookup scope.key = some old := found
    rw [if_pos sameKey, present, Option.map_some] at stored
    simp only [view, saveBillingAdjustment, stored]
  · intro owns key stored located sameRequest
    by_cases rowKey : row.idempotencyKey = key
    · rw [← rowKey, sameKey]
    have before : db.billingAdjustments.lookup key = some stored := by
      have located' : (db.billingAdjustments.save row).lookup key = some stored := located
      rwa [lookups key, if_neg rowKey] at located'
    exact owns key stored before sameRequest

theorem view_createBillingAdjustment {row : BillingAdjustment}
    (done : db.createBillingAdjustment row = .ok after) (sameKey : row.idempotencyKey = scope.key) :
    (scope.view db).row = none ∧ scope.view after = { scope.view db with row := some row } ∧
      (scope.OwnsRows db → scope.OwnsRows after) := by
  unfold createBillingAdjustment at done
  split at done
  · cases done
  rename_i rows created
  cases done
  obtain ⟨absent, lookups⟩ := lookup_create created
  rw [sameKey] at absent
  refine ⟨absent, ?_, ?_⟩
  · simp only [view, lookups, sameKey, if_true]
  · intro owns key stored located sameRequest
    have located' : rows.lookup key = some stored := located
    rw [lookups] at located'
    split at located'
    · rename_i rowKey
      rw [← rowKey, sameKey]
    · exact owns key stored located' sameRequest

end RequestScope

def RequestScope.sample : RequestScope := ⟨"req-1", "billing:req-1", 1, 1⟩

end NewApi.Billing
