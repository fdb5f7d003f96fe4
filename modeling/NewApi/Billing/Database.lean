import Mathlib.Data.List.Infix
import NewApi.Lib.KeyedTable
import NewApi.Lib.Transactions

/-!
# The billing tables

The rows that a relay request touches while it is paid for.  A transaction is a
function from a `Database` to `Except BillingError`, so a failed one returns no
database.  Quotas stay far inside 64 bits and are modelled by `Int`; request
ids and idempotency keys are stored trimmed.
-/

namespace NewApi.Billing

open KeyedTable

/-- The sentinel errors of the billing code; `text` is an error made from its
message alone. -/
inductive BillingError where
  | walletPreConsumeInsufficient
  | walletPreConsumeNotFound
  | walletPreConsumeClosed
  | walletPreConsumeConflict (detail : String)
  | walletPreConsumeLeaseActive
  | billingAdjustmentConflict (detail : String)
  | billingAdjustmentClosed
  | billingAdjustmentAbsent
  | billingAdjustmentDeferred
  | userQuotaCap (detail : String)
  | tokenQuotaNoRows (detail : String)
  | tokenQuotaInsufficient (detail : String)
  | subscriptionPreConsumeLeaseActive
  | noActiveSubscription
  | noActiveSubscriptionGrantsGroup (detail : String)
  | subscriptionQuotaInsufficient (detail : String)
  | recordNotFound
  | duplicatedKey
  | text (message : String)
  deriving DecidableEq, Repr

namespace BillingError

def message : BillingError → String
  | walletPreConsumeInsufficient => "wallet pre-consume quota insufficient"
  | walletPreConsumeNotFound => "wallet pre-consume record not found"
  | walletPreConsumeClosed => "wallet pre-consume is closed"
  | walletPreConsumeConflict detail => "wallet pre-consume conflict" ++ detail
  | walletPreConsumeLeaseActive => "wallet pre-consume lease is active"
  | billingAdjustmentConflict detail => "billing adjustment conflict" ++ detail
  | billingAdjustmentClosed => "billing adjustment closed"
  | billingAdjustmentAbsent => "billing adjustment absent"
  | billingAdjustmentDeferred => "billing adjustment deferred"
  | userQuotaCap detail => "user quota credit exceeds MaxWalletQuota" ++ detail
  | tokenQuotaNoRows detail => "token quota update affected no rows" ++ detail
  | tokenQuotaInsufficient detail => "token quota is not enough" ++ detail
  | subscriptionPreConsumeLeaseActive => "subscription pre-consume lease is active"
  | noActiveSubscription => "no active subscription"
  | noActiveSubscriptionGrantsGroup detail => "no active subscription grants group" ++ detail
  | subscriptionQuotaInsufficient detail => "subscription quota insufficient" ++ detail
  | recordNotFound => "record not found"
  | duplicatedKey => "duplicated key not allowed"
  | text message => message

def containsText (message needle : String) : Bool := decide (needle.toList <:+: message.toList)

end BillingError

structure User where
  id : Int
  quota : Int
  deriving DecidableEq, Repr

structure Token where
  id : Int
  remainQuota : Int
  usedQuota : Int
  unlimitedQuota : Bool
  deriving DecidableEq, Repr

inductive WalletPreConsumeStatus where
  | reserved
  | trusted
  | settled
  | refunded
  deriving DecidableEq, Repr

structure WalletPreConsumeRecord where
  requestID : String
  userID : Int
  amount : Int
  collected : Int := 0
  status : WalletPreConsumeStatus
  clientDelivered : Bool := false
  leaseUntil : Int
  createdAt : Int
  updatedAt : Int
  deriving DecidableEq, Repr

inductive BillingAdjustmentStatus where
  | pending
  | applied
  | rolledBack
  deriving DecidableEq, Repr

inductive BillingAdjustmentSource where
  | wallet
  | subscription
  deriving DecidableEq, Repr

structure BillingAdjustment where
  idempotencyKey : String
  requestID : String
  userID : Int
  tokenID : Int
  source : BillingAdjustmentSource
  subscriptionID : Int
  fundingDelta : Int := 0
  tokenDelta : Int := 0
  chargeQuota : Int := 0
  reservationQuota : Int
  extraReserved : Int
  subscriptionConsumedAt : Int
  refundedQuota : Int := 0
  tokenIncluded : Bool
  status : BillingAdjustmentStatus
  createdAt : Int
  updatedAt : Int
  deriving DecidableEq, Repr

inductive ResetPeriod where
  | never
  | daily
  | weekly
  | monthly
  | custom
  deriving DecidableEq, Repr

structure SubscriptionPlan where
  id : Int
  quotaResetPeriod : ResetPeriod
  quotaResetCustomSeconds : Int
  deriving DecidableEq, Repr

inductive UserSubscriptionStatus where
  | active
  | expired
  | cancelled
  deriving DecidableEq, Repr

structure UserSubscription where
  id : Int
  userId : Int
  planId : Int
  amountTotal : Int
  amountUsed : Int
  startTime : Int
  endTime : Int
  status : UserSubscriptionStatus
  lastResetTime : Int
  nextResetTime : Int
  grantGroups : List String
  deriving DecidableEq, Repr

inductive SubscriptionPreConsumeStatus where
  | consumed
  | refunded
  deriving DecidableEq, Repr

structure SubscriptionPreConsumeRecord where
  requestId : String
  userId : Int
  userSubscriptionId : Int
  preConsumed : Int
  postResetReserved : Int := 0
  status : SubscriptionPreConsumeStatus
  clientDelivered : Bool := false
  leaseUntil : Int := 0
  createdAt : Int
  deriving DecidableEq, Repr

structure Database where
  users : KeyedTable User.id
  tokens : KeyedTable Token.id
  walletPreConsumes : KeyedTable WalletPreConsumeRecord.requestID
  billingAdjustments : KeyedTable BillingAdjustment.idempotencyKey
  plans : KeyedTable SubscriptionPlan.id
  subscriptions : KeyedTable UserSubscription.id
  subscriptionPreConsumes : KeyedTable SubscriptionPreConsumeRecord.requestId

def Database.empty : Database where
  users := .empty
  tokens := .empty
  walletPreConsumes := .empty
  billingAdjustments := .empty
  plans := .empty
  subscriptions := .empty
  subscriptionPreConsumes := .empty

/-! ## Wallet updates -/

def maxWalletQuota : Int := 2 ^ 53 - 1

def quotaIn (users : KeyedTable User.id) (id : Int) : Int :=
  ((users.lookup id).map User.quota).getD 0

private def userQuotaUpdateFailed (id delta : Int) : BillingError :=
  .text ("user quota update failed, user_id=" ++ toString id ++ ", delta_quota=" ++ toString delta)

/-- Add what fits under `maxWalletQuota` and report the amount stored.  The
retries of the source only matter when another writer moves the balance
between the read and the conditional update; a transaction is atomic here. -/
def increaseUserQuotaCapped (db : Database) (id quota : Int) :
    Except BillingError (Int × Database) :=
  if quota ≤ 0 then .ok (0, db)
  else
    match db.users.lookup id with
    | none => .error (userQuotaUpdateFailed id quota)
    | some user =>
      if quota < maxWalletQuota ∧ user.quota ≤ maxWalletQuota - quota then
        .ok (quota, { db with users := db.users.save { user with quota := user.quota + quota } })
      else if maxWalletQuota ≤ user.quota then .ok (0, db)
      else
        let applied := min quota (maxWalletQuota - user.quota)
        .ok
          (applied, { db with users := db.users.save { user with quota := user.quota + applied } })

def increaseUserQuotaTx (db : Database) (id quota : Int) : Except BillingError Database :=
  if quota < 0 then .error (.text "quota cannot be negative")
  else if quota = 0 then .ok db
  else do
    let (applied, db) ← increaseUserQuotaCapped db id quota
    if applied ≠ quota then
      .error
        (.userQuotaCap
          (": user_id=" ++ toString id ++ " requested=" ++ toString quota ++
            " applied=" ++ toString applied))
    else .ok db

def decreaseUserQuotaTx (db : Database) (id quota : Int) : Except BillingError Database :=
  if quota < 0 then .error (.text "quota cannot be negative")
  else if quota = 0 then .ok db
  else
    match db.users.lookup id with
    | some user =>
      if quota ≤ user.quota then
        .ok { db with users := db.users.save { user with quota := user.quota - quota } }
      else .error (notEnough id quota)
    | none => .error (notEnough id quota)
where
  notEnough (id quota : Int) : BillingError :=
    .text
      ("user quota is not enough or user not found, user_id=" ++ toString id ++
        ", need_quota=" ++ toString quota)

def decreaseUserQuotaAllowNegativeTx
    (db : Database) (id quota : Int) : Except BillingError Database :=
  if quota < 0 then .error (.text "quota cannot be negative")
  else if quota = 0 then .ok db
  else
    match db.users.lookup id with
    | none => .error (userQuotaUpdateFailed id (-quota))
    | some user =>
      .ok { db with users := db.users.save { user with quota := user.quota - quota } }

def walletQuotaUpdateRejected (err : BillingError) : Bool :=
  BillingError.containsText err.message "not enough" ||
    BillingError.containsText err.message "update failed"

def SameAccounts (before after : KeyedTable User.id) : Prop :=
  ∀ id, (after.lookup id).isSome = (before.lookup id).isSome

/-- `after` differs from `before` in the wallets only, where no account has
appeared or vanished and the balance of `id` has changed by `amount`. -/
def WalletMoved (before after : Database) (id amount : Int) : Prop :=
  ∃ users,
    after = { before with users := users } ∧
      quotaIn users id = quotaIn before.users id + amount ∧
      SameAccounts before.users users

theorem WalletMoved.refl (db : Database) (id : Int) : WalletMoved db db id 0 :=
  ⟨db.users, rfl, (Int.add_zero _).symm, fun _ => rfl⟩

variable {user : User}

theorem quotaIn_save_self {users : KeyedTable User.id}
    (found : users.lookup user.id = some user) (quota : Int) :
    quotaIn (users.save { user with quota := quota }) user.id = quota := by
  have stored : (users.save { user with quota := quota }).lookup user.id =
        some { user with quota := quota } := by
    apply lookup_save_self
    exact found
  rw [quotaIn, stored]
  rfl

variable {db : Database} {id : Int}

theorem walletMoved_save (found : db.users.lookup id = some user) (amount : Int) :
    WalletMoved db
      { db with users := db.users.save { user with quota := user.quota + amount } }
      id amount := by
  have sameId : user.id = id := key_of_lookup found
  subst sameId
  refine ⟨_, rfl, ?_, ?_⟩
  · rw [quotaIn_save_self found]
    simp [quotaIn, found]
  · intro other
    rw [lookup_save]
    split
    · exact Option.isSome_map
    · rfl

variable {after : Database} {quota : Int}

theorem increaseUserQuotaCapped_spec {applied : Int}
    (done : increaseUserQuotaCapped db id quota = .ok (applied, after)) :
    WalletMoved db after id applied := by
  unfold increaseUserQuotaCapped at done
  split at done
  · cases done
    exact WalletMoved.refl db id
  · split at done
    · cases done
    rename_i user found
    split at done
    · cases done
      exact walletMoved_save found quota
    · split at done
      · cases done
        exact WalletMoved.refl db id
      · cases done
        exact walletMoved_save found _

/-- A credit moves the wallet by its amount. -/
theorem increaseUserQuotaTx_spec (done : increaseUserQuotaTx db id quota = .ok after) :
    0 ≤ quota ∧ WalletMoved db after id quota := by
  unfold increaseUserQuotaTx at done
  split at done
  · cases done
  split at done
  · rename_i zero
    cases done
    subst zero
    exact ⟨Int.le_refl 0, WalletMoved.refl db id⟩
  · obtain ⟨⟨applied, next⟩, capped, done⟩ := Transactions.bind_ok_iff.mp done
    have moved := increaseUserQuotaCapped_spec capped
    dsimp only at done
    split at done
    · cases done
    rename_i full
    cases done
    rw [not_not] at full
    subst full
    exact ⟨by omega, moved⟩

theorem increaseUserQuotaTx_refused {err : BillingError}
    (failed : increaseUserQuotaTx db id quota = .error err) :
    err ≠ .walletPreConsumeNotFound := by
  rintro rfl
  unfold increaseUserQuotaTx at failed
  split at failed
  · cases failed
  split at failed
  · cases failed
  cases capped : increaseUserQuotaCapped db id quota with
  | ok result =>
    rw [capped] at failed
    change (if result.1 ≠ quota then _ else _) = Except.error _ at failed
    split at failed
    · cases failed
    cases failed
  | error err =>
    rw [capped] at failed
    cases failed
    unfold increaseUserQuotaCapped at capped
    split at capped
    · cases capped
    split at capped
    · cases capped
    split at capped
    · cases capped
    split at capped
    · cases capped
    cases capped

/-- A debit moves the wallet by its amount. -/
theorem decreaseUserQuotaTx_spec (done : decreaseUserQuotaTx db id quota = .ok after) :
    0 ≤ quota ∧ WalletMoved db after id (-quota) := by
  unfold decreaseUserQuotaTx at done
  split at done
  · cases done
  split at done
  · rename_i zero
    cases done
    subst zero
    exact ⟨Int.le_refl 0, WalletMoved.refl db id⟩
  · split at done
    · rename_i user found
      split at done
      · cases done
        exact ⟨by omega, walletMoved_save found (-quota)⟩
      · cases done
    · cases done

theorem decreaseUserQuotaTx_account (positive : 0 < quota)
    (done : decreaseUserQuotaTx db id quota = .ok after) :
    (db.users.lookup id).isSome = true := by
  unfold decreaseUserQuotaTx at done
  split at done
  · cases done
  split at done
  · omega
  · split at done
    · rename_i user found
      rw [found]
      rfl
    · cases done

theorem increaseUserQuotaTx_of_found
    (found : db.users.lookup id = some user) (positive : 0 < quota) :
    (user.quota + quota ≤ maxWalletQuota → ∃ after, increaseUserQuotaTx db id quota = .ok after) ∧
      (maxWalletQuota < user.quota + quota →
        ∃ err, increaseUserQuotaTx db id quota = .error err) := by
  unfold increaseUserQuotaTx increaseUserQuotaCapped
  rw [if_neg (by omega), if_neg (by omega), if_neg (by omega), found]
  dsimp only
  constructor
  · intro fits
    by_cases below : quota < maxWalletQuota
    · rw [if_pos ⟨below, by omega⟩]
      exact ⟨_, if_neg (fun differs => differs rfl)⟩
    · -- A credit of the whole cap into an empty wallet.
      rw [if_neg (fun both => below both.1)]
      by_cases full : maxWalletQuota ≤ user.quota
      · omega
      · have whole : min quota (maxWalletQuota - user.quota) = quota := by omega
        rw [if_neg full]
        exact ⟨_, if_neg (fun differs => differs whole)⟩
  · intro exceeds
    rw [if_neg (fun both => by omega)]
    by_cases full : maxWalletQuota ≤ user.quota
    · rw [if_pos full]
      exact ⟨_, if_pos (by omega)⟩
    · rw [if_neg full]
      exact ⟨_, if_pos (by dsimp only; omega)⟩

/-- So does a debit below zero. -/
theorem decreaseUserQuotaAllowNegativeTx_spec
    (done : decreaseUserQuotaAllowNegativeTx db id quota = .ok after) :
    0 ≤ quota ∧ WalletMoved db after id (-quota) := by
  unfold decreaseUserQuotaAllowNegativeTx at done
  split at done
  · cases done
  split at done
  · rename_i zero
    cases done
    subst zero
    exact ⟨Int.le_refl 0, WalletMoved.refl db id⟩
  · split at done
    · cases done
    rename_i user found
    cases done
    exact ⟨by omega, walletMoved_save found (-quota)⟩

/-- The row update of a token credit: an unlimited token keeps its remaining
quota, and the used quota never drops below zero. -/
def Token.increase (token : Token) (quota : Int) : Token :=
  { token with
    remainQuota :=
      if token.unlimitedQuota then token.remainQuota
      else token.remainQuota + quota
    usedQuota := if token.usedQuota - quota < 0 then 0 else token.usedQuota - quota }

def Token.decrease (token : Token) (quota : Int) : Token :=
  { token with
    remainQuota :=
      if token.unlimitedQuota then token.remainQuota
      else token.remainQuota - quota
    usedQuota := token.usedQuota + quota }

def increaseTokenQuotaTx (db : Database) (tokenId quota : Int) : Except BillingError Database :=
  if quota < 0 then .error (.text "quota cannot be negative")
  else if quota = 0 then .ok db
  else
    match db.tokens.lookup tokenId with
    | none =>
      .error (.tokenQuotaNoRows (": tokenId=" ++ toString tokenId ++ ", quota=" ++ toString quota))
    | some token => .ok { db with tokens := db.tokens.save (token.increase quota) }

def decreaseTokenQuotaAllowNegativeTx
    (db : Database) (id quota : Int) : Except BillingError Database :=
  if quota < 0 then .error (.text "token.quota_negative")
  else if quota = 0 then .ok db
  else
    match db.tokens.lookup id with
    | none =>
      .error
        (.tokenQuotaNoRows
          (": token not found, tokenId=" ++ toString id ++ ", need quota=" ++ toString quota))
    | some token => .ok { db with tokens := db.tokens.save (token.decrease quota) }

def isTokenQuotaNoRowsError : BillingError → Bool
  | .tokenQuotaNoRows _ => true
  | _ => false

def isTokenQuotaInsufficientError : BillingError → Bool
  | .tokenQuotaInsufficient _ => true
  | _ => false

/-- `after` differs from `before` in the tokens only, and there the row of
`id`, when it exists, has become `update` of itself. -/
def TokenMoved (before after : Database) (id : Int) (update : Token → Token) : Prop :=
  ∃ tokens,
    after = { before with tokens := tokens } ∧
      tokens.lookup id = (before.tokens.lookup id).map update

theorem tokenMoved_unchanged {update : Token → Token}
    (fixed : ∀ token, db.tokens.lookup id = some token → update token = token) :
    TokenMoved db db id update := by
  refine ⟨db.tokens, rfl, ?_⟩
  cases found : db.tokens.lookup id with
  | none => rfl
  | some token => rw [Option.map_some, fixed token found]

theorem tokenMoved_save {token : Token} (found : db.tokens.lookup id = some token)
    (update : Token → Token) (sameId : (update token).id = token.id) :
    TokenMoved db { db with tokens := db.tokens.save (update token) } id update := by
  have tokenId : token.id = id := key_of_lookup found
  refine ⟨_, rfl, ?_⟩
  rw [lookup_save, if_pos (sameId.trans tokenId), found, Option.map_some, Option.map_some]

theorem increaseTokenQuotaTx_spec (done : increaseTokenQuotaTx db id quota = .ok after) :
    (quota = 0 ∧ after = db) ∨ 0 < quota ∧ TokenMoved db after id (Token.increase · quota) := by
  unfold increaseTokenQuotaTx at done
  split at done
  · cases done
  split at done
  · rename_i zero
    cases done
    exact Or.inl ⟨zero, rfl⟩
  · split at done
    · cases done
    rename_i token found
    cases done
    exact Or.inr ⟨by omega, tokenMoved_save found (Token.increase · quota) rfl⟩

theorem decreaseTokenQuotaAllowNegativeTx_spec
    (done : decreaseTokenQuotaAllowNegativeTx db id quota = .ok after) :
    (quota = 0 ∧ after = db) ∨ 0 < quota ∧ TokenMoved db after id (Token.decrease · quota) := by
  unfold decreaseTokenQuotaAllowNegativeTx at done
  split at done
  · cases done
  split at done
  · rename_i zero
    cases done
    exact Or.inl ⟨zero, rfl⟩
  · split at done
    · cases done
    rename_i token found
    cases done
    exact Or.inr ⟨by omega, tokenMoved_save found (Token.decrease · quota) rfl⟩

def Database.sample : Database :=
  { Database.empty with
    users := ⟨[⟨1, 100⟩], by decide⟩
    tokens := ⟨[⟨1, 100, 0, false⟩], by decide⟩ }

end NewApi.Billing
