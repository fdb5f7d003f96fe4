import NewApi.Billing.SettlementRetries

/-!
# The billing session of one relay request

`service/billing_session.go` and `service/funding_source.go`.  A session holds
what one request has taken from its funding source and its token, and ends by a
settlement, a refund or a rollback.  Its mutex serialises the calls, so
`refundInProgress` is never seen set.
-/

namespace NewApi.Billing

open Transactions

structure RelayInfo where
  userId : Int
  tokenId : Int
  requestId : String
  isPlayground : Bool
  tokenUnlimited : Bool
  deriving DecidableEq, Repr

def decreaseTokenQuotaTx (db : Database) (id quota : Int) : Except BillingError Database :=
  if quota < 0 then .error (.text "token.quota_negative")
  else if quota = 0 then .ok db
  else
    match db.tokens.lookup id with
    | none =>
      .error
        (.tokenQuotaNoRows
          (": token not found, tokenId=" ++ toString id ++ ", need quota=" ++ toString quota))
    | some token =>
      if token.unlimitedQuota || decide (quota ≤ token.remainQuota) then
        .ok { db with tokens := db.tokens.save (token.decrease quota) }
      else
        .error
          (.tokenQuotaInsufficient
            (": tokenId=" ++ toString id ++ ", need quota=" ++ toString quota))

/-- The conditional update of `reserveTokenQuotaDB`, which does not look at
the unlimited flag of the row. -/
def Token.reserve (token : Token) (quota : Int) : Token :=
  { token with
    remainQuota := token.remainQuota - quota
    usedQuota := token.usedQuota + quota }

/-- `TryReserveTokenQuota` as the database sees it: a Redis balance in front
of it can only refuse more. -/
def tryReserveTokenQuota (db : Database) (id quota : Int) (unlimited : Bool) :
    Except BillingError (Bool × Database) :=
  if quota < 0 then .error (.text "quota cannot be negative")
  else if quota = 0 then .ok (true, db)
  else if unlimited then do
    let db ← decreaseTokenQuotaTx db id quota
    .ok (true, db)
  else
    match db.tokens.lookup id with
    | none => .ok (false, db)
    | some token =>
      if quota ≤ token.remainQuota then
        .ok (true, { db with tokens := db.tokens.save (token.reserve quota) })
      else .ok (false, db)

/-- The amounts in the error text depend on display settings and are left
out. -/
def preConsumeTokenQuota (db : Database) (info : RelayInfo) (quota : Int) :
    Except BillingError Database :=
  if quota < 0 then .error (.text "Quota cannot be negative!")
  else if info.isPlayground then .ok db
  else do
    let (reserved, db) ← tryReserveTokenQuota db info.tokenId quota info.tokenUnlimited
    if reserved then .ok db
    else .error (.text "token quota is not enough")

def tryReserveUserQuota (db : Database) (id quota : Int) : Except BillingError (Bool × Database) :=
  if quota < 0 then .error (.text "quota cannot be negative")
  else if quota = 0 then .ok (true, db)
  else
    match db.users.lookup id with
    | none => .ok (false, db)
    | some user =>
      if quota ≤ user.quota then
        .ok (true, { db with users := db.users.save { user with quota := user.quota - quota } })
      else .ok (false, db)

structure TokenQuotaDelta where
  tokenId : Int := 0
  remainDelta : Int := 0
  usedDelta : Int := 0
  deriving DecidableEq, Repr

def increaseTokenQuotaTracked (db : Database) (tokenId quota : Int) :
    Except BillingError (TokenQuotaDelta × Database) :=
  if quota < 0 then .error (.text "token.quota_negative")
  else if quota = 0 then .ok ({}, db)
  else
    match db.tokens.lookup tokenId with
    | none =>
      .error (.tokenQuotaNoRows (": tokenId=" ++ toString tokenId ++ ", quota=" ++ toString quota))
    | some token =>
      .ok
        ({ tokenId := tokenId
           remainDelta := if token.unlimitedQuota then 0 else quota
           usedDelta := -min quota token.usedQuota },
          { db with tokens := db.tokens.save (token.increase quota) })

def applyTokenQuotaDelta (db : Database) (delta : TokenQuotaDelta) :
    Except BillingError Database :=
  if delta.tokenId ≤ 0 ∨ delta.remainDelta = 0 ∧ delta.usedDelta = 0 then .ok db
  else
    match db.tokens.lookup delta.tokenId with
    | none =>
      .error (.tokenQuotaNoRows (": tokenId=" ++ toString delta.tokenId))
    | some token =>
      .ok
        { db with
          tokens :=
            db.tokens.save
              { token with
                remainQuota := token.remainQuota + delta.remainDelta
                usedQuota := token.usedQuota + delta.usedDelta } }

def skipMissingToken {α : Type} (db : Database) (skipped : α)
    (adjusted : Except BillingError (α × Database)) :
    Except BillingError ((Bool × α) × Database) :=
  match adjusted with
  | .ok (result, db) => .ok ((true, result), db)
  | .error err =>
    if isTokenQuotaNoRowsError err then .ok ((false, skipped), db)
    else .error err

def adjustTokenQuotaForSettlementTracked (db : Database) (info : RelayInfo) (delta : Int) :
    Except BillingError ((Bool × TokenQuotaDelta) × Database) :=
  if info.isPlayground ∨ delta = 0 then .ok ((false, {}), db)
  else if 0 < delta then
    skipMissingToken db {}
      ((decreaseTokenQuotaAllowNegativeTx db info.tokenId delta).map (fun db => ({}, db)))
  else
    skipMissingToken db {} (increaseTokenQuotaTracked db info.tokenId (-delta))

def rollbackTrackedTokenQuotaAdjustment (db : Database) (info : RelayInfo) (delta : Int)
    (tokenDelta : TokenQuotaDelta) : Except BillingError Database :=
  if info.isPlayground ∨ delta = 0 then .ok db
  else if delta < 0 then
    applyTokenQuotaDelta db
      { tokenDelta with
        remainDelta := -tokenDelta.remainDelta
        usedDelta := -tokenDelta.usedDelta }
  else increaseTokenQuotaTx db info.tokenId delta

def postConsumeUserSubscriptionDelta (db : Database) (userSubscriptionId delta : Int)
    (allowOverdraft : Bool) : Except BillingError Database :=
  if userSubscriptionId ≤ 0 then .error (.text "invalid userSubscriptionId")
  else if delta = 0 then .ok db
  else do
    let sub ← lockSubscriptionTx db userSubscriptionId
    applyUserSubscriptionDeltaTx db sub delta allowOverdraft

structure WalletFunding where
  /-- `consumed`: what the wallet was debited before the settlement. -/
  consumed : Int := 0
  deriving DecidableEq, Repr

/-- `amount` is the pre-consume the session was built for; `baseGroups` are the
groups that `PreConsumeUserSubscription` reads for the user. -/
structure SubscriptionFunding where
  usingGroup : String
  baseGroups : List String
  amount : Int
  subscriptionId : Int := 0
  preConsumed : Int := 0
  deriving DecidableEq, Repr

/-- `FundingSource`.  The user and the request id of a funding source are those
of the relay info. -/
inductive FundingSource where
  | wallet (funding : WalletFunding)
  | subscription (funding : SubscriptionFunding)
  deriving DecidableEq, Repr

namespace FundingSource

def source : FundingSource → BillingAdjustmentSource
  | wallet _ => .wallet
  | subscription _ => .subscription

def subscriptionID : FundingSource → Int
  | wallet _ => 0
  | subscription funding => funding.subscriptionId

end FundingSource

def insufficientWalletQuota : BillingError := .text "wallet quota insufficient"

def WalletFunding.preConsume
    (funding : WalletFunding) (info : RelayInfo) (db : Database)
    (now amount : Int) : Except BillingError (WalletFunding × Database) :=
  if amount ≤ 0 then .ok (funding, db)
  else if info.requestId ≠ "" then
    match reserveWalletPreConsume db now info.requestId info.userId amount with
    | .ok (_, db) => .ok ({ funding with consumed := amount }, db)
    | .error .walletPreConsumeInsufficient => .error insufficientWalletQuota
    | .error err => .error err
  else do
    let (reserved, db) ← tryReserveUserQuota db info.userId amount
    if reserved then .ok ({ funding with consumed := amount }, db)
    else .error insufficientWalletQuota

/-- The subscription and the amount that a pre-consume was booked on, as
`PreConsumeUserSubscription` reports them. -/
def SubscriptionFunding.booked
    (funding : SubscriptionFunding) (db : Database) (requestId : String) :
    SubscriptionFunding :=
  match db.subscriptionPreConsumes.lookup requestId with
  | none => funding
  | some record =>
    { funding with
      subscriptionId := record.userSubscriptionId
      preConsumed := record.preConsumed }

def SubscriptionFunding.preConsume
    (calendar : Calendar) (funding : SubscriptionFunding) (info : RelayInfo)
    (db : Database) (now : Int) :
    Except BillingError (SubscriptionFunding × Database) := do
  let db ←
    preConsumeUserSubscriptionTx calendar db now info.requestId info.userId
      funding.amount funding.usingGroup funding.baseGroups
  .ok (funding.booked db info.requestId, armSubscriptionPreConsumeLease db now info.requestId)

def FundingSource.preConsume (calendar : Calendar) (funding : FundingSource) (info : RelayInfo)
    (db : Database) (now amount : Int) :
    Except BillingError (FundingSource × Database) :=
  match funding with
  | .wallet funding =>
    (funding.preConsume info db now amount).map (fun (funding, db) => (.wallet funding, db))
  | .subscription funding =>
    (funding.preConsume calendar info db now).map (fun (funding, db) => (.subscription funding, db))

def FundingSource.settle
    (funding : FundingSource) (info : RelayInfo) (db : Database)
    (delta : Int) : Except BillingError Database :=
  if delta = 0 then .ok db
  else
    match funding with
    | .wallet _ =>
      if 0 < delta then decreaseUserQuotaAllowNegativeTx db info.userId delta
      else increaseUserQuotaTx db info.userId (-delta)
    | .subscription funding =>
      postConsumeUserSubscriptionDelta db funding.subscriptionId delta (decide (0 < delta))

def WalletFunding.refundCounted
    (funding : WalletFunding) (info : RelayInfo) (db : Database) :
    Except BillingError (WalletFunding × Database) :=
  if funding.consumed ≤ 0 then .ok (funding, db)
  else do
    let db ← increaseUserQuotaTx db info.userId funding.consumed
    .ok ({ funding with consumed := 0 }, db)

def WalletFunding.refund
    (funding : WalletFunding) (info : RelayInfo) (db : Database) (now : Int) :
    Except BillingError (WalletFunding × Database) :=
  if info.requestId ≠ "" then
    match refundWalletPreConsume db now info.requestId false with
    | .ok (_, db) => .ok ({ funding with consumed := 0 }, db)
    | .error .walletPreConsumeNotFound => funding.refundCounted info db
    | .error err => .error err
  else funding.refundCounted info db

def FundingSource.refund
    (funding : FundingSource) (info : RelayInfo) (db : Database) (now : Int) :
    Except BillingError (FundingSource × Database) :=
  match funding with
  | .wallet funding =>
    (funding.refund info db now).map (fun (funding, db) => (.wallet funding, db))
  | .subscription sub =>
    if sub.preConsumed ≤ 0 then .ok (funding, db)
    else do
      let db ← refundSubscriptionPreConsumeTx db info.requestId
      .ok (funding, db)

structure BillingSession where
  relayInfo : RelayInfo
  funding : FundingSource
  preConsumedQuota : Int := 0
  tokenConsumed : Int := 0
  extraReserved : Int := 0
  trusted : Bool := false
  fundingSettled : Bool := false
  settled : Bool := false
  deliveredQuota : Int := 0
  refunded : Bool := false
  settleErr : Option BillingError := none
  ledgerActive : Bool := false
  deriving DecidableEq, Repr

namespace BillingSession

variable (session : BillingSession)

def requestId : String := session.relayInfo.requestId

/-- The ledger key of the session; without a request id there is none. -/
def key : String := if session.requestId = "" then "" else billingAdjustmentKey session.requestId

def tokenIncluded : Bool :=
  decide (0 < session.relayInfo.tokenId) && !session.relayInfo.isPlayground

def idempotentEnabled : Bool := decide (session.requestId ≠ "")

def billingAdjustmentRequest (actualQuota : Int) : BillingAdjustmentRequest :=
  let delta := actualQuota - session.preConsumedQuota
  { idempotencyKey := session.key
    requestID := session.requestId
    userID := session.relayInfo.userId
    tokenID := session.relayInfo.tokenId
    source := session.funding.source
    subscriptionID := session.funding.subscriptionID
    fundingDelta := delta
    tokenDelta := if session.tokenIncluded then delta else 0
    chargeQuota := actualQuota
    reservationQuota := session.preConsumedQuota
    extraReserved := session.extraReserved
    tokenIncluded := session.tokenIncluded }

def reservationRefund : BillingReservationRefund where
  idempotencyKey := session.key
  requestID := session.requestId
  userID := session.relayInfo.userId
  tokenID := session.relayInfo.tokenId
  source := session.funding.source
  subscriptionID := session.funding.subscriptionID
  reservationQuota := session.preConsumedQuota
  extraReserved := session.extraReserved
  tokenIncluded := session.tokenIncluded

end BillingSession

structure SessionOutcome (α : Type) where
  result : Except BillingError α
  session : BillingSession
  node : Node

namespace BillingSession

/-! ## Taking quota -/

/-- `shouldTrust`: only a wallet can be trusted.  Whether its balance is above
the configured threshold is the argument `trust`. -/
def shouldTrust (session : BillingSession) (trust : Bool) : Bool :=
  trust && decide (session.funding.source = .wallet)

/-- Give the token back what a failed call has taken from it; a failure of this
statement is only logged. -/
def returnToken (info : RelayInfo) (db : Database) (quota : Int) : Database :=
  if info.isPlayground then db
  else commit db (increaseTokenQuotaTx db info.tokenId quota)

def reserveTrusted (session : BillingSession) (db : Database) (now quota : Int) :
    Except BillingError Database :=
  if session.trusted && decide (session.funding.source = .wallet) &&
      decide (session.requestId ≠ "") && decide (0 < quota) then
    reserveTrustedWalletPreConsume db now session.requestId session.relayInfo.userId quota
  else .ok db

/-- `preConsume`: the token first, then the funding source. -/
def preConsume (calendar : Calendar) (session : BillingSession) (node : Node)
    (now quota : Int) (trust : Bool) : SessionOutcome Unit :=
  let info := session.relayInfo
  let trusted := session.shouldTrust trust
  let effectiveQuota := if trusted then 0 else quota
  let session := { session with trusted := session.trusted || trusted }
  let charged :=
    if 0 < effectiveQuota then preConsumeTokenQuota node.db info effectiveQuota
    else .ok node.db
  match charged with
  | .error err => ⟨.error err, session, node⟩
  | .ok db =>
    let session :=
      if 0 < effectiveQuota then
        { session with tokenConsumed := effectiveQuota }
      else session
    match session.funding.preConsume calendar info db now effectiveQuota with
    | .error err =>
      if 0 < session.tokenConsumed ∧ info.isPlayground = false then
        ⟨.error err, { session with tokenConsumed := 0 },
          { node with db := returnToken info db session.tokenConsumed }⟩
      else ⟨.error err, session, { node with db := db }⟩
    | .ok (funding, db) =>
      let session := { session with funding := funding }
      match session.reserveTrusted db now quota with
      | .error err => ⟨.error err, session, { node with db := db }⟩
      | .ok db =>
        ⟨.ok (), { session with preConsumedQuota := effectiveQuota }, { node with db := db }⟩

def insufficientSubscriptionQuota : BillingError :=
  .text "Insufficient subscription quota or subscription is not configured"

def reserveWalletFunding (info : RelayInfo) (funding : WalletFunding) (db : Database)
    (now delta : Int) : Except BillingError (WalletFunding × Database) :=
  let uncounted : Except BillingError (WalletFunding × Database) := do
    let (reserved, db) ← tryReserveUserQuota db info.userId delta
    if reserved then .ok ({ funding with consumed := funding.consumed + delta }, db)
    else .error insufficientWalletQuota
  if info.requestId ≠ "" then
    match increaseWalletPreConsume db now info.requestId info.userId delta with
    | .ok db => .ok ({ funding with consumed := funding.consumed + delta }, db)
    | .error .walletPreConsumeNotFound => uncounted
    | .error .walletPreConsumeInsufficient => .error insufficientWalletQuota
    | .error err => .error err
  else uncounted

def reserveFunding (session : BillingSession) (db : Database) (now delta : Int) :
    Except BillingError (FundingSource × Database) :=
  match session.funding with
  | .wallet funding =>
    (reserveWalletFunding session.relayInfo funding db now delta).map
      (fun (funding, db) => (.wallet funding, db))
  | .subscription funding =>
    match reserveUserSubscriptionDelta db session.requestId funding.subscriptionId delta
    with
    | .ok db => .ok (session.funding, db)
    | .error _ => .error insufficientSubscriptionQuota

def reserveToken (session : BillingSession) (db : Database) (delta : Int) :
    Except BillingError Database :=
  if delta ≤ 0 ∨ session.relayInfo.isPlayground = true then .ok db
  else preConsumeTokenQuota db session.relayInfo delta

def reserve (session : BillingSession) (node : Node) (now targetQuota : Int) :
    SessionOutcome Unit :=
  if session.settled ∨ session.refunded ∨
      targetQuota ≤ session.preConsumedQuota then
    ⟨.ok (), session, node⟩
  else
    let session := { session with trusted := false }
    let delta := targetQuota - session.preConsumedQuota
    match session.reserveToken node.db delta with
    | .error err => ⟨.error err, session, node⟩
    | .ok db =>
      match session.reserveFunding db now delta with
      | .error err =>
        ⟨.error err, session, { node with db := returnToken session.relayInfo db delta }⟩
      | .ok (funding, db) =>
        ⟨.ok (),
          { session with
            funding := funding
            preConsumedQuota := session.preConsumedQuota + delta
            tokenConsumed := session.tokenConsumed + delta
            extraReserved := session.extraReserved + delta },
          { node with db := db }⟩

def finishSettle (session : BillingSession) (actualQuota : Int) : BillingSession :=
  { session with
    fundingSettled := true
    deliveredQuota := actualQuota
    settled := true
    settleErr := none }

/-- A conflict with the ledger, or a closed row, is kept as the verdict of
every later settle call. -/
def keepSettleErr (session : BillingSession) (err : BillingError) : BillingSession :=
  if err.isConflictOrClosed then { session with settleErr := some err }
  else session

def settleIdempotentLocked (session : BillingSession) (node : Node) (now actualQuota : Int) :
    SessionOutcome Unit :=
  let session := { session with ledgerActive := true }
  if actualQuota < 0 then
    ⟨.error (.text ("actual quota cannot be negative: " ++ toString actualQuota)), session, node⟩
  else
    match settleThroughLedger node now (session.billingAdjustmentRequest actualQuota)
    with
    | (.error err, node) => ⟨.error err, session.keepSettleErr err, node⟩
    | (.ok _, node) => ⟨.ok (), session.finishSettle actualQuota, node⟩

/-- The path of a session without a request id: the token first, and the
funding source only while it is not settled. -/
def settleUnkeyed (session : BillingSession) (node : Node) (actualQuota : Int) :
    SessionOutcome Unit :=
  let info := session.relayInfo
  let delta := actualQuota - session.preConsumedQuota
  if delta = 0 then
    ⟨.ok (),
      { session with
        fundingSettled := true
        deliveredQuota := actualQuota
        settled := true },
      node⟩
  else
    match adjustTokenQuotaForSettlementTracked node.db info delta with
    | .error err => ⟨.error err, { session with settleErr := some err }, node⟩
    | .ok ((tokenAdjusted, tokenDelta), db) =>
      let paid :=
        if session.fundingSettled then .ok db
        else session.funding.settle info db delta
      match paid with
      | .error err =>
        let db :=
          if tokenAdjusted then
            commit db (rollbackTrackedTokenQuotaAdjustment db info delta tokenDelta)
          else db
        ⟨.error err, { session with settleErr := some err }, { node with db := db }⟩
      | .ok db =>
        ⟨.ok (),
          { session with
            fundingSettled := true
            deliveredQuota := actualQuota
            settled := true },
          { node with db := db }⟩

def settle (session : BillingSession) (node : Node) (now actualQuota : Int) :
    SessionOutcome Unit :=
  if session.settled then ⟨.ok (), session, node⟩
  else
    match session.settleErr with
    | some err => ⟨.error err, session, node⟩
    | none =>
      if session.idempotentEnabled then session.settleIdempotentLocked node now actualQuota
      else session.settleUnkeyed node actualQuota

/-! ## Giving quota back -/

/-- `needsRefundLocked`.  A trusted wallet has paid nothing, but its reserve
row has to be closed. -/
def needsRefund (session : BillingSession) : Bool :=
  if session.settled || session.refunded || session.fundingSettled then false
  else
    decide (0 < session.tokenConsumed) ||
      (match session.funding with
        | .subscription funding => decide (0 < funding.preConsumed)
        | .wallet _ => false) ||
      session.trusted && decide (session.requestId ≠ "")

def rollbackIdempotent (session : BillingSession) (db : Database) (now actualQuota : Int) :
    Except BillingError Database :=
  match rollbackBillingAdjustment db now session.key actualQuota with
  | .ok (_, db) => .ok db
  | .error .billingAdjustmentAbsent =>
    (refundBillingReservation db now session.reservationRefund).map Prod.snd
  | .error err => .error err

def emptied (session : BillingSession) : BillingSession :=
  { session with
    preConsumedQuota := 0
    tokenConsumed := 0
    extraReserved := 0
    settled := false
    fundingSettled := false
    refunded := true }

def refundExtra (session : BillingSession) (db : Database) :
    Except BillingError (Int × Database) :=
  match session.funding with
  | .wallet _ => .ok (0, db)
  | .subscription funding =>
    if 0 < session.extraReserved ∧ 0 < funding.subscriptionId then
      refundSubscriptionReservedExtra db session.requestId
        funding.subscriptionId session.extraReserved
    else .ok (0, db)

/-- Take the supplemental quota again after a later step has failed; a failure
of this statement is only logged. -/
def restoreExtra (session : BillingSession) (db : Database) (extraRefunded : Int) :
    Database :=
  if extraRefunded ≤ 0 then db
  else
    commit db
      (reserveUserSubscriptionDelta db session.requestId
        session.funding.subscriptionID extraRefunded)

def refundToken (session : BillingSession) (db : Database) :
    Except BillingError ((Bool × TokenQuotaDelta) × Database) :=
  if 0 < session.tokenConsumed ∧ session.relayInfo.isPlayground = false then
    adjustTokenQuotaForSettlementTracked db session.relayInfo (-session.tokenConsumed)
  else .ok ((false, {}), db)

/-- `Refund` before the first settle attempt.  The counters of the session keep
their values. -/
def refundBeforeLedger (session : BillingSession) (node : Node) (now : Int) :
    SessionOutcome Unit :=
  let info := session.relayInfo
  match session.refundExtra node.db with
  | .error err => ⟨.error err, session, node⟩
  | .ok (extraRefunded, db) =>
    match session.refundToken db with
    | .error err => ⟨.error err, session, { node with db := session.restoreExtra db extraRefunded }⟩
    | .ok ((tokenAdjusted, tokenDelta), db) =>
      match session.funding.refund info db now with
      | .ok (funding, db) =>
        ⟨.ok (), { session with funding := funding, refunded := true }, { node with db := db }⟩
      | .error err =>
        let db :=
          if tokenAdjusted then
            commit db
              (rollbackTrackedTokenQuotaAdjustment db info (-session.tokenConsumed) tokenDelta)
          else db
        ⟨.error err, session, { node with db := session.restoreExtra db extraRefunded }⟩

def refund (session : BillingSession) (node : Node) (now : Int) :
    SessionOutcome Unit :=
  if session.settled || session.refunded || !session.needsRefund then ⟨.ok (), session, node⟩
  else if session.ledgerActive then
    match session.rollbackIdempotent node.db now 0 with
    | .error err => ⟨.error err, session, node⟩
    | .ok db => ⟨.ok (), session.emptied, { node with db := db }⟩
  else session.refundBeforeLedger node now

def rollbackFundingSettlement (session : BillingSession) (db : Database) (actualQuota : Int) :
    Except BillingError Database :=
  if actualQuota ≤ 0 then .ok db
  else
    match session.funding with
    | .subscription _ =>
      if session.requestId ≠ "" then
        rollbackSubscriptionPreConsumeSettlementTx db session.requestId actualQuota
      else session.funding.settle session.relayInfo db (-actualQuota)
    | .wallet _ => session.funding.settle session.relayInfo db (-actualQuota)

/-- `Rollback` of a session that did not settle through the ledger.  The token
is credited in any case, the funding source only when it was settled. -/
def rollbackBeforeLedger (session : BillingSession) (node : Node) (actualQuota : Int) :
    SessionOutcome Unit :=
  let info := session.relayInfo
  match adjustTokenQuotaForSettlementTracked node.db info (-actualQuota) with
  | .error err => ⟨.error err, session, node⟩
  | .ok ((tokenAdjusted, tokenDelta), db) =>
    let returned :=
      if session.fundingSettled then session.rollbackFundingSettlement db actualQuota
      else .ok db
    match returned with
    | .ok db => ⟨.ok (), session.emptied, { node with db := db }⟩
    | .error err =>
      if !tokenAdjusted then ⟨.error err, session, { node with db := db }⟩
      else
        match rollbackTrackedTokenQuotaAdjustment db info (-actualQuota) tokenDelta
        with
        | .ok db => ⟨.error err, session, { node with db := db }⟩
        | .error rollbackErr =>
          ⟨.error
              (.text
                ("rollback funding settlement failed: " ++ err.message ++
                  "; rollback token quota failed: " ++
                  rollbackErr.message)),
            session, { node with db := db }⟩

def rollback (session : BillingSession) (node : Node) (now actualQuota : Int) :
    SessionOutcome Unit :=
  if actualQuota ≤ 0 ∨ session.refunded then ⟨.ok (), session, node⟩
  else if session.ledgerActive then
    match session.rollbackIdempotent node.db now actualQuota with
    | .error err => ⟨.error err, session, node⟩
    | .ok db => ⟨.ok (), session.emptied, { node with db := db }⟩
  else session.rollbackBeforeLedger node actualQuota

def stageErrorFatal (err : BillingError) : Bool :=
  !(decide (err = .billingAdjustmentDeferred) || err.isConflictOrClosed ||
    billingAdjustmentRetryable err)

/-- The part of `AcceptDeliveredSettlement` after the charge was staged: the
ledger decides what was charged. -/
def collectDelivered (session : BillingSession) (node : Node) (now : Int)
    (req : BillingAdjustmentRequest) : SessionOutcome (Int × Bool) :=
  match collectDeliveredBillingCharge node.db now req with
  | .error err => ⟨.error err, session, node⟩
  | .ok (outcome, db) =>
    ⟨.ok (outcome.charged, outcome.applied),
      { session with
        ledgerActive := true
        fundingSettled := true
        deliveredQuota := outcome.charged
        settled := true
        settleErr := none
        refunded := false },
      { node with db := db }⟩

def acceptDeliveredSettlement (session : BillingSession) (node : Node) (now actualQuota : Int) :
    SessionOutcome (Int × Bool) :=
  if session.settled then ⟨.ok (session.deliveredQuota, false), session, node⟩
  else if !session.idempotentEnabled then
    ⟨.error (session.settleErr.getD (.text "billing session is not ledger backed")), session, node⟩
  else if actualQuota < 0 then
    ⟨.error (.text ("actual quota cannot be negative: " ++ toString actualQuota)), session, node⟩
  else
    let req := session.billingAdjustmentRequest actualQuota
    match stageDurableBillingAdjustment node now req with
    | (.ok _, node) => session.collectDelivered node now req
    | (.error err, node) =>
      if stageErrorFatal err then ⟨.error err, session, node⟩
      else session.collectDelivered node now req

def sample : BillingSession where
  relayInfo := ⟨1, 1, "r", false, false⟩
  funding := .wallet {}

end BillingSession

end NewApi.Billing
