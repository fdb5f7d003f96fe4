import Mathlib.Algebra.Order.Field.Rat
import Mathlib.Data.Rat.Floor
import NewApi.Lib.BulkStatements
import NewApi.Lib.GoStrings
import NewApi.Lib.Transactions

/-!
# Top-up orders

The functions of `model/topup.go` and `model/payment_orphan_event.go` that
complete a paid order.  Each is one transaction on the order's locked row; it
moves the order to `success` and credits the wallet, or fails and changes
nothing.  Amounts of money are exact decimals.
-/

namespace NewApi.Payments

open GoStrings

inductive TopUpStatus where
  | pending
  | success
  | failed
  | expired
  | other (text : String)
  deriving DecidableEq, Repr

def TopUpStatus.allowsPaymentCompletion : TopUpStatus → Bool
  | .pending | .expired | .failed => true
  | _ => false

structure TopUp where
  userId : Int
  amount : Int
  money : Rat
  paidAmount : Rat
  paidCurrency : String
  tradeNo : String
  paymentMethod : String
  paymentProvider : String
  providerPayload : String
  creditQuotaSnapshot : Int
  quotaPerUnitSnapshot : Rat
  completeTime : Int
  status : TopUpStatus
  deriving DecidableEq, Repr

structure PaymentUser where
  id : Int
  quota : Int
  stripeCustomer : String
  deriving DecidableEq, Repr

inductive PaymentOrphanStatus where
  | pendingReview
  | credited
  | refunded
  | dismissed
  deriving DecidableEq, Repr

structure PaymentOrphanEvent where
  id : Int
  provider : String
  referenceId : String
  reason : String
  error : String
  payload : String
  status : PaymentOrphanStatus
  resolvedBy : Int
  resolvedAt : Int
  resolution : Option PaymentOrphanStatus
  deriving DecidableEq, Repr

structure PaymentDatabase where
  topUps : KeyedTable TopUp.tradeNo
  users : KeyedTable PaymentUser.id
  orphans : KeyedTable PaymentOrphanEvent.id

inductive PaymentError where
  | paymentMethodMismatch
  | topUpNotFound
  | topUpStatusInvalid
  | paymentAmountMismatch
  | paymentCurrencyMismatch
  | invalidTopUpQuota
  | topUpQuotaLimitExceeded
  | recordNotFound
  | paymentOrphanNotFound
  | paymentOrphanNotCredit
  | text (message : String)
  | localized (key : String)
  deriving DecidableEq, Repr

def PaymentError.message : PaymentError → String
  | .paymentMethodMismatch => "payment method mismatch"
  | .topUpNotFound => "topup not found"
  | .topUpStatusInvalid => "topup status invalid"
  | .paymentAmountMismatch => "payment amount mismatch"
  | .paymentCurrencyMismatch => "payment currency mismatch"
  | .invalidTopUpQuota => "invalid top-up quota"
  | .topUpQuotaLimitExceeded => "top-up quota limit exceeded"
  | .recordNotFound => "record not found"
  | .paymentOrphanNotFound => "payment orphan event not found"
  | .paymentOrphanNotCredit => "payment orphan event cannot be credited"
  | .text message => message
  | .localized key => key

/-- What a call reads besides its arguments: the case mapping of texts, the time
and the present `QuotaPerUnit` setting. -/
structure PaymentContext where
  mapping : CaseMapping
  now : Int
  quotaPerUnit : Rat

def roundPlaces (places : Nat) (value : Rat) : Rat :=
  let scaled := value * 10 ^ places
  let rounded : Int := if scaled < 0 then -⌊-scaled + 1 / 2⌋ else ⌊scaled + 1 / 2⌋
  rounded / 10 ^ places

def intPart (value : Rat) : Int := value.num.tdiv value.den

def maxWalletQuota : Int := 2 ^ 53 - 1

def walletQuotaFromDecimalStrict (value : Rat) : Option Int :=
  if maxWalletQuota < value ∨ value < -maxWalletQuota then none
  else some (intPart (roundPlaces 0 value))

def TopUp.creditQuotaAmount (topUp : TopUp) (setting : Rat) : Int :=
  if 0 < topUp.creditQuotaSnapshot then topUp.creditQuotaSnapshot
  else
    let quotaPerUnit :=
      if topUp.quotaPerUnitSnapshot ≤ 0 then setting
      else topUp.quotaPerUnitSnapshot
    if quotaPerUnit ≤ 0 then 0
    else if topUp.paymentProvider = "creem" then topUp.amount
    else if topUp.paymentProvider = "stripe" then intPart (topUp.money * quotaPerUnit)
    else intPart (topUp.amount * quotaPerUnit)

def topUpQuotaMaxCurrent (creditedQuota : Int) : Option Int :=
  if creditedQuota ≤ 0 ∨ maxWalletQuota ≤ creditedQuota then none
  else some (maxWalletQuota - creditedQuota)

/-- `creditTopUpQuota`; `stripeCustomer` is the only other column that callers
update with it. -/
def creditTopUpQuota (db : PaymentDatabase) (userId creditedQuota : Int)
    (stripeCustomer : Option String) : Except PaymentError PaymentDatabase :=
  match topUpQuotaMaxCurrent creditedQuota with
  | none => .error .invalidTopUpQuota
  | some maxCurrentQuota =>
    match db.users.lookup userId with
    | none => .error .recordNotFound
    | some user =>
      if user.quota ≤ maxCurrentQuota then
        .ok
          { db with
            users :=
              db.users.save
                { user with
                  quota := user.quota + creditedQuota
                  stripeCustomer := stripeCustomer.getD user.stripeCustomer } }
      else .error .topUpQuotaLimitExceeded

/-- The statements that every completion ends with: the order is saved as
successful, and its user is credited. -/
def completeTopUp (now : Int) (db : PaymentDatabase) (topUp : TopUp) (quota : Int)
    (stripeCustomer : Option String) : Except PaymentError PaymentDatabase :=
  creditTopUpQuota
    { db with topUps := db.topUps.save { topUp with completeTime := now, status := .success } }
    topUp.userId quota stripeCustomer

def lockTopUp (db : PaymentDatabase) (tradeNo : String) :
    Except PaymentError TopUp :=
  match db.topUps.lookup tradeNo with
  | none => .error .topUpNotFound
  | some topUp => .ok topUp

structure PaymentCallbackValidation where
  expectedPaymentProvider : String := ""
  actualPaymentMethod : String := ""
  actualPaymentToken : String := ""
  paidAmount : Rat := 0
  paidCurrency : String := ""
  requirePaymentFacts : Bool := false
  allowPaymentDiscount : Bool := false
  deriving DecidableEq, Repr

def stripeZeroDecimalCurrencies : List String :=
  ["BIF", "CLP", "DJF", "GNF", "JPY", "KMF", "KRW", "MGA", "PYG", "RWF", "UGX",
    "VND", "VUV", "XAF", "XOF", "XPF"]

def stripeThreeDecimalCurrencies : List String := ["BHD", "JOD", "KWD", "OMR", "TND"]

def paymentCurrencyFractionDigits (mapping : CaseMapping) (currency : String) : Nat :=
  let currency := toUpper mapping (trimSpace currency)
  if currency ∈ stripeZeroDecimalCurrencies then 0
  else if currency ∈ stripeThreeDecimalCurrencies then 3
  else 2

def samePaymentCurrency (mapping : CaseMapping) (expected actual : String) : Bool :=
  toUpper mapping (trimSpace expected) = toUpper mapping (trimSpace actual)

def paymentAmountMatchesWithCurrency
    (mapping : CaseMapping) (expected actual : Rat) (currency : String)
    (allowDiscount : Bool) : Bool :=
  let digits :=
    if trimSpace currency = "" then 8
    else paymentCurrencyFractionDigits mapping currency
  let expectedAmount := roundPlaces digits expected
  let actualAmount := roundPlaces digits actual
  if expectedAmount = actualAmount then true
  else if !allowDiscount then false
  else decide (0 ≤ actualAmount) && decide (actualAmount < expectedAmount)

def callbackPaymentMethodMatches
    (mapping : CaseMapping) (expected actual provider : String) : Bool :=
  let expected := toLower mapping (trimSpace expected)
  let actual := toLower mapping (trimSpace actual)
  if expected = "" ∨ actual = "" then expected = actual
  else if provider = "bepusdt" then expected = "usdt" && actual = "usdt"
  else expected = actual

def paymentMethodMatchesBEpusdtToken
    (mapping : CaseMapping) (paymentMethod token : String) : Bool :=
  let token := toLower mapping (trimSpace token)
  if token = "" then true
  else toLower mapping (trimSpace paymentMethod) = "usdt" && token = "usdt"

def defaultPaymentFactsCurrency (mapping : CaseMapping) (paymentProvider : String) : String :=
  let provider := toLower mapping (trimSpace paymentProvider)
  if provider = "stripe" then "USD"
  else if provider = "epay" then "CNY"
  else ""

def validatedPaymentFacts (mapping : CaseMapping) (expectedAmount : Rat) (expectedCurrency : String)
    (validation : PaymentCallbackValidation) :
    Except PaymentError (Rat × String) :=
  let actualCurrency := toUpper mapping (trimSpace validation.paidCurrency)
  let expectedCurrency := toUpper mapping (trimSpace expectedCurrency)
  if actualCurrency = "" then .error .paymentCurrencyMismatch
  else if expectedCurrency ≠ "" ∧
      !samePaymentCurrency mapping expectedCurrency actualCurrency then
    .error .paymentCurrencyMismatch
  else if validation.paidAmount < 0 ∨
      !paymentAmountMatchesWithCurrency mapping expectedAmount
        validation.paidAmount expectedCurrency
        validation.allowPaymentDiscount then
    .error .paymentAmountMismatch
  else .ok (validation.paidAmount, actualCurrency)

def applyValidatedPaymentFactsToTopUp (mapping : CaseMapping) (topUp : TopUp)
    (validation : PaymentCallbackValidation) : Except PaymentError TopUp :=
  if validation.requirePaymentFacts then do
    let expectedAmount := if topUp.paidAmount ≤ 0 then topUp.money else topUp.paidAmount
    let expectedCurrency :=
      if trimSpace topUp.paidCurrency = "" then
        defaultPaymentFactsCurrency mapping topUp.paymentProvider
      else topUp.paidCurrency
    let (paidAmount, paidCurrency) ←
      validatedPaymentFacts mapping expectedAmount expectedCurrency validation
    return { topUp with paidAmount := paidAmount, paidCurrency := paidCurrency }
  else .ok topUp

/-- The checks of a callback, in the order of all functions with a validation;
only two of them look at the token. -/
def acceptCallback (mapping : CaseMapping) (checksToken : Bool) (topUp : TopUp)
    (validation : PaymentCallbackValidation) : Except PaymentError TopUp :=
  if topUp.paymentProvider ≠ validation.expectedPaymentProvider then .error .paymentMethodMismatch
  else if validation.actualPaymentMethod ≠ "" ∧
      !callbackPaymentMethodMatches mapping topUp.paymentMethod
        validation.actualPaymentMethod validation.expectedPaymentProvider then
    .error .paymentMethodMismatch
  else if checksToken ∧ validation.actualPaymentToken ≠ "" ∧
      !paymentMethodMatchesBEpusdtToken mapping topUp.paymentMethod
        validation.actualPaymentToken then
    .error .paymentMethodMismatch
  else applyValidatedPaymentFactsToTopUp mapping topUp validation

/-- The provider that is expected when the caller names none. -/
def PaymentCallbackValidation.withProvider
    (validation : PaymentCallbackValidation) (provider : String) :
    PaymentCallbackValidation :=
  if validation.expectedPaymentProvider = "" then
    { validation with expectedPaymentProvider := provider }
  else validation

/-! ## Completions -/

def tradeNoMissing : PaymentError := .localized "topup.trade_no_missing"

/-- The common body of the functions with a validation, except the one of
Creem. -/
def rechargeWithValidation (missing : PaymentError) (checksToken : Bool) (context : PaymentContext)
    (db : PaymentDatabase) (tradeNo providerPayload : String)
    (validation : PaymentCallbackValidation) (stripeCustomer : Option String) :
    Except PaymentError PaymentDatabase :=
  if tradeNo = "" then .error missing
  else do
    let topUp ← lockTopUp db tradeNo
    let topUp ← acceptCallback context.mapping checksToken topUp validation
    if topUp.status = .success then return db
    else if topUp.status.allowsPaymentCompletion = false then throw .topUpStatusInvalid
    else
      let quota := topUp.creditQuotaAmount context.quotaPerUnit
      if quota ≤ 0 then throw .invalidTopUpQuota
      else
        completeTopUp context.now db
          { topUp with
            providerPayload :=
              if providerPayload = "" then topUp.providerPayload
              else providerPayload }
          quota stripeCustomer

def rechargeStripeWithValidation (context : PaymentContext) (db : PaymentDatabase)
    (referenceId customerId providerPayload : String) (validation : PaymentCallbackValidation) :
    Except PaymentError PaymentDatabase :=
  rechargeWithValidation (.text "missing payment order number") false context db
    referenceId providerPayload (validation.withProvider "stripe")
    (if trimSpace customerId = "" then none else some (trimSpace customerId))

def rechargeWaffoWithValidation (context : PaymentContext) (db : PaymentDatabase)
    (tradeNo providerPayload : String) (validation : PaymentCallbackValidation) :
    Except PaymentError PaymentDatabase :=
  rechargeWithValidation tradeNoMissing false context db tradeNo providerPayload
    (validation.withProvider "waffo") none

def rechargeWaffo (context : PaymentContext) (db : PaymentDatabase) (tradeNo : String) :
    Except PaymentError PaymentDatabase :=
  rechargeWaffoWithValidation context db tradeNo ""
    { expectedPaymentProvider := "waffo", actualPaymentMethod := "waffo" }

def rechargeWaffoPancakeWithValidation (context : PaymentContext) (db : PaymentDatabase)
    (tradeNo providerPayload : String) (validation : PaymentCallbackValidation) :
    Except PaymentError PaymentDatabase :=
  rechargeWithValidation tradeNoMissing false context db tradeNo providerPayload
    (validation.withProvider "waffo_pancake") none

def rechargeWaffoPancake (context : PaymentContext) (db : PaymentDatabase) (tradeNo : String) :
    Except PaymentError PaymentDatabase :=
  rechargeWaffoPancakeWithValidation context db tradeNo ""
    { expectedPaymentProvider := "waffo_pancake"
      actualPaymentMethod := "waffo_pancake" }

def rechargeEpayWithValidation (context : PaymentContext) (db : PaymentDatabase)
    (tradeNo providerPayload : String) (validation : PaymentCallbackValidation) :
    Except PaymentError PaymentDatabase :=
  rechargeWithValidation (.text "missing payment order number") true context db
    tradeNo providerPayload (validation.withProvider "epay") none

def rechargeBEpusdtWithValidation (context : PaymentContext) (db : PaymentDatabase)
    (tradeNo providerPayload : String) (validation : PaymentCallbackValidation) :
    Except PaymentError PaymentDatabase :=
  rechargeWithValidation tradeNoMissing true context db tradeNo providerPayload validation none

def rechargeBEpusdt (context : PaymentContext) (db : PaymentDatabase)
    (tradeNo providerPayload actualPaymentMethod : String) :
    Except PaymentError PaymentDatabase :=
  rechargeBEpusdtWithValidation context db tradeNo providerPayload
    { expectedPaymentProvider := "bepusdt"
      actualPaymentMethod := actualPaymentMethod }

/-- `rechargeCreemWithValidation`: the amount of the order is the quota. -/
def rechargeCreemWithValidation (context : PaymentContext) (db : PaymentDatabase)
    (referenceId providerPayload : String) (validation : PaymentCallbackValidation) :
    Except PaymentError PaymentDatabase :=
  if referenceId = "" then .error tradeNoMissing
  else do
    let topUp ← lockTopUp db referenceId
    let topUp ← acceptCallback context.mapping false topUp (validation.withProvider "creem")
    if topUp.status = .success then return db
    else if topUp.status.allowsPaymentCompletion = false then throw .topUpStatusInvalid
    else
      match walletQuotaFromDecimalStrict topUp.amount with
      | none => throw .invalidTopUpQuota
      | some quota =>
        if quota ≤ 0 then throw .invalidTopUpQuota
        else
          completeTopUp context.now db
            { topUp with
              providerPayload :=
                if providerPayload = "" then topUp.providerPayload
                else providerPayload }
            quota none

def rechargeCreem (context : PaymentContext) (db : PaymentDatabase) (referenceId : String) :
    Except PaymentError PaymentDatabase :=
  rechargeCreemWithValidation context db referenceId "" { expectedPaymentProvider := "creem" }

def rechargeEpay (context : PaymentContext) (db : PaymentDatabase)
    (tradeNo actualPaymentMethod : String) :
    Except PaymentError PaymentDatabase :=
  if tradeNo = "" then .error tradeNoMissing
  else do
    let topUp ← lockTopUp db tradeNo
    if topUp.paymentProvider ≠ "epay" then throw .paymentMethodMismatch
    else if topUp.status = .success then return db
    else if topUp.status.allowsPaymentCompletion = false then throw .topUpStatusInvalid
    else
      match walletQuotaFromDecimalStrict (topUp.amount * context.quotaPerUnit) with
      | none => throw .invalidTopUpQuota
      | some quota =>
        if quota ≤ 0 then throw .invalidTopUpQuota
        else
          completeTopUp context.now db
            { topUp with
              paymentMethod :=
                if actualPaymentMethod = "" then topUp.paymentMethod
                else actualPaymentMethod }
            quota none

/-- `Recharge`, of Stripe: a successful order is an error here. -/
def recharge (context : PaymentContext) (db : PaymentDatabase)
    (referenceId customerId : String) : Except PaymentError PaymentDatabase :=
  if referenceId = "" then .error tradeNoMissing
  else do
    let topUp ← lockTopUp db referenceId
    if topUp.paymentProvider ≠ "stripe" then throw .paymentMethodMismatch
    else if topUp.status.allowsPaymentCompletion = false then throw .topUpStatusInvalid
    else
      let quota := topUp.creditQuotaAmount context.quotaPerUnit
      if quota ≤ 0 then throw .invalidTopUpQuota
      else completeTopUp context.now db topUp quota (some customerId)

def manualCompleteTopUp (context : PaymentContext) (db : PaymentDatabase) (tradeNo : String) :
    Except PaymentError PaymentDatabase :=
  if tradeNo = "" then .error (.localized "topup.order_no_missing")
  else
    match db.topUps.lookup tradeNo with
    | none => .error (.localized "topup.order_not_exists")
    | some topUp =>
      if topUp.status = .success then .ok db
      else if topUp.status.allowsPaymentCompletion = false then
        .error (.localized "topup.cannot_manual_settle")
      else
        let quota := topUp.creditQuotaAmount context.quotaPerUnit
        if quota ≤ 0 then .error .invalidTopUpQuota
        else completeTopUp context.now db topUp quota none

def updatePendingTopUpStatus (context : PaymentContext) (db : PaymentDatabase)
    (tradeNo expectedPaymentProvider : String) (targetStatus : TopUpStatus) :
    Except PaymentError PaymentDatabase :=
  if tradeNo = "" then .error tradeNoMissing
  else do
    let topUp ← lockTopUp db tradeNo
    if expectedPaymentProvider ≠ "" ∧
        topUp.paymentProvider ≠ expectedPaymentProvider then
      throw .paymentMethodMismatch
    else if topUp.status ≠ .pending then throw .topUpStatusInvalid
    else
      return { db with
        topUps :=
          db.topUps.save
            { topUp with
              status := targetStatus
              completeTime :=
                if targetStatus ≠ .pending ∧ topUp.completeTime ≤ 0 then context.now
                else topUp.completeTime } }

def paymentOrphanHasPaymentFactMismatch
    (mapping : CaseMapping) (orphan : PaymentOrphanEvent) : Bool :=
  let errorText := toLower mapping (trimSpace orphan.error)
  if errorText = "" then false
  else
    contains errorText PaymentError.paymentMethodMismatch.message ||
      contains errorText PaymentError.paymentAmountMismatch.message ||
        contains errorText PaymentError.paymentCurrencyMismatch.message

def canCreditExistingPaymentOrphanEventBase
    (mapping : CaseMapping) (orphan : PaymentOrphanEvent) : Bool :=
  if orphan.status ≠ .pendingReview ∨ trimSpace orphan.referenceId = "" then false
  else
    let provider := trimSpace orphan.provider
    if provider = "" ∨ equalFold mapping provider "stripe" ∨
        !contains (toLower mapping orphan.reason)
          "requires manual review after payment succeeded" then
      false
    else !paymentOrphanHasPaymentFactMismatch mapping orphan

def markPaymentOrphanCredited
    (orphan : PaymentOrphanEvent) (resolvedBy now : Int) : PaymentOrphanEvent :=
  { orphan with
    status := .credited
    resolvedBy := resolvedBy
    resolvedAt := now
    resolution := some .credited }

/-- `creditExistingPaymentOrphan` for the payment of a top-up order; the half
for subscription orders, which it tries when there is no such top-up, is left
out. -/
def creditExistingPaymentOrphan
    (context : PaymentContext) (db : PaymentDatabase) (id resolvedBy : Int) :
    Except PaymentError PaymentDatabase :=
  match db.orphans.lookup id with
  | none => .error .paymentOrphanNotFound
  | some orphan =>
    if orphan.status = .credited then .ok db
    else if canCreditExistingPaymentOrphanEventBase context.mapping orphan =
        false then
      .error .paymentOrphanNotCredit
    else
      match db.topUps.lookup orphan.referenceId with
      | none => .error .paymentOrphanNotCredit
      | some topUp =>
        let credited := markPaymentOrphanCredited orphan resolvedBy context.now
        if equalFold context.mapping (trimSpace topUp.paymentProvider)
            (trimSpace orphan.provider) = false then
          .error .paymentOrphanNotCredit
        else if topUp.status = .success then .ok { db with orphans := db.orphans.save credited }
        else if topUp.status.allowsPaymentCompletion = false then .error .paymentOrphanNotCredit
        else
          let quota := topUp.creditQuotaAmount context.quotaPerUnit
          if quota ≤ 0 then .error .paymentOrphanNotCredit
          else do
            let db ← completeTopUp context.now db
              { topUp with providerPayload := orphan.payload } quota none
            return { db with orphans := db.orphans.save credited }

end NewApi.Payments
