import Mathlib.Data.List.Sort
import NewApi.Billing.RequestView

/-!
# Subscription quotas and their resets

`model/subscription.go`.  A subscription counts the usage of its current period
in `amountUsed`.  Timestamps tell whether a reset has cleared the usage of a
request: it has when `lastResetTime` is later than the creation of its reserve
row.  The local time zone enters through a `Calendar`, the starts of its days,
weeks and months.
-/

namespace NewApi.Billing

open Transactions

/-- The server's location, by what `time.Date` gives there for the midnight, the
Monday and the month start after a moment.  Where the clocks skip a midnight it
gives a moment of the day before. -/
structure Location where
  nextMidnight : Int → Int
  nextMonday : Int → Int
  nextMonth : Int → Int

/-- A location whose clocks skip no midnight: these starts come strictly after
the moment. -/
structure Calendar extends Location where
  lt_nextMidnight : ∀ moment, moment < nextMidnight moment
  lt_nextMonday : ∀ moment, moment < nextMonday moment
  lt_nextMonth : ∀ moment, moment < nextMonth moment

/-- The end of the period that starts at `base`, zero when there is none.  The
nanoseconds of a custom period are those of an `int64`, which hold 292 years;
`Location.calcNextResetTime` has the product that wraps. -/
def calcNextResetTime (calendar : Calendar) (base : Int) (plan : SubscriptionPlan)
    (endUnix : Int) : Int :=
  let bounded (next : Int) : Int := if 0 < endUnix ∧ endUnix < next then 0 else next
  match plan.quotaResetPeriod with
  | .never => 0
  | .daily => bounded (calendar.nextMidnight base)
  | .weekly => bounded (calendar.nextMonday base)
  | .monthly => bounded (calendar.nextMonth base)
  | .custom =>
    if plan.quotaResetCustomSeconds ≤ 0 then 0
    else bounded (base + plan.quotaResetCustomSeconds)

def UserSubscription.resetBase (sub : UserSubscription) : Int :=
  if sub.lastResetTime ≤ 0 then sub.startTime else sub.lastResetTime

/-- The loop that skips to the last boundary not after `now`.  The result is
the new base, the boundary after it, and whether any boundary was passed. -/
def advanceReset (calendar : Calendar) (plan : SubscriptionPlan) (endTime now : Int) :
    Nat → Int → Int → Bool → Int × Int × Bool
  | 0, base, next, advanced => (base, next, advanced)
  | fuel + 1, base, next, advanced =>
    if 0 < next ∧ next ≤ now then
      advanceReset calendar plan endTime now fuel next
        (calcNextResetTime calendar next plan endTime) true
    else (base, next, advanced)

def maybeResetUserSubscription (calendar : Calendar) (plan : SubscriptionPlan) (now : Int)
    (sub : UserSubscription) : UserSubscription :=
  if 0 < sub.nextResetTime ∧ now < sub.nextResetTime then sub
  else if plan.quotaResetPeriod = .never then sub
  else
    let base := sub.resetBase
    match
      advanceReset calendar plan sub.endTime now ((now - base).toNat + 1) base
        (calcNextResetTime calendar base plan sub.endTime) false
    with
    | (base, next, false) =>
      if sub.nextResetTime = 0 ∧ 0 < next then
        { sub with nextResetTime := next, lastResetTime := base }
      else sub
    | (base, next, true) =>
      { sub with amountUsed := 0, lastResetTime := base, nextResetTime := next }

namespace Database

def saveSubscription (db : Database) (sub : UserSubscription) : Database :=
  { db with subscriptions := db.subscriptions.save sub }

def saveSubscriptionPreConsume (db : Database) (record : SubscriptionPreConsumeRecord) : Database :=
  { db with subscriptionPreConsumes := db.subscriptionPreConsumes.save record }

end Database

def maybeResetUserSubscriptionWithPlanTx (calendar : Calendar) (db : Database) (now : Int)
    (sub : UserSubscription) (plan : SubscriptionPlan) : Database :=
  db.saveSubscription (maybeResetUserSubscription calendar plan now sub)

/-- The transaction of `ResetDueSubscriptions` on one row: the row is locked
again under the due condition, and a row without a plan is skipped. -/
def resetDueSubscription (calendar : Calendar) (db : Database) (now id : Int) : Database :=
  match db.subscriptions.lookup id with
  | none => db
  | some sub =>
    if 0 < sub.nextResetTime ∧ sub.nextResetTime ≤ now ∧
        sub.status = .active then
      match db.plans.lookup sub.planId with
      | none => db
      | some plan => maybeResetUserSubscriptionWithPlanTx calendar db now sub plan
    else db

def resetUserSubscription (calendar : Calendar) (plan : SubscriptionPlan) (now : Int)
    (advanceResetTime : Bool) (sub : UserSubscription) : UserSubscription :=
  let cleared := { sub with amountUsed := 0 }
  if advanceResetTime then
    let nextReset := calcNextResetTime calendar now plan sub.endTime
    { cleared with
      nextResetTime := nextReset
      lastResetTime := if 0 < nextReset then now else 0 }
  else cleared

/-- Administrator resets: every active subscription that `selected` matches is
reset.  `AdminResetUserSubscriptionsByPlan` selects by user and plan and fails
when nothing matches; `AdminResetPlanSubscriptions` selects by plan. -/
def adminResetSubscriptionsTx (calendar : Calendar) (db : Database) (plan : SubscriptionPlan)
    (now : Int) (advanceResetTime : Bool) (selected : UserSubscription → Bool) : Database :=
  (db.subscriptions.rows.filter (fun sub =>
      selected sub && sub.planId = plan.id && sub.status = .active &&
        decide (now < sub.endTime))).foldl
    (fun db sub =>
      db.saveSubscription (resetUserSubscription calendar plan now advanceResetTime sub))
    db

def adminResetUserSubscriptionsByPlan
    (calendar : Calendar) (db : Database) (now userId planId : Int)
    (advanceResetTime : Bool) : Except BillingError Database :=
  if userId ≤ 0 ∨ planId ≤ 0 then .error (.text "invalid userId or planId")
  else
    match db.plans.lookup planId with
    | none => .error .recordNotFound
    | some plan =>
      let selected := fun sub : UserSubscription => decide (sub.userId = userId)
      if db.subscriptions.rows.any (fun sub =>
          selected sub && sub.planId = plan.id && sub.status = .active &&
            decide (now < sub.endTime)) then
        .ok (adminResetSubscriptionsTx calendar db plan now advanceResetTime selected)
      else .error (.text "subscription.no_active_plan")

def adminResetPlanSubscriptions (calendar : Calendar) (db : Database) (now planId : Int)
    (advanceResetTime : Bool) : Except BillingError Database :=
  if planId ≤ 0 then .error (.text "invalid planId")
  else
    match db.plans.lookup planId with
    | none => .error .recordNotFound
    | some plan =>
      .ok (adminResetSubscriptionsTx calendar db plan now advanceResetTime (fun _ => true))

/-- `subscriptionGrantsGroup`: an empty list grants the user's base groups. -/
def subscriptionGrantsGroup (grantGroups : List String) (usingGroup : String)
    (baseGroups : List String) : Bool :=
  if usingGroup = "" ∨ usingGroup = "auto" then false
  else if grantGroups = [] then baseGroups.contains usingGroup
  else grantGroups.contains usingGroup

def activeSubscriptions (db : Database) (userId now : Int) : List UserSubscription :=
  (db.subscriptions.rows.filter (fun sub =>
      sub.userId = userId && sub.status = .active && decide (now < sub.endTime))).insertionSort
    (fun left right =>
      left.endTime < right.endTime ∨ left.endTime = right.endTime ∧ left.id ≤ right.id)

private def needText (amount : Int) : String := ", need=" ++ toString amount

/-- Try the candidates in order: reset the row when it is due, skip it when it
is short, and book the pre-consume on the first one that can pay. -/
def preConsumeCandidates (calendar : Calendar) (now : Int)
    (requestId : String) (userId amount : Int) (usingGroup : String) (baseGroups : List String) :
    Database → List UserSubscription → (sawScoped sawMatching : Bool) → Except BillingError Database
  | _, [], sawScoped, sawMatching =>
    if !sawMatching && sawScoped then .error (.noActiveSubscriptionGrantsGroup (": " ++ usingGroup))
    else .error (.subscriptionQuotaInsufficient (needText amount))
  | db, sub :: rest, sawScoped, sawMatching =>
    let sawScoped := sawScoped || sub.grantGroups ≠ []
    if !subscriptionGrantsGroup sub.grantGroups usingGroup baseGroups then
      preConsumeCandidates calendar now requestId userId amount usingGroup
        baseGroups db rest sawScoped sawMatching
    else
      match db.plans.lookup sub.planId with
      | none => .error .recordNotFound
      | some plan =>
        let db := maybeResetUserSubscriptionWithPlanTx calendar db now sub plan
        let sub := maybeResetUserSubscription calendar plan now sub
        if 0 < sub.amountTotal ∧ sub.amountTotal - sub.amountUsed < amount
        then
          preConsumeCandidates calendar now requestId userId amount
            usingGroup baseGroups db rest sawScoped true
        else
          match
            db.subscriptionPreConsumes.create
              { requestId := requestId
                userId := userId
                userSubscriptionId := sub.id
                preConsumed := amount
                status := .consumed
                createdAt := now }
          with
          | none => .error .duplicatedKey
          | some records =>
            .ok
              (Database.saveSubscription
                { db with subscriptionPreConsumes := records }
                { sub with amountUsed := sub.amountUsed + amount })

def preConsumeUserSubscriptionTx (calendar : Calendar) (db : Database) (now : Int)
    (requestId : String) (userId amount : Int) (usingGroup : String) (baseGroups : List String) :
    Except BillingError Database :=
  if userId ≤ 0 then .error (.text "invalid userId")
  else if requestId = "" then .error (.text "requestId is empty")
  else if amount ≤ 0 then .error (.text "amount must be > 0")
  else
    match db.subscriptionPreConsumes.lookup requestId with
    | some existing =>
      if existing.status = .refunded then .error (.text "subscription pre-consume already refunded")
      else
        match db.subscriptions.lookup existing.userSubscriptionId with
        | none => .error .recordNotFound
        | some _ => .ok db
    | none =>
      let subs := activeSubscriptions db userId now
      if subs = [] then .error .noActiveSubscription
      else
        preConsumeCandidates calendar now requestId userId amount usingGroup
          baseGroups db subs false false

/-! ## Usage changes -/

def normalizeSubscriptionUnix (ts : Int) : Int := if 1000000000000 < ts then ts / 1000 else ts

def subscriptionUsageClearedByReset (lastResetTime consumedAt : Int) : Bool :=
  let consumedAt := normalizeSubscriptionUnix consumedAt
  decide (0 < consumedAt) && decide (consumedAt < lastResetTime)

/-- Change the usage of a locked row; the counter stops at zero. -/
def applyUserSubscriptionDeltaTx (db : Database) (sub : UserSubscription) (delta : Int)
    (allowOverdraft : Bool) : Except BillingError Database :=
  let newUsed := if sub.amountUsed + delta < 0 then 0 else sub.amountUsed + delta
  if !allowOverdraft ∧ 0 < delta ∧ 0 < sub.amountTotal ∧
      sub.amountTotal < newUsed then
    .error
      (.text
        ("subscription used exceeds total, used=" ++ toString newUsed ++
          " total=" ++ toString sub.amountTotal))
  else .ok (db.saveSubscription { sub with amountUsed := newUsed })

/-- The used amount moves by the change, but not below zero. -/
theorem applyUserSubscriptionDeltaTx_cases {db after : Database} {sub : UserSubscription}
    {delta : Int} {allowOverdraft : Bool}
    (done : applyUserSubscriptionDeltaTx db sub delta allowOverdraft = .ok after) :
    after = db.saveSubscription { sub with amountUsed := max 0 (sub.amountUsed + delta) } := by
  have clamped : max 0 (sub.amountUsed + delta) =
      if sub.amountUsed + delta < 0 then 0 else sub.amountUsed + delta := by
    split <;> omega
  rw [clamped]
  exact (Except.ok.inj (Transactions.guard_ok_iff.mp done).2).symm

def lockSubscriptionTx (db : Database) (id : Int) : Except BillingError UserSubscription :=
  match db.subscriptions.lookup id with
  | none => .error .recordNotFound
  | some sub => .ok sub

def lockSubscriptionPreConsumeRecordTx (db : Database) (requestID : String) :
    Option SubscriptionPreConsumeRecord :=
  if requestID = "" then none else db.subscriptionPreConsumes.lookup requestID

def negativePostReset : BillingError := .text "subscription post-reset reserve cannot be negative"

def reserveUserSubscriptionDeltaTx
    (db : Database) (requestID : String) (subscriptionID delta : Int) :
    Except BillingError Database := do
  let record := lockSubscriptionPreConsumeRecordTx db requestID
  let sub ← lockSubscriptionTx db subscriptionID
  let db ←
    match record with
    | none => .ok db
    | some record =>
      if subscriptionUsageClearedByReset sub.lastResetTime record.createdAt
      then
        if record.postResetReserved < 0 then .error negativePostReset
        else
          .ok
            (db.saveSubscriptionPreConsume
              { record with postResetReserved := record.postResetReserved + delta })
      else .ok db
  applyUserSubscriptionDeltaTx db sub delta false

def reserveUserSubscriptionDelta (db : Database) (requestID : String) (subscriptionID delta : Int) :
    Except BillingError Database :=
  if subscriptionID ≤ 0 then .error (.text "invalid userSubscriptionId")
  else if delta = 0 then .ok db
  else if delta < 0 then .error (.text "subscription reserve cannot be negative")
  else reserveUserSubscriptionDeltaTx db requestID subscriptionID delta

def refundSubscriptionReservedExtraTx
    (db : Database) (requestID : String) (subscriptionID extra : Int) :
    Except BillingError (Int × Database) :=
  if extra ≤ 0 then .ok (0, db)
  else do
    let record := lockSubscriptionPreConsumeRecordTx db requestID
    let sub ← lockSubscriptionTx db subscriptionID
    let (amount, db) ←
      match record with
      | none => .ok (extra, db)
      | some record =>
        if subscriptionUsageClearedByReset sub.lastResetTime record.createdAt
        then
          if record.postResetReserved < 0 then .error negativePostReset
          else
            let amount := min record.postResetReserved extra
            .ok
              (amount,
                db.saveSubscriptionPreConsume
                  { record with postResetReserved := record.postResetReserved - amount })
        else .ok (extra, db)
    if amount = 0 then .ok (0, db)
    else do
      let db ← applyUserSubscriptionDeltaTx db sub (-amount) false
      .ok (amount, db)

def refundSubscriptionReservedExtra
    (db : Database) (requestID : String) (subscriptionID extra : Int) :
    Except BillingError (Int × Database) :=
  if extra ≤ 0 then .ok (0, db)
  else if subscriptionID ≤ 0 then .error (.text "invalid userSubscriptionId")
  else refundSubscriptionReservedExtraTx db requestID subscriptionID extra

def subscriptionPostResetReservedTx
    (db : Database) (requestID : String) : Except BillingError Int :=
  match lockSubscriptionPreConsumeRecordTx db requestID with
  | none => .ok 0
  | some record =>
    if record.postResetReserved < 0 then .error negativePostReset
    else .ok record.postResetReserved

def clearSubscriptionPostResetReservedTx (db : Database) (requestID : String) : Database :=
  match lockSubscriptionPreConsumeRecordTx db requestID with
  | none => db
  | some record => db.saveSubscriptionPreConsume { record with postResetReserved := 0 }

/-- Settle one delta.  After a reset the new period is charged the final
amount less what was reserved in it. -/
def applySubscriptionLedgerChargeTx
    (db : Database) (subscriptionID rawDelta chargeQuota consumedAt : Int)
    (requestID : String) : Except BillingError Database :=
  if subscriptionID ≤ 0 then .error (.text "invalid userSubscriptionId")
  else if chargeQuota < 0 then .error (.text "subscription charge quota cannot be negative")
  else do
    let posted ← subscriptionPostResetReservedTx db requestID
    let sub ← lockSubscriptionTx db subscriptionID
    let effective :=
      if subscriptionUsageClearedByReset sub.lastResetTime consumedAt then chargeQuota - posted
      else rawDelta
    if effective = 0 then .ok db
    else applyUserSubscriptionDeltaTx db sub effective (decide (0 < effective))

def subscriptionPreConsumeCreatedAtTx (db : Database) (requestID : String) : Int :=
  match lockSubscriptionPreConsumeRecordTx db requestID with
  | none => 0
  | some record => record.createdAt

def subscriptionRefundConsumedAt (row : BillingAdjustment) : Int :=
  if 0 < row.subscriptionConsumedAt then row.subscriptionConsumedAt
  else row.createdAt

def refundLedgerChargeAppliedAfterResetTx (db : Database) (row : BillingAdjustment) :
    Except BillingError Database :=
  if row.chargeQuota ≤ 0 ∨ row.subscriptionID ≤ 0 then .ok db
  else do
    let sub ← lockSubscriptionTx db row.subscriptionID
    let consumedAt := subscriptionRefundConsumedAt row
    if !subscriptionUsageClearedByReset sub.lastResetTime consumedAt then .ok db
    else
      let appliedAt := if row.updatedAt ≤ 0 then row.createdAt else row.updatedAt
      if appliedAt < sub.lastResetTime then .ok db
      else applyUserSubscriptionDeltaTx db sub (-row.chargeQuota) false

def refundSubscriptionUsageIfCurrentPeriodTx
    (db : Database) (subscriptionID amount consumedAt : Int) :
    Except BillingError Database :=
  if amount = 0 then .ok db
  else if amount < 0 then .error (.text "subscription refund cannot be negative")
  else if subscriptionID ≤ 0 then .error (.text "invalid userSubscriptionId")
  else do
    let sub ← lockSubscriptionTx db subscriptionID
    if subscriptionUsageClearedByReset sub.lastResetTime consumedAt then .ok db
    else applyUserSubscriptionDeltaTx db sub (-amount) false

def refundPositiveUsageTx (db : Database) (subscriptionID amount consumedAt : Int) :
    Except BillingError Database :=
  if 0 < amount then
    refundSubscriptionUsageIfCurrentPeriodTx db subscriptionID amount consumedAt
  else .ok db

def closeSubscriptionPreConsumeTx
    (db : Database) (record : SubscriptionPreConsumeRecord) (amount : Int) :
    Except BillingError Database := do
  let db ← refundPositiveUsageTx db record.userSubscriptionId amount record.createdAt
  .ok (db.saveSubscriptionPreConsume { record with status := .refunded })

def refundSubscriptionPreConsumeTx
    (db : Database) (requestId : String) : Except BillingError Database :=
  if requestId = "" then .error (.text "requestId is empty")
  else
    match db.subscriptionPreConsumes.lookup requestId with
    | none => .error .recordNotFound
    | some record =>
      if record.status = .refunded then .ok db
      else closeSubscriptionPreConsumeTx db record record.preConsumed

def rollbackSubscriptionPreConsumeSettlementTx
    (db : Database) (requestId : String) (actualQuota : Int) :
    Except BillingError Database :=
  if requestId = "" then .error (.text "requestId is empty")
  else if actualQuota < 0 then
    .error (.text ("actual quota cannot be negative: " ++ toString actualQuota))
  else
    match db.subscriptionPreConsumes.lookup requestId with
    | none => .error .recordNotFound
    | some record =>
      if record.status = .refunded then .ok db
      else closeSubscriptionPreConsumeTx db record actualQuota

def subscriptionPreConsumeLeaseSeconds : Int := 120

def armSubscriptionPreConsumeLease (db : Database) (now : Int) (requestID : String) : Database :=
  match db.subscriptionPreConsumes.lookup requestID with
  | none => db
  | some record =>
    if record.status = .consumed then
      db.saveSubscriptionPreConsume
        { record with leaseUntil := now + subscriptionPreConsumeLeaseSeconds }
    else db

def subscriptionBillingAdjustmentExistsTx (db : Database) (requestID : String) : Bool :=
  requestID ≠ "" && db.billingAdjustments.rows.any (fun row => row.requestID = requestID)

def recoverExpiredSubscriptionPreConsume (db : Database) (now : Int) (requestID : String) :
    Except BillingError Database :=
  if requestID = "" then .ok db
  else
    match db.subscriptionPreConsumes.lookup requestID with
    | none => .error .recordNotFound
    | some record =>
      if record.status ≠ .consumed then .ok db
      else if now < record.leaseUntil then .error .subscriptionPreConsumeLeaseActive
      else if record.clientDelivered ||
          subscriptionBillingAdjustmentExistsTx db requestID then
        .ok (db.saveSubscriptionPreConsume { record with leaseUntil := 0 })
      else do
        let db ←
          if 0 < record.postResetReserved then do
            let (_, db) ←
              refundSubscriptionReservedExtraTx db requestID
                record.userSubscriptionId record.postResetReserved
            .ok db
          else .ok db
        refundSubscriptionPreConsumeTx db requestID

def recoverExpiredSubscriptionPreConsumes (db : Database) (now limit : Int) : Database :=
  let batch := if limit ≤ 0 then 100 else limit.toNat
  let expired :=
    db.subscriptionPreConsumes.rows.filter (fun record =>
      record.status = .consumed && decide (0 < record.leaseUntil) &&
        decide (record.leaseUntil ≤ now))
  (expired.take batch).foldl
    (fun db record => commit db (recoverExpiredSubscriptionPreConsume db now record.requestId))
    db

def UserSubscription.sample : UserSubscription where
  id := 1
  userId := 1
  planId := 1
  amountTotal := 1000
  amountUsed := 20
  startTime := 1
  endTime := 100000
  status := .active
  lastResetTime := 0
  nextResetTime := 0
  grantGroups := []

def Database.sampleSubscribed : Database :=
  { Database.sample with
    plans := ⟨[⟨1, .never, 0⟩], by decide⟩
    subscriptions := ⟨[.sample], by decide⟩ }

def SubscriptionPreConsumeRecord.sample : SubscriptionPreConsumeRecord where
  requestId := "req-1"
  userId := 1
  userSubscriptionId := 1
  preConsumed := 10
  status := .consumed
  leaseUntil := 121
  createdAt := 1

def Database.sampleHeld : Database :=
  { Database.sampleSubscribed with
    subscriptions := ⟨[{ UserSubscription.sample with amountUsed := 30 }], by decide⟩
    subscriptionPreConsumes := ⟨[.sample], by decide⟩ }

theorem lt_nextDay (moment : Int) : moment < (moment / 86400 + 1) * 86400 := by
  omega

/-- Days and weeks of UTC; the months stand in for the real ones and are not
consulted by the plans of the sample database. -/
def Calendar.sample : Calendar where
  nextMidnight moment := (moment / 86400 + 1) * 86400
  nextMonday moment := ((moment / 86400 + 3) / 7 + 1) * 604800 - 259200
  nextMonth moment := (moment / 2592000 + 1) * 2592000
  lt_nextMidnight := lt_nextDay
  lt_nextMonday := by
    intro moment
    omega
  lt_nextMonth := by
    intro moment
    omega

end NewApi.Billing
