import NewApi.Billing.Database
import NewApi.Lib.BulkStatements
import NewApi.Lib.GoStrings

/-!
# Upgrade groups of subscriptions

Buying a plan puts the user into its upgrade group; the end of a subscription
gives the earlier group back.  A subscription remembers the group that it
replaced, and nothing when the user was in its upgrade group already.
-/

namespace NewApi.Subscriptions

open GoStrings
open Billing (UserSubscriptionStatus)

/-- The columns of a plan that a purchase reads.  `endTime` is
`calcPlanEndTime`. -/
structure SubscriptionPlan where
  id : Int
  upgradeGroup : String
  downgradeGroup : String := ""
  maxPurchasePerUser : Int := 0
  endTime : Int → Except String Int

structure UserSubscription where
  id : Int
  userId : Int
  planId : Int
  endTime : Int
  status : UserSubscriptionStatus
  upgradeGroup : String
  prevUserGroup : String
  downgradeGroup : String
  deriving DecidableEq, Repr

structure GroupDatabase where
  groups : Int → Option String
  subscriptions : KeyedTable UserSubscription.id

inductive GroupError where
  | recordNotFound
  | duplicatedKey
  | purchaseLimit
  | text (message : String)
  deriving DecidableEq, Repr

/-- The group column of a user; a missing user reads as the empty group. -/
def GroupDatabase.group (db : GroupDatabase) (userId : Int) : String := (db.groups userId).getD ""

def GroupDatabase.setGroup (db : GroupDatabase) (userId : Int) (group : String) : GroupDatabase :=
  { db with
    groups := fun id =>
      if id = userId then (db.groups id).map (fun _ => group)
      else db.groups id }

def GroupDatabase.userRows (db : GroupDatabase) (userId : Int) :
    List UserSubscription :=
  db.subscriptions.rows.filter (fun row => row.userId = userId)

def getUserGroupByIdTx (db : GroupDatabase) (userId : Int) :
    Except GroupError String :=
  if userId ≤ 0 then .error (.text "invalid userId")
  else .ok (db.group userId)

def createUserSubscriptionFromPlanTx
    (now : Int) (db : GroupDatabase) (id userId : Int) (plan : SubscriptionPlan) :
    Except GroupError GroupDatabase :=
  if plan.id = 0 then .error (.text "invalid plan")
  else if userId ≤ 0 then .error (.text "invalid user id")
  else if 0 < plan.maxPurchasePerUser ∧ db.groups userId = none then .error .recordNotFound
  else if 0 < plan.maxPurchasePerUser ∧
      plan.maxPurchasePerUser ≤
        ((db.userRows userId).filter (fun row => row.planId = plan.id)).length then
    .error .purchaseLimit
  else
    match plan.endTime now with
    | .error message => .error (.text message)
    | .ok endTime =>
      let upgradeGroup := trimSpace plan.upgradeGroup
      let upgrades := upgradeGroup ≠ "" ∧ db.group userId ≠ upgradeGroup
      let row : UserSubscription :=
        { id := id
          userId := userId
          planId := plan.id
          endTime := endTime
          status := .active
          upgradeGroup := upgradeGroup
          prevUserGroup := if upgrades then db.group userId else ""
          downgradeGroup := trimSpace plan.downgradeGroup }
      let db := if upgrades then db.setGroup userId upgradeGroup else db
      match db.subscriptions.create row with
      | none => .error .duplicatedKey
      | some subscriptions => .ok { db with subscriptions := subscriptions }

/-- `downgradeUserGroupForSubscriptionTx`, with the group that it moves the user
to. -/
def downgradeUserGroupForSubscriptionTx (now : Int) (db : GroupDatabase) (sub : UserSubscription) :
    Except GroupError (GroupDatabase × String) :=
  let downgradeGroup := trimSpace sub.downgradeGroup
  let upgradeGroup := trimSpace sub.upgradeGroup
  if downgradeGroup = "" ∧ upgradeGroup = "" then .ok (db, "")
  else do
    let currentGroup ← getUserGroupByIdTx db sub.userId
    if (db.userRows sub.userId).any (fun row =>
        row.status = .active && decide (now < row.endTime) &&
          decide (row.id ≠ sub.id) && decide (row.upgradeGroup ≠ "")) then
      .ok (db, "")
    else if downgradeGroup = "" ∧ currentGroup ≠ upgradeGroup then .ok (db, "")
    else
      let target :=
        if downgradeGroup = "" then trimSpace sub.prevUserGroup
        else downgradeGroup
      if target = "" ∨ target = currentGroup then .ok (db, "")
      else .ok (db.setGroup sub.userId target, target)

def adminInvalidateUserSubscription (now : Int) (db : GroupDatabase) (userSubscriptionId : Int) :
    Except GroupError (GroupDatabase × String) :=
  if userSubscriptionId ≤ 0 then .error (.text "invalid userSubscriptionId")
  else
    match db.subscriptions.lookup userSubscriptionId with
    | none => .error .recordNotFound
    | some sub =>
      let sub := { sub with status := .cancelled, endTime := now }
      downgradeUserGroupForSubscriptionTx now
        { db with subscriptions := db.subscriptions.save sub } sub

def adminDeleteUserSubscription (now : Int) (db : GroupDatabase) (userSubscriptionId : Int) :
    Except GroupError (GroupDatabase × String) :=
  if userSubscriptionId ≤ 0 then .error (.text "invalid userSubscriptionId")
  else
    match db.subscriptions.lookup userSubscriptionId with
    | none => .error .recordNotFound
    | some sub => do
        let (db, target) ← downgradeUserGroupForSubscriptionTx now db sub
        return ({ db with subscriptions := db.subscriptions.delete userSubscriptionId }, target)

def UserSubscription.due (now : Int) (row : UserSubscription) : Bool :=
  row.status = .active && decide (0 < row.endTime) && decide (row.endTime ≤ now)

def UserSubscription.expire (now : Int) (row : UserSubscription) :
    UserSubscription :=
  if row.due now then { row with status := .expired } else row

def endsLater (first second : UserSubscription) : Prop :=
  second.endTime < first.endTime ∨ first.endTime = second.endTime ∧ second.id ≤ first.id

instance : DecidableRel endsLater := fun _ _ => inferInstanceAs (Decidable (_ ∨ _))

def lastExpired (rows : List UserSubscription) : Option UserSubscription :=
  ((rows.filter (fun row =>
      row.status = .expired &&
        decide (row.downgradeGroup ≠ "" ∨ row.upgradeGroup ≠ ""))).insertionSort
    endsLater).head?

def expireUserTx (now : Int) (db : GroupDatabase) (userId : Int) :
    Except GroupError GroupDatabase :=
  let db : GroupDatabase :=
    { db with
      subscriptions :=
        db.subscriptions.update
          (fun row => row.userId = userId && row.due now)
          (fun row => { row with status := .expired }) (fun _ => rfl) }
  if (db.userRows userId).any (fun row =>
      row.status = .active && decide (now < row.endTime) &&
        decide (row.upgradeGroup ≠ "")) then
    .ok db
  else
    match lastExpired (db.userRows userId) with
    | none => .ok db
    | some last => do
        let currentGroup ← getUserGroupByIdTx db userId
        let downgradeGroup := trimSpace last.downgradeGroup
        let upgradeGroup := trimSpace last.upgradeGroup
        let prevGroup := trimSpace last.prevUserGroup
        if downgradeGroup = "" ∧ (upgradeGroup = "" ∨ prevGroup = "") then return db
        else if downgradeGroup = "" ∧ currentGroup ≠ upgradeGroup then return db
        else
          let target := if downgradeGroup = "" then prevGroup else downgradeGroup
          if target = "" ∨ target = currentGroup then return db
          else return db.setGroup userId target

structure MapOrder where
  visit : List Int → List Int
  perm : ∀ keys, (visit keys).Perm keys

def endsEarlier (first second : UserSubscription) : Prop :=
  first.endTime < second.endTime ∨ first.endTime = second.endTime ∧ first.id ≤ second.id

instance : DecidableRel endsEarlier := fun _ _ => inferInstanceAs (Decidable (_ ∨ _))

def dueUsers (now limit : Int) (order : MapOrder) (db : GroupDatabase) :
    List Int :=
  let limit := if limit ≤ 0 then 200 else limit.toNat
  let subs := ((db.subscriptions.rows.filter (·.due now)).insertionSort endsEarlier).take limit
  order.visit ((subs.map UserSubscription.userId).filter (0 < ·)).dedup

def expireUsers (now : Int) (fails : Int → Bool) :
    GroupDatabase → List Int → GroupDatabase
  | db, [] => db
  | db, userId :: rest =>
    if fails userId then db
    else
      match expireUserTx now db userId with
      | .error _ => db
      | .ok later => expireUsers now fails later rest

def expireDueSubscriptions (now limit : Int) (order : MapOrder) (fails : Int → Bool)
    (db : GroupDatabase) : GroupDatabase :=
  expireUsers now fails db (dueUsers now limit order db)

inductive GroupCall where
  | create (now id userId : Int) (plan : SubscriptionPlan)
  | expireDue (now limit : Int) (order : MapOrder) (fails : Int → Bool)
  | invalidate (now userSubscriptionId : Int)
  | delete (now userSubscriptionId : Int)

def GroupCall.now : GroupCall → Int
  | .create now _ _ _ => now
  | .expireDue now _ _ _ => now
  | .invalidate now _ => now
  | .delete now _ => now

def groupStep (db : GroupDatabase) : GroupCall → GroupDatabase
  | .create now id userId plan =>
    Transactions.commit db (createUserSubscriptionFromPlanTx now db id userId plan)
  | .expireDue now limit order fails => expireDueSubscriptions now limit order fails db
  | .invalidate now userSubscriptionId =>
    Transactions.commit db
      ((adminInvalidateUserSubscription now db userSubscriptionId).map Prod.fst)
  | .delete now userSubscriptionId =>
    Transactions.commit db ((adminDeleteUserSubscription now db userSubscriptionId).map Prod.fst)

end NewApi.Subscriptions
