import NewApi.Billing.SessionHold
import NewApi.Lib.GoStrings

/-!
# The pre-consumption of an image task

`newImageTaskBillingSessionTx`.  The quota of a task is taken from the wallet of
the user or from one of his subscriptions, and from the token.  An attempt at
the subscriptions that finds no quota leaves the resets that were due.
-/

namespace NewApi.ImageTasks

open Billing GoStrings Transactions KeyedTable

/-- What the creation of a task reads besides the tables: the reset calendar,
the groups of a user and the column `allow_wallet_overflow` of a
subscription. -/
structure BillingEnv where
  calendar : Calendar
  baseGroups : Int → List String
  allowWalletOverflow : Int → Bool

/-- What the relay info says about the billing of a task. -/
structure ImageTaskBilling where
  info : RelayInfo
  usingGroup : String
  billingPreference : String
  preConsumedQuota : Int
  billable : Bool
  /-- `QuotaClamp` is set. -/
  quotaClamp : Bool := false

inductive CreationError where
  | modelPrice
  | insufficientUserQuota
  | preConsumeTokenQuotaFailed
  | queryData
  | updateData
deriving DecidableEq

inductive BillingPreference where
  | subscriptionFirst
  | walletFirst
  | subscriptionOnly
  | walletOnly
deriving DecidableEq

def normalizeBillingPreference (pref : String) : BillingPreference :=
  if trimSpace pref = "wallet_first" then .walletFirst
  else if trimSpace pref = "subscription_only" then .subscriptionOnly
  else if trimSpace pref = "wallet_only" then .walletOnly
  else .subscriptionFirst

/-- What a task is charged: the billing source of its session with the quota
that the session has pre-consumed. -/
inductive ImageTaskCharge where
  | wallet (quota : Int)
  | subscription (subscriptionID quota : Int)
deriving DecidableEq

def ImageTaskCharge.quota : ImageTaskCharge → Int
  | .wallet quota => quota
  | .subscription _ quota => quota

abbrev BillingAttempt := Except (CreationError × Database) (ImageTaskCharge × Database)

def finishImageTaskBillingSessionTx (db : Database) (info : RelayInfo) (charge : ImageTaskCharge) :
    BillingAttempt :=
  if 0 < charge.quota ∧ info.isPlayground = false then
    match decreaseTokenQuotaTx db info.tokenId charge.quota with
    | .ok db => .ok (charge, db)
    | .error _ => .error (.preConsumeTokenQuotaFailed, db)
  else .ok (charge, db)

def newImageTaskWalletBillingSessionTx
    (db : Database) (info : RelayInfo) (quota : Int) : BillingAttempt :=
  match db.users.lookup info.userId with
  | none => .error (.queryData, db)
  | some user =>
    if user.quota ≤ 0 ∨ user.quota < quota then .error (.insufficientUserQuota, db)
    else if 0 < quota then
      match decreaseUserQuotaTx db info.userId quota with
      | .ok db => finishImageTaskBillingSessionTx db info (.wallet quota)
      | .error _ => .error (.updateData, db)
    else finishImageTaskBillingSessionTx db info (.wallet quota)

def isSubscriptionPreConsumeInsufficientError : BillingError → Bool
  | .noActiveSubscription => true
  | .noActiveSubscriptionGrantsGroup _ => true
  | .subscriptionQuotaInsufficient _ => true
  | _ => false

/-- What `preConsumeCandidates` leaves when no candidate can pay. -/
def resetCandidates (calendar : Calendar) (now : Int) (usingGroup : String)
    (baseGroups : List String) : Database → List UserSubscription → Database
  | db, [] => db
  | db, sub :: rest =>
    if !subscriptionGrantsGroup sub.grantGroups usingGroup baseGroups then
      resetCandidates calendar now usingGroup baseGroups db rest
    else
      match db.plans.lookup sub.planId with
      | none => db
      | some plan =>
        resetCandidates calendar now usingGroup baseGroups
          (maybeResetUserSubscriptionWithPlanTx calendar db now sub plan) rest

/-- The subscription and the quota that the reserve row of a request says. -/
def bookedCharge (db : Database) (requestID : String) (quota : Int) :
    ImageTaskCharge :=
  match db.subscriptionPreConsumes.lookup requestID with
  | none => .subscription 0 quota
  | some record => .subscription record.userSubscriptionId quota

def newImageTaskSubscriptionBillingSessionTx (env : BillingEnv) (db : Database) (now : Int)
    (billing : ImageTaskBilling) : BillingAttempt :=
  let info := billing.info
  let usingGroup := trimSpace billing.usingGroup
  let quota := if billing.preConsumedQuota ≤ 0 then 1 else billing.preConsumedQuota
  match
    preConsumeUserSubscriptionTx env.calendar db now info.requestId info.userId
      quota usingGroup (env.baseGroups info.userId)
  with
  | .ok db =>
    finishImageTaskBillingSessionTx db info (bookedCharge db info.requestId quota)
  | .error err =>
    if isSubscriptionPreConsumeInsufficientError err then
      .error
        (.insufficientUserQuota,
          resetCandidates env.calendar now usingGroup
            (env.baseGroups info.userId) db
            (activeSubscriptions db info.userId now))
    else .error (.updateData, db)

def subscriptionsAllowWalletOverflow (env : BillingEnv) (db : Database) (now userId : Int)
    (usingGroup : String) : Bool :=
  (activeSubscriptions db userId now).all fun sub =>
    !subscriptionGrantsGroup sub.grantGroups (trimSpace usingGroup)
        (env.baseGroups userId) ||
      env.allowWalletOverflow sub.id

def BillingAttempt.orElse (attempt : BillingAttempt)
    (other : CreationError × Database → BillingAttempt) : BillingAttempt :=
  match attempt with
  | .ok done => .ok done
  | .error failed =>
    if failed.1 = .insufficientUserQuota then other failed else .error failed

def newImageTaskBillingSessionTx (env : BillingEnv) (db : Database) (now : Int)
    (billing : ImageTaskBilling) : BillingAttempt :=
  let tryWallet (db : Database) : BillingAttempt :=
    newImageTaskWalletBillingSessionTx db billing.info billing.preConsumedQuota
  let trySubscription (db : Database) : BillingAttempt :=
    newImageTaskSubscriptionBillingSessionTx env db now billing
  match normalizeBillingPreference billing.billingPreference with
  | .subscriptionOnly => trySubscription db
  | .walletOnly => tryWallet db
  | .walletFirst => (tryWallet db).orElse fun failed => trySubscription failed.2
  | .subscriptionFirst =>
    if billing.info.userId ≤ 0 then .error (.queryData, db)
    else if activeSubscriptions db billing.info.userId now = [] then tryWallet db
    else
      (trySubscription db).orElse fun failed =>
        if subscriptionsAllowWalletOverflow env failed.2 now
            billing.info.userId billing.usingGroup then
          tryWallet failed.2
        else .error failed

/-- The subscription is as before, or it has had a reset that was due. -/
def ResetAtMost (calendar : Calendar) (now : Int) (before after : Database) (id : Int) :
    Prop :=
  after.subscriptions.lookup id = before.subscriptions.lookup id ∨
    ∃ sub plan, before.subscriptions.lookup id = some sub ∧
      before.plans.lookup sub.planId = some plan ∧
      after.subscriptions.lookup id = some (maybeResetUserSubscription calendar plan now sub)

structure ResetsOnly (calendar : Calendar) (now : Int) (before after : Database) : Prop where
  users : after.users = before.users
  records : after.subscriptionPreConsumes = before.subscriptionPreConsumes
  plans : after.plans = before.plans
  subscriptions : ∀ id, ResetAtMost calendar now before after id

structure WalletPaid (calendar : Calendar) (now userID quota : Int) (before after : Database) :
    Prop where
  users : ∀ id, quotaIn after.users id = quotaIn before.users id - if id = userID then quota else 0
  records : after.subscriptionPreConsumes = before.subscriptionPreConsumes
  subscriptions : ∀ id, ResetAtMost calendar now before after id

/-- One subscription has paid, and its reserve row says for what request. -/
structure SubscriptionPaid (calendar : Calendar) (now : Int) (requestID : String)
    (userID subscriptionID quota : Int) (before after : Database) : Prop where
  users : after.users = before.users
  records : after.subscriptionPreConsumes.rows =
    before.subscriptionPreConsumes.rows ++
      [{ requestId := requestID
         userId := userID
         userSubscriptionId := subscriptionID
         preConsumed := quota
         status := .consumed
         createdAt := now }]
  paid : ∃ sub plan, before.subscriptions.lookup subscriptionID = some sub ∧
    sub.userId = userID ∧ before.plans.lookup sub.planId = some plan ∧
      after.subscriptions.lookup subscriptionID =
        some
          { maybeResetUserSubscription calendar plan now sub with
            amountUsed := (maybeResetUserSubscription calendar plan now sub).amountUsed + quota }
  others : ∀ id, id ≠ subscriptionID → ResetAtMost calendar now before after id

/-- The charge is the quota that was to be pre-consumed, of which a
subscription pays one unit at least, and it has been taken once. -/
def ImageTaskCharge.Paid (calendar : Calendar) (now : Int) (billing : ImageTaskBilling)
    (before after : Database) : ImageTaskCharge → Prop
  | .wallet quota =>
    quota = billing.preConsumedQuota ∧
      WalletPaid calendar now billing.info.userId quota before after
  | .subscription subscriptionID quota =>
    quota = max 1 billing.preConsumedQuota ∧
      SubscriptionPaid calendar now billing.info.requestId billing.info.userId subscriptionID quota
        before after

section Resets

variable {calendar : Calendar} {now : Int} {before db after : Database}
  {usingGroup : String} {baseGroups : List String}

theorem ResetsOnly.refl : ResetsOnly calendar now db db := ⟨rfl, rfl, rfl, fun _ => Or.inl rfl⟩

variable {sub : UserSubscription} {plan : SubscriptionPlan}

theorem lookup_maybeReset (found : db.subscriptions.lookup sub.id = some sub) (id : Int) :
    (maybeResetUserSubscriptionWithPlanTx calendar db now sub plan).subscriptions.lookup id =
      if sub.id = id then some (maybeResetUserSubscription calendar plan now sub)
      else db.subscriptions.lookup id := by
  have sameID := maybeResetUserSubscription_id calendar plan now sub
  change (db.subscriptions.save _).lookup id = _
  rw [lookup_save, sameID]
  by_cases same : sub.id = id
  · rw [if_pos same, if_pos same, ← same, found, Option.map_some]
  · rw [if_neg same, if_neg same]

structure Untouched (before db : Database) (subs : List UserSubscription) : Prop where
  distinct : (subs.map UserSubscription.id).Nodup
  before : ∀ sub ∈ subs, before.subscriptions.lookup sub.id = some sub
  now : ∀ sub ∈ subs, db.subscriptions.lookup sub.id = some sub

variable {rest : List UserSubscription}

theorem Untouched.tail (untouched : Untouched before db (sub :: rest)) :
    Untouched before db rest where
  distinct := (List.nodup_cons.mp untouched.distinct).2
  before other listed := untouched.before other (List.mem_cons_of_mem _ listed)
  now other listed := untouched.now other (List.mem_cons_of_mem _ listed)

theorem Untouched.reset (untouched : Untouched before db (sub :: rest)) :
    Untouched before (maybeResetUserSubscriptionWithPlanTx calendar db now sub plan) rest where
  distinct := untouched.tail.distinct
  before := untouched.tail.before
  now other listed := by
    have different : sub.id ≠ other.id := by
      intro same
      apply (List.nodup_cons.mp untouched.distinct).1
      rw [same]
      exact List.mem_map_of_mem listed
    rw [lookup_maybeReset (untouched.now sub List.mem_cons_self), if_neg different]
    exact untouched.tail.now other listed

theorem ResetsOnly.reset (resets : ResetsOnly calendar now before db)
    (untouched : Untouched before db (sub :: rest))
    (planned : db.plans.lookup sub.planId = some plan) :
    ResetsOnly calendar now before
      (maybeResetUserSubscriptionWithPlanTx calendar db now sub plan) where
  users := resets.users
  records := resets.records
  plans := resets.plans
  subscriptions id := by
    have found := untouched.now sub List.mem_cons_self
    by_cases same : sub.id = id
    · right
      refine ⟨sub, plan, ?_, ?_, ?_⟩
      · rw [← same]
        exact untouched.before sub List.mem_cons_self
      · rw [← resets.plans]
        exact planned
      · rw [lookup_maybeReset found, if_pos same]
    · unfold ResetAtMost
      rw [lookup_maybeReset found, if_neg same]
      exact resets.subscriptions id

theorem resetsOnly_resetCandidates {subs : List UserSubscription}
    (resets : ResetsOnly calendar now before db) (untouched : Untouched before db subs) :
    ResetsOnly calendar now before
      (resetCandidates calendar now usingGroup baseGroups db subs) := by
  induction subs generalizing db with
  | nil => exact resets
  | cons sub rest ih =>
    unfold resetCandidates
    split
    · exact ih resets untouched.tail
    · split
      · exact resets
      · rename_i plan planned
        exact ih (resets.reset untouched planned) untouched.reset

theorem untouched_activeSubscriptions (db : Database) (userId now : Int) :
    Untouched db db (activeSubscriptions db userId now) := by
  refine ⟨?_, ?_, ?_⟩
  · unfold activeSubscriptions
    rw [((List.perm_insertionSort _ _).map _).nodup_iff]
    exact (List.filter_sublist.map _).nodup db.subscriptions.unique
  · exact fun sub listed => (mem_activeSubscriptions listed).1
  · exact fun sub listed => (mem_activeSubscriptions listed).1

end Resets

/-! ## Payments -/

section Payments

variable {calendar : Calendar} {now : Int} {before db after : Database}

variable {requestID : String} {userID : Int}

theorem preConsumeCandidates_paid {usingGroup : String} {amount : Int}
    {baseGroups : List String} {subs : List UserSubscription}
    {sawScoped sawMatching : Bool} (resets : ResetsOnly calendar now before db)
    (untouched : Untouched before db subs) (ofUser : ∀ sub ∈ subs, sub.userId = userID)
    (done :
      preConsumeCandidates calendar now requestID userID amount usingGroup
          baseGroups db subs sawScoped sawMatching = .ok after) :
    ∃ subscriptionID, SubscriptionPaid calendar now requestID userID
      subscriptionID amount before after := by
  induction subs generalizing db sawScoped sawMatching with
  | nil =>
    unfold preConsumeCandidates at done
    split at done
    · cases done
    cases done
  | cons sub rest ih =>
    have restOfUser : ∀ other ∈ rest, other.userId = userID :=
      fun other listed => ofUser other (List.mem_cons_of_mem _ listed)
    unfold preConsumeCandidates at done
    dsimp only at done
    split at done
    · exact ih resets untouched.tail restOfUser done
    split at done
    · cases done
    rename_i plan planned
    have resetNow := resets.reset untouched planned
    split at done
    · exact ih resetNow untouched.reset restOfUser done
    split at done
    · cases done
    rename_i records created
    cases done
    have found := untouched.now sub List.mem_cons_self
    have sameID := maybeResetUserSubscription_id calendar plan now sub
    refine ⟨sub.id, resets.users, ?_, ?_, ?_⟩
    · change records.rows = _
      rw [rows_create created]
      change db.subscriptionPreConsumes.rows ++ _ = _
      rw [resets.records, sameID]
    · refine ⟨sub, plan, untouched.before sub List.mem_cons_self,
        ofUser sub List.mem_cons_self, ?_, ?_⟩
      · rw [← resets.plans]
        exact planned
      · change (save _ _).lookup _ = _
        rw [lookup_save, if_pos sameID, lookup_maybeReset found, if_pos rfl, Option.map_some]
    · intro id different
      have other : ¬ sub.id = id := fun same => different same.symm
      have kept := resetNow.subscriptions id
      change (save _ _).lookup id = _ ∨ ∃ sub plan, _ ∧ _ ∧
        (save _ _).lookup id = _
      rw [lookup_save, sameID, if_neg other]
      exact kept

variable {quota : Int}

theorem decreaseTokenQuotaTx_tables {id : Int}
    (done : decreaseTokenQuotaTx db id quota = .ok after) :
    ∃ tokens, after = { db with tokens } := by
  unfold decreaseTokenQuotaTx at done
  split at done
  · cases done
  split at done
  · cases done
    exact ⟨_, rfl⟩
  split at done
  · cases done
  split at done
  · cases done
    exact ⟨_, rfl⟩
  · cases done

variable {info : RelayInfo} {charge : ImageTaskCharge}

theorem finishImageTaskBillingSessionTx_tables {charged : ImageTaskCharge}
    (done : finishImageTaskBillingSessionTx db info charge = .ok (charged, after)) :
    charged = charge ∧ ∃ tokens, after = { db with tokens } := by
  unfold finishImageTaskBillingSessionTx at done
  split at done
  · split at done
    · rename_i paid paying
      cases done
      exact ⟨rfl, decreaseTokenQuotaTx_tables paying⟩
    · cases done
  · cases done
    exact ⟨rfl, _, rfl⟩

theorem decreaseUserQuotaTx_users {id : Int} (positive : 0 < quota)
    (done : decreaseUserQuotaTx db id quota = .ok after) :
    (∀ other, quotaIn after.users other =
      quotaIn db.users other - if other = id then quota else 0) ∧
      ∃ users, after = { db with users } := by
  unfold decreaseUserQuotaTx at done
  rw [if_neg (by omega), if_neg (by omega)] at done
  split at done
  · rename_i user found
    split at done
    · cases done
      refine ⟨?_, _, rfl⟩
      intro other
      have sameID := key_of_lookup found
      unfold quotaIn
      rw [lookup_save]
      by_cases same : other = id
      · rw [if_pos same, if_pos (sameID.trans same.symm), same, found]
        simp
      · rw [if_neg same, if_neg fun equal => same (equal.symm.trans sameID)]
        omega
    · cases done
  · cases done

theorem newImageTaskWalletBillingSessionTx_paid
    (resets : ResetsOnly calendar now before db) (nonneg : 0 ≤ quota)
    (done : newImageTaskWalletBillingSessionTx db info quota = .ok (charge, after)) :
    charge = .wallet quota ∧ WalletPaid calendar now info.userId quota before after := by
  unfold newImageTaskWalletBillingSessionTx at done
  split at done
  · cases done
  split at done
  · cases done
  split at done
  · rename_i positive
    split at done
    · rename_i paid paying
      obtain ⟨users, tables, rfl⟩ := decreaseUserQuotaTx_users positive paying
      obtain ⟨rfl, tokens, rfl⟩ := finishImageTaskBillingSessionTx_tables done
      refine ⟨rfl, ?_, resets.records, resets.subscriptions⟩
      rw [← resets.users]
      exact users
    · cases done
  · have free : quota = 0 := by omega
    obtain ⟨rfl, tokens, rfl⟩ := finishImageTaskBillingSessionTx_tables done
    refine ⟨rfl, ?_, resets.records, resets.subscriptions⟩
    intro id
    rw [resets.users, free, ite_self, sub_zero]

theorem preConsumeUserSubscriptionTx_paid {usingGroup : String} {amount : Int}
    {baseGroups : List String} (fresh : db.subscriptionPreConsumes.lookup requestID = none)
    (done :
      preConsumeUserSubscriptionTx calendar db now requestID userID amount
          usingGroup baseGroups = .ok after) :
    ∃ subscriptionID, SubscriptionPaid calendar now requestID userID
      subscriptionID amount db after := by
  unfold preConsumeUserSubscriptionTx at done
  rw [fresh] at done
  dsimp only at done
  split at done
  · cases done
  split at done
  · cases done
  split at done
  · cases done
  split at done
  · cases done
  apply preConsumeCandidates_paid ResetsOnly.refl
    (untouched_activeSubscriptions db userID now) ?_ done
  exact fun sub listed => (mem_activeSubscriptions listed).2

theorem SubscriptionPaid.bookedCharge {subscriptionID : Int}
    (paid : SubscriptionPaid calendar now requestID userID subscriptionID quota db after) :
    bookedCharge after requestID quota = .subscription subscriptionID quota := by
  have stored : after.subscriptionPreConsumes.lookup requestID =
      some
        { requestId := requestID
          userId := userID
          userSubscriptionId := subscriptionID
          preConsumed := quota
          status := .consumed
          createdAt := now } := by
    rw [lookup_eq_some_iff, paid.records]
    exact ⟨List.mem_append_right _ (List.mem_singleton_self _), rfl⟩
  rw [ImageTasks.bookedCharge, stored]

variable {env : BillingEnv} {billing : ImageTaskBilling}

theorem newImageTaskSubscriptionBillingSessionTx_paid
    (fresh : db.subscriptionPreConsumes.lookup billing.info.requestId = none)
    (done : newImageTaskSubscriptionBillingSessionTx env db now billing = .ok (charge, after)) :
    charge.Paid env.calendar now billing db after := by
  unfold newImageTaskSubscriptionBillingSessionTx at done
  dsimp only at done
  split at done
  · rename_i booked booking
    obtain ⟨subscriptionID, paid⟩ := preConsumeUserSubscriptionTx_paid fresh booking
    obtain ⟨rfl, tokens, rfl⟩ := finishImageTaskBillingSessionTx_tables done
    have atLeastOne : (if billing.preConsumedQuota ≤ 0 then 1 else billing.preConsumedQuota) =
        max 1 billing.preConsumedQuota := by
      omega
    rw [paid.bookedCharge]
    exact ⟨atLeastOne, paid.users, paid.records, paid.paid, paid.others⟩
  · split at done
    · cases done
    cases done

variable {failed : CreationError × Database}

theorem finishImageTaskBillingSessionTx_error
    (attempt : finishImageTaskBillingSessionTx db info charge = .error failed) :
    failed.1 ≠ .insufficientUserQuota := by
  unfold finishImageTaskBillingSessionTx at attempt
  split at attempt
  · split at attempt
    · cases attempt
    cases attempt
    rintro ⟨⟩
  · cases attempt

theorem wallet_insufficient
    (attempt : newImageTaskWalletBillingSessionTx db info quota = .error failed)
    (insufficient : failed.1 = .insufficientUserQuota) : failed.2 = db := by
  unfold newImageTaskWalletBillingSessionTx at attempt
  split at attempt
  · cases attempt
    rfl
  split at attempt
  · cases attempt
    rfl
  split at attempt
  · split at attempt
    · exact absurd insufficient (finishImageTaskBillingSessionTx_error attempt)
    · cases attempt
      rfl
  · exact absurd insufficient (finishImageTaskBillingSessionTx_error attempt)

theorem subscription_insufficient
    (attempt : newImageTaskSubscriptionBillingSessionTx env db now billing = .error failed)
    (insufficient : failed.1 = .insufficientUserQuota) :
    ResetsOnly env.calendar now db failed.2 := by
  unfold newImageTaskSubscriptionBillingSessionTx at attempt
  dsimp only at attempt
  split at attempt
  · exact absurd insufficient (finishImageTaskBillingSessionTx_error attempt)
  split at attempt
  · cases attempt
    exact resetsOnly_resetCandidates ResetsOnly.refl (untouched_activeSubscriptions _ _ _)
  · cases attempt
    cases insufficient

theorem orElse_eq_ok {attempt : BillingAttempt} {other : CreationError × Database → BillingAttempt}
    {result : ImageTaskCharge × Database} (done : attempt.orElse other = .ok result) :
    attempt = .ok result ∨ ∃ failed, attempt = .error failed ∧
      failed.1 = .insufficientUserQuota ∧ other failed = .ok result := by
  cases attempt with
  | ok first => exact Or.inl done
  | error failed =>
    unfold BillingAttempt.orElse at done
    dsimp only at done
    split at done
    · rename_i insufficient
      exact Or.inr ⟨failed, rfl, insufficient, done⟩
    · cases done

theorem newImageTaskBillingSessionTx_paid (nonneg : 0 ≤ billing.preConsumedQuota)
    (fresh : db.subscriptionPreConsumes.lookup billing.info.requestId = none)
    (done : newImageTaskBillingSessionTx env db now billing = .ok (charge, after)) :
    charge.Paid env.calendar now billing db after := by
  have wallet : ∀ {start : Database},
      ResetsOnly env.calendar now db start →
        newImageTaskWalletBillingSessionTx start billing.info
            billing.preConsumedQuota = .ok (charge, after) →
          charge.Paid env.calendar now billing db after := by
    intro start resets paid
    obtain ⟨rfl, walletPaid⟩ := newImageTaskWalletBillingSessionTx_paid resets nonneg paid
    exact ⟨rfl, walletPaid⟩
  unfold newImageTaskBillingSessionTx at done
  split at done
  · exact newImageTaskSubscriptionBillingSessionTx_paid fresh done
  · exact wallet ResetsOnly.refl done
  · rcases orElse_eq_ok done with paid | ⟨failed, attempt, insufficient, paid⟩
    · exact wallet ResetsOnly.refl paid
    · rw [wallet_insufficient attempt insufficient] at paid
      exact newImageTaskSubscriptionBillingSessionTx_paid fresh paid
  · split at done
    · cases done
    split at done
    · exact wallet ResetsOnly.refl done
    · rcases orElse_eq_ok done with paid | ⟨failed, attempt, insufficient, paid⟩
      · exact newImageTaskSubscriptionBillingSessionTx_paid fresh paid
      · split at paid
        · exact wallet (subscription_insufficient attempt insufficient) paid
        · cases paid

end Payments

end NewApi.ImageTasks
