import NewApi.Payments.TopUps

/-!
# What a completion does

Every function that completes a top-up order either leaves orders and wallets
alone, or moves its order to `success` and adds one amount to the wallet of the
order's user.  The functions differ in the orders that they accept and in that
amount.
-/

namespace NewApi.Payments

open GoStrings Transactions

def PaymentDatabase.creditable (db : PaymentDatabase) (userId quota : Int) : Bool :=
  match topUpQuotaMaxCurrent quota, db.users.lookup userId with
  | some maxCurrentQuota, some user => decide (user.quota ≤ maxCurrentQuota)
  | _, _ => false

def PaymentUser.credit (user : PaymentUser) (quota : Int) (stripeCustomer : Option String) :
    PaymentUser :=
  { user with
    quota := user.quota + quota
    stripeCustomer := stripeCustomer.getD user.stripeCustomer }

section Crediting

variable {db later : PaymentDatabase} {userId quota now : Int}
  {stripeCustomer : Option String} {topUp : TopUp}

theorem topUpQuotaMaxCurrent_pos {limit : Int} (found : topUpQuotaMaxCurrent quota = some limit) :
    0 < quota := by
  unfold topUpQuotaMaxCurrent at found
  split at found
  · cases found
  omega

theorem creditTopUpQuota_cases
    (done : creditTopUpQuota db userId quota stripeCustomer = .ok later) :
    ∃ user,
      db.users.lookup userId = some user ∧ db.creditable userId quota = true ∧ 0 < quota ∧
        later = { db with
          users := db.users.save (user.credit quota stripeCustomer) } := by
  unfold creditTopUpQuota at done
  split at done
  · cases done
  rename_i limit limitFound
  split at done
  · cases done
  rename_i user found
  split at done
  · rename_i room
    cases done
    refine ⟨user, found, ?_, topUpQuotaMaxCurrent_pos limitFound, rfl⟩
    simp [PaymentDatabase.creditable, limitFound, found, room]
  · cases done

theorem creditTopUpQuota_of_creditable (creditable : db.creditable userId quota = true) :
    ∃ later, creditTopUpQuota db userId quota stripeCustomer = .ok later := by
  unfold PaymentDatabase.creditable at creditable
  unfold creditTopUpQuota
  split at creditable
  · rename_i limit user limitFound found
    rw [limitFound, found]
    simp only [if_pos (of_decide_eq_true creditable)]
    exact ⟨_, rfl⟩
  · cases creditable

structure Completed (tradeNo : String) (quota : Int) (db later : PaymentDatabase)
    (topUp saved : TopUp) (user : PaymentUser) (stripeCustomer : Option String) :
    Prop where
  found : db.topUps.lookup tradeNo = some topUp
  open_ : topUp.status.allowsPaymentCompletion = true
  userFound : db.users.lookup topUp.userId = some user
  creditable : db.creditable topUp.userId quota = true
  positive : 0 < quota
  savedTradeNo : saved.tradeNo = tradeNo
  savedUser : saved.userId = topUp.userId
  savedSnapshot : saved.creditQuotaSnapshot = topUp.creditQuotaSnapshot
  savedStatus : saved.status = .success
  topUps : later.topUps = db.topUps.save saved
  users : later.users = db.users.save (user.credit quota stripeCustomer)

/-- A row with the columns of the order that no completion changes. -/
structure SamePromise (topUp changed : TopUp) : Prop where
  tradeNo : changed.tradeNo = topUp.tradeNo
  userId : changed.userId = topUp.userId
  creditQuotaSnapshot : changed.creditQuotaSnapshot = topUp.creditQuotaSnapshot

theorem SamePromise.refl (topUp : TopUp) : SamePromise topUp topUp := ⟨rfl, rfl, rfl⟩

/-- A completed order is credited with its status in one transaction. -/
theorem completeTopUp_cases {tradeNo : String} {changed : TopUp}
    (found : db.topUps.lookup tradeNo = some topUp)
    (isOpen : topUp.status.allowsPaymentCompletion = true) (same : SamePromise topUp changed)
    (done : completeTopUp now db changed quota stripeCustomer = .ok later) :
    later.orphans = db.orphans ∧
      ∃ saved user, Completed tradeNo quota db later topUp saved user stripeCustomer := by
  have key : topUp.tradeNo = tradeNo := KeyedTable.key_of_lookup found
  obtain ⟨user, userFound, creditable, positive, rfl⟩ := creditTopUpQuota_cases done
  rw [same.userId] at userFound creditable
  refine ⟨rfl, { changed with completeTime := now, status := .success }, user, ?_⟩
  exact
    { found := found
      open_ := isOpen
      userFound := userFound
      creditable := creditable
      positive := positive
      savedTradeNo := same.tradeNo.trans key
      savedUser := same.userId
      savedSnapshot := same.creditQuotaSnapshot
      savedStatus := rfl
      topUps := rfl
      users := rfl }

end Crediting

/-- Nothing has changed for orders and wallets, or the order has been
completed: the function accepts it, and this is its quota. -/
inductive Outcome (tradeNo : String) (accepts : TopUp → Prop) (quotaOf : TopUp → Option Int)
    (db later : PaymentDatabase) : Prop where
  | idle (topUps : later.topUps = db.topUps) (users : later.users = db.users)
  | completed {topUp saved : TopUp} {user : PaymentUser} {quota : Int}
      {stripeCustomer : Option String}
      (completed : Completed tradeNo quota db later topUp saved user stripeCustomer)
      (accepted : accepts topUp) (isQuota : quotaOf topUp = some quota)

section Outcomes

variable {context : PaymentContext} {db later : PaymentDatabase}
  {tradeNo : String} {accepts : TopUp → Prop} {quotaOf : TopUp → Option Int}

variable {topUp : TopUp}

theorem lockTopUp_eq_ok (done : lockTopUp db tradeNo = .ok topUp) :
    db.topUps.lookup tradeNo = some topUp := by
  unfold lockTopUp at done
  split at done
  · cases done
  rename_i found
  cases done
  exact found

theorem lockTopUp_of_lookup (found : db.topUps.lookup tradeNo = some topUp) :
    lockTopUp db tradeNo = .ok topUp := by
  unfold lockTopUp
  rw [found]

variable {stripeCustomer : Option String}

theorem outcome_of_completeTopUp {changed : TopUp} {quota now : Int}
    (found : db.topUps.lookup tradeNo = some topUp)
    (isOpen : topUp.status.allowsPaymentCompletion ≠ false) (same : SamePromise topUp changed)
    (accepted : accepts topUp) (isQuota : quotaOf topUp = some quota)
    (done : completeTopUp now db changed quota stripeCustomer = .ok later) :
    Outcome tradeNo accepts quotaOf db later := by
  obtain ⟨_, saved, user, completed⟩ := completeTopUp_cases found (by simpa using isOpen) same done
  exact .completed completed accepted isQuota

variable {validation : PaymentCallbackValidation}

theorem acceptCallback_cases {mapping : CaseMapping} {checksToken : Bool} {accepted : TopUp}
    (done : acceptCallback mapping checksToken topUp validation = .ok accepted) :
    ∃ paidAmount paidCurrency,
      accepted = { topUp with paidAmount := paidAmount, paidCurrency := paidCurrency } := by
  unfold acceptCallback at done
  split at done
  · cases done
  split at done
  · cases done
  split at done
  · cases done
  unfold applyValidatedPaymentFactsToTopUp at done
  split at done
  · obtain ⟨⟨paidAmount, paidCurrency⟩, _, done⟩ := bind_ok_iff.mp done
    cases done
    exact ⟨paidAmount, paidCurrency, rfl⟩
  · cases done
    exact ⟨topUp.paidAmount, topUp.paidCurrency, rfl⟩

/-- A callback completes the order that it names, or nothing. -/
theorem rechargeWithValidation_outcome {missing : PaymentError} {checksToken : Bool}
    {providerPayload : String}
    (done :
      rechargeWithValidation missing checksToken context db tradeNo
          providerPayload validation stripeCustomer = .ok later) :
    Outcome tradeNo (fun _ => True)
      (fun topUp => some (topUp.creditQuotaAmount context.quotaPerUnit)) db
      later := by
  unfold rechargeWithValidation at done
  split at done
  · cases done
  obtain ⟨topUp, locked, done⟩ := bind_ok_iff.mp done
  obtain ⟨accepted, accepting, done⟩ := bind_ok_iff.mp done
  obtain ⟨paidAmount, paidCurrency, rfl⟩ := acceptCallback_cases accepting
  split at done
  · cases done
    exact .idle rfl rfl
  split at done
  · cases done
  rename_i isOpen
  simp only at done
  split at done
  · cases done
  refine outcome_of_completeTopUp (lockTopUp_eq_ok locked) isOpen ?_ trivial ?_ done
  · exact ⟨rfl, rfl, rfl⟩
  · rfl

theorem rechargeCreemWithValidation_outcome {providerPayload : String}
    (done : rechargeCreemWithValidation context db tradeNo providerPayload validation = .ok later) :
    Outcome tradeNo
      (fun topUp => ∃ accepted,
        acceptCallback context.mapping false topUp (validation.withProvider "creem") = .ok accepted)
      (fun topUp => walletQuotaFromDecimalStrict topUp.amount) db later := by
  unfold rechargeCreemWithValidation at done
  split at done
  · cases done
  obtain ⟨topUp, locked, done⟩ := bind_ok_iff.mp done
  obtain ⟨accepted, accepting, done⟩ := bind_ok_iff.mp done
  obtain ⟨paidAmount, paidCurrency, rfl⟩ := acceptCallback_cases accepting
  split at done
  · cases done
    exact .idle rfl rfl
  split at done
  · cases done
  rename_i isOpen
  split at done
  · cases done
  rename_i quota isQuota
  split at done
  · cases done
  refine outcome_of_completeTopUp (lockTopUp_eq_ok locked) isOpen ?_ ⟨_, accepting⟩ isQuota done
  exact ⟨rfl, rfl, rfl⟩

/-- The older callbacks recompute the amount. -/
theorem rechargeEpay_outcome {actualPaymentMethod : String}
    (done : rechargeEpay context db tradeNo actualPaymentMethod = .ok later) :
    Outcome tradeNo (fun topUp => topUp.paymentProvider = "epay")
      (fun topUp => walletQuotaFromDecimalStrict (topUp.amount * context.quotaPerUnit))
      db later := by
  unfold rechargeEpay at done
  split at done
  · cases done
  obtain ⟨topUp, locked, done⟩ := bind_ok_iff.mp done
  split at done
  · cases done
  rename_i provider
  split at done
  · cases done
    exact .idle rfl rfl
  split at done
  · cases done
  rename_i isOpen
  split at done
  · cases done
  rename_i quota isQuota
  split at done
  · cases done
  refine
    outcome_of_completeTopUp (lockTopUp_eq_ok locked) isOpen ?_ (not_not.mp provider) isQuota done
  exact ⟨rfl, rfl, rfl⟩

theorem recharge_outcome {customerId : String}
    (done : recharge context db tradeNo customerId = .ok later) :
    Outcome tradeNo (fun _ => True)
      (fun topUp => some (topUp.creditQuotaAmount context.quotaPerUnit)) db
      later := by
  unfold recharge at done
  split at done
  · cases done
  obtain ⟨topUp, locked, done⟩ := bind_ok_iff.mp done
  split at done
  · cases done
  split at done
  · cases done
  rename_i isOpen
  simp only at done
  split at done
  · cases done
  exact outcome_of_completeTopUp (lockTopUp_eq_ok locked) isOpen
      (SamePromise.refl topUp) trivial rfl done

theorem manualCompleteTopUp_outcome (done : manualCompleteTopUp context db tradeNo = .ok later) :
    Outcome tradeNo (fun _ => True)
      (fun topUp => some (topUp.creditQuotaAmount context.quotaPerUnit)) db
      later := by
  unfold manualCompleteTopUp at done
  split at done
  · cases done
  split at done
  · cases done
  rename_i topUp found
  split at done
  · cases done
    exact .idle rfl rfl
  split at done
  · cases done
  rename_i isOpen
  simp only at done
  split at done
  · cases done
  exact outcome_of_completeTopUp found isOpen (SamePromise.refl topUp) trivial rfl done

/-- An orphan completes the order that it refers to. -/
theorem creditExistingPaymentOrphan_outcome {id resolvedBy : Int} {orphan : PaymentOrphanEvent}
    (orphanFound : db.orphans.lookup id = some orphan)
    (done : creditExistingPaymentOrphan context db id resolvedBy = .ok later) :
    Outcome orphan.referenceId (fun _ => True)
      (fun topUp => some (topUp.creditQuotaAmount context.quotaPerUnit)) db
      later := by
  unfold creditExistingPaymentOrphan at done
  rw [orphanFound] at done
  simp only at done
  split at done
  · cases done
    exact .idle rfl rfl
  split at done
  · cases done
  split at done
  · cases done
  rename_i topUp found
  split at done
  · cases done
  split at done
  · cases done
    exact .idle rfl rfl
  split at done
  · cases done
  rename_i isOpen
  split at done
  · cases done
  obtain ⟨written, completing, done⟩ := bind_ok_iff.mp done
  cases done
  have same : SamePromise topUp { topUp with providerPayload := orphan.payload } := ⟨rfl, rfl, rfl⟩
  obtain ⟨_, saved, user, completed⟩ :=
    completeTopUp_cases found (by simpa using isOpen) same completing
  exact
    .completed { completed with topUps := completed.topUps, users := completed.users } trivial rfl

end Outcomes

section Completing

variable {context : PaymentContext} {db : PaymentDatabase} {tradeNo : String}
  {topUp : TopUp} {quota : Int}

theorem open_cases (isOpen : topUp.status.allowsPaymentCompletion = true) :
    topUp.status ≠ .success ∧ ¬ topUp.status.allowsPaymentCompletion = false := by
  constructor
  · intro success
    rw [success] at isOpen
    cases isOpen
  · simp [isOpen]

theorem completeTopUp_of_creditable {changed : TopUp} {now : Int} {stripeCustomer : Option String}
    (same : changed.userId = topUp.userId) (creditable : db.creditable topUp.userId quota = true) :
    ∃ later, completeTopUp now db changed quota stripeCustomer = .ok later := by
  unfold completeTopUp
  rw [same]
  exact creditTopUpQuota_of_creditable creditable

theorem creditable_pos (creditable : db.creditable topUp.userId quota = true) : ¬ quota ≤ 0 := by
  unfold PaymentDatabase.creditable at creditable
  split at creditable
  · rename_i limit user limitFound found
    exact not_le.mpr (topUpQuotaMaxCurrent_pos limitFound)
  · cases creditable

theorem rechargeEpay_completes (actualPaymentMethod : String) (given : tradeNo ≠ "")
    (found : db.topUps.lookup tradeNo = some topUp) (provider : topUp.paymentProvider = "epay")
    (isOpen : topUp.status.allowsPaymentCompletion = true)
    (isQuota : walletQuotaFromDecimalStrict (topUp.amount * context.quotaPerUnit) = some quota)
    (creditable : db.creditable topUp.userId quota = true) :
    ∃ changed later, SamePromise topUp changed ∧
      rechargeEpay context db tradeNo actualPaymentMethod = .ok later ∧
      completeTopUp context.now db changed quota none = .ok later := by
  let changed : TopUp :=
    { topUp with
      paymentMethod :=
        if actualPaymentMethod = "" then topUp.paymentMethod
        else actualPaymentMethod }
  have userId : changed.userId = topUp.userId := rfl
  obtain ⟨later, completes⟩ :
      ∃ later, completeTopUp context.now db changed quota none = .ok later :=
    completeTopUp_of_creditable userId creditable
  obtain ⟨notSuccess, notClosed⟩ := open_cases isOpen
  refine ⟨changed, later, ⟨rfl, rfl, rfl⟩, ?_, completes⟩
  unfold rechargeEpay
  rw [if_neg given, lockTopUp_of_lookup found]
  simp only [bind, Except.bind]
  rw [if_neg (not_not.mpr provider), if_neg notSuccess, if_neg notClosed, isQuota]
  simp only [if_neg (creditable_pos creditable)]
  exact completes

theorem rechargeCreemWithValidation_completes
    {providerPayload : String} {validation : PaymentCallbackValidation}
    {accepted : TopUp} (given : tradeNo ≠ "") (found : db.topUps.lookup tradeNo = some topUp)
    (accepting :
      acceptCallback context.mapping false topUp (validation.withProvider "creem") = .ok accepted)
    (isOpen : topUp.status.allowsPaymentCompletion = true)
    (isQuota : walletQuotaFromDecimalStrict topUp.amount = some quota)
    (creditable : db.creditable topUp.userId quota = true) :
    ∃ changed later, SamePromise topUp changed ∧
      rechargeCreemWithValidation context db tradeNo providerPayload validation = .ok later ∧
        completeTopUp context.now db changed quota none = .ok later := by
  obtain ⟨paidAmount, paidCurrency, rfl⟩ := acceptCallback_cases accepting
  let changed : TopUp :=
    { topUp with
      paidAmount := paidAmount
      paidCurrency := paidCurrency
      providerPayload :=
        if providerPayload = "" then topUp.providerPayload
        else providerPayload }
  have userId : changed.userId = topUp.userId := rfl
  obtain ⟨later, completes⟩ :
      ∃ later, completeTopUp context.now db changed quota none = .ok later :=
    completeTopUp_of_creditable userId creditable
  obtain ⟨notSuccess, notClosed⟩ := open_cases isOpen
  refine ⟨changed, later, ⟨rfl, rfl, rfl⟩, ?_, completes⟩
  unfold rechargeCreemWithValidation
  rw [if_neg given, lockTopUp_of_lookup found]
  simp only [bind, Except.bind, accepting]
  rw [if_neg notSuccess, if_neg notClosed, isQuota]
  simp only [if_neg (creditable_pos creditable)]
  exact completes

end Completing

end NewApi.Payments
