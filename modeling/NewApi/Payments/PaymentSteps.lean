import NewApi.Payments.Completions

/-!
# Steps of payment runs

The calls that complete an order, and any other work that leaves the order's
row alone, as steps.  A step for an order is honest when it credits the promised
quota with the move to success and nothing otherwise; for each call this is an
exact condition on the state before it.
-/

namespace NewApi.Payments

open GoStrings Transactions KeyedTable PaymentDatabase

/-! ## Calls -/

inductive PaymentCall where
  | rechargeEpay (tradeNo actualPaymentMethod : String)
  | rechargeEpayWithValidation
      (tradeNo providerPayload : String) (validation : PaymentCallbackValidation)
  | recharge (referenceId customerId : String)
  | rechargeStripeWithValidation
      (referenceId customerId providerPayload : String)
      (validation : PaymentCallbackValidation)
  | rechargeCreem (referenceId : String)
  | rechargeCreemWithValidation
      (referenceId providerPayload : String)
      (validation : PaymentCallbackValidation)
  | rechargeWaffo (tradeNo : String)
  | rechargeWaffoWithValidation
      (tradeNo providerPayload : String) (validation : PaymentCallbackValidation)
  | rechargeWaffoPancake (tradeNo : String)
  | rechargeWaffoPancakeWithValidation
      (tradeNo providerPayload : String) (validation : PaymentCallbackValidation)
  | rechargeBEpusdt (tradeNo providerPayload actualPaymentMethod : String)
  | rechargeBEpusdtWithValidation
      (tradeNo providerPayload : String) (validation : PaymentCallbackValidation)
  | manualCompleteTopUp (tradeNo : String)
  | updatePendingTopUpStatus (tradeNo expectedPaymentProvider : String) (targetStatus : TopUpStatus)
  | creditExistingPaymentOrphan (id resolvedBy : Int)

def PaymentCall.run (context : PaymentContext) (db : PaymentDatabase) :
    PaymentCall → Except PaymentError PaymentDatabase
  | .rechargeEpay tradeNo actualPaymentMethod =>
    Payments.rechargeEpay context db tradeNo actualPaymentMethod
  | .rechargeEpayWithValidation tradeNo providerPayload validation =>
    Payments.rechargeEpayWithValidation context db tradeNo providerPayload validation
  | .recharge referenceId customerId => Payments.recharge context db referenceId customerId
  | .rechargeStripeWithValidation referenceId customerId providerPayload
      validation =>
      Payments.rechargeStripeWithValidation context db referenceId customerId
        providerPayload validation
  | .rechargeCreem referenceId => Payments.rechargeCreem context db referenceId
  | .rechargeCreemWithValidation referenceId providerPayload validation =>
    Payments.rechargeCreemWithValidation context db referenceId providerPayload validation
  | .rechargeWaffo tradeNo => Payments.rechargeWaffo context db tradeNo
  | .rechargeWaffoWithValidation tradeNo providerPayload validation =>
    Payments.rechargeWaffoWithValidation context db tradeNo providerPayload validation
  | .rechargeWaffoPancake tradeNo => Payments.rechargeWaffoPancake context db tradeNo
  | .rechargeWaffoPancakeWithValidation tradeNo providerPayload validation =>
    Payments.rechargeWaffoPancakeWithValidation context db tradeNo providerPayload validation
  | .rechargeBEpusdt tradeNo providerPayload actualPaymentMethod =>
    Payments.rechargeBEpusdt context db tradeNo providerPayload actualPaymentMethod
  | .rechargeBEpusdtWithValidation tradeNo providerPayload validation =>
    Payments.rechargeBEpusdtWithValidation context db tradeNo providerPayload validation
  | .manualCompleteTopUp tradeNo => Payments.manualCompleteTopUp context db tradeNo
  | .updatePendingTopUpStatus tradeNo expectedPaymentProvider targetStatus =>
    Payments.updatePendingTopUpStatus context db tradeNo expectedPaymentProvider targetStatus
  | .creditExistingPaymentOrphan id resolvedBy =>
    Payments.creditExistingPaymentOrphan context db id resolvedBy

/-- The order that a call is for; an orphaned payment names it in its row. -/
def PaymentCall.tradeNo (db : PaymentDatabase) : PaymentCall → Option String
  | .rechargeEpay tradeNo _ => some tradeNo
  | .rechargeEpayWithValidation tradeNo _ _ => some tradeNo
  | .recharge referenceId _ => some referenceId
  | .rechargeStripeWithValidation referenceId _ _ _ => some referenceId
  | .rechargeCreem referenceId => some referenceId
  | .rechargeCreemWithValidation referenceId _ _ => some referenceId
  | .rechargeWaffo tradeNo => some tradeNo
  | .rechargeWaffoWithValidation tradeNo _ _ => some tradeNo
  | .rechargeWaffoPancake tradeNo => some tradeNo
  | .rechargeWaffoPancakeWithValidation tradeNo _ _ => some tradeNo
  | .rechargeBEpusdt tradeNo _ _ => some tradeNo
  | .rechargeBEpusdtWithValidation tradeNo _ _ => some tradeNo
  | .manualCompleteTopUp tradeNo => some tradeNo
  | .updatePendingTopUpStatus tradeNo _ _ => some tradeNo
  | .creditExistingPaymentOrphan id _ => (db.orphans.lookup id).map PaymentOrphanEvent.referenceId

/-- Work that leaves the row of the order alone: spending, other orders, new
orphaned payments. -/
structure OtherWork (tradeNo : String) where
  run : PaymentDatabase → PaymentDatabase
  keepsOrder : ∀ db, (run db).topUps.lookup tradeNo = db.topUps.lookup tradeNo

inductive PaymentAction (tradeNo : String) where
  | call (call : PaymentCall) (context : PaymentContext) (aborted : Bool)
  | other (work : OtherWork tradeNo)

def paymentStep {tradeNo : String} (db : PaymentDatabase) :
    PaymentAction tradeNo → PaymentDatabase
  | .call call context aborted =>
    if aborted then db else commit db (call.run context db)
  | .other work => work.run db

def PaymentDatabase.wallet (db : PaymentDatabase) (tradeNo : String) : Int :=
  match db.topUps.lookup tradeNo with
  | none => 0
  | some topUp => ((db.users.lookup topUp.userId).map PaymentUser.quota).getD 0

def creditOf {tradeNo : String} (db : PaymentDatabase) :
    PaymentAction tradeNo → Int
  | .call call context aborted =>
    if call.tradeNo db = some tradeNo then
      (paymentStep db (.call call context aborted : PaymentAction tradeNo)).wallet
          tradeNo -
        db.wallet tradeNo
    else 0
  | .other _ => 0

def credits {tradeNo : String} :
    PaymentDatabase → List (PaymentAction tradeNo) → List Int
  | _, [] => []
  | db, action :: rest => creditOf db action :: credits (paymentStep db action) rest

/-- Where the function would complete the order, its quota is the promised
one. -/
def PaysPromise (tradeNo : String) (accepts : TopUp → Prop) (quotaOf : TopUp → Option Int)
    (db : PaymentDatabase) : Prop :=
  ∀ topUp quota, tradeNo ≠ "" → db.topUps.lookup tradeNo = some topUp →
    accepts topUp → topUp.status.allowsPaymentCompletion = true →
      quotaOf topUp = some quota → db.creditable topUp.userId quota = true →
        quota = topUp.creditQuotaSnapshot

def creemAccepts (context : PaymentContext) (validation : PaymentCallbackValidation)
    (topUp : TopUp) : Prop :=
  ∃ accepted,
    acceptCallback context.mapping false topUp (validation.withProvider "creem") = .ok accepted

/-- When a call for the order keeps the promise of the order. -/
def PaymentCall.Honours (context : PaymentContext) (tradeNo : String) (db : PaymentDatabase) :
    PaymentCall → Prop
  | .rechargeEpay reference _ =>
    reference = tradeNo →
      PaysPromise tradeNo (fun topUp => topUp.paymentProvider = "epay")
        (fun topUp => walletQuotaFromDecimalStrict (topUp.amount * context.quotaPerUnit))
        db
  | .rechargeCreem reference =>
    reference = tradeNo →
      PaysPromise tradeNo
        (creemAccepts context { expectedPaymentProvider := "creem" })
        (fun topUp => walletQuotaFromDecimalStrict topUp.amount) db
  | .rechargeCreemWithValidation reference _ validation =>
    reference = tradeNo →
      PaysPromise tradeNo (creemAccepts context validation)
        (fun topUp => walletQuotaFromDecimalStrict topUp.amount) db
  | .updatePendingTopUpStatus reference expectedPaymentProvider targetStatus =>
    reference = tradeNo → targetStatus = .success → tradeNo ≠ "" →
      ∀ topUp, db.topUps.lookup tradeNo = some topUp →
        (expectedPaymentProvider = "" ∨
          topUp.paymentProvider = expectedPaymentProvider) →
          topUp.status ≠ .pending
  | _ => True

def PaymentAction.Honours {tradeNo : String} (db : PaymentDatabase) :
    PaymentAction tradeNo → Prop
  | .call payment context aborted => aborted = false → payment.Honours context tradeNo db
  | .other _ => True

/-- A step credits the promised quota when it makes the order successful, and
nothing otherwise; success is not left. -/
structure Honest (topUp later : TopUp) (credit : Int) : Prop where
  done : topUp.status = .success → later.status = .success ∧ credit = 0
  paid : topUp.status ≠ .success → later.status = .success → credit = topUp.creditQuotaSnapshot
  unpaid : topUp.status ≠ .success → later.status ≠ .success → credit = 0

structure Progress (tradeNo : String) (topUp : TopUp) (later : PaymentDatabase) (credit : Int)
    (honours : Prop) : Prop where
  exists_ : ∃ saved, later.topUps.lookup tradeNo = some saved ∧
    SamePromise topUp saved ∧ (Honest topUp saved credit ↔ honours)

section Steps

variable {context : PaymentContext} {db later : PaymentDatabase} {tradeNo : String} {topUp : TopUp}

theorem honest_refl (topUp : TopUp) : Honest topUp topUp 0 :=
  ⟨fun success => ⟨success, rfl⟩, fun open_ success => absurd success open_, fun _ _ => rfl⟩

variable {honours : Prop} {stripeCustomer : Option String} {other expectedPaymentProvider : String}
  {result : Except PaymentError PaymentDatabase} {quotaOf : TopUp → Option Int}

theorem Progress.of_idle (found : db.topUps.lookup tradeNo = some topUp)
    (topUps : later.topUps.lookup tradeNo = db.topUps.lookup tradeNo) (holds : honours) :
    Progress tradeNo topUp later 0 honours :=
  ⟨topUp, topUps.trans found, SamePromise.refl topUp, fun _ => holds, fun _ => honest_refl topUp⟩

theorem wallet_of_lookup (found : db.topUps.lookup tradeNo = some topUp) :
    db.wallet tradeNo = ((db.users.lookup topUp.userId).map PaymentUser.quota).getD 0 := by
  unfold wallet
  rw [found]

theorem wallet_of_idle (topUps : later.topUps = db.topUps) (users : later.users = db.users) :
    later.wallet tradeNo = db.wallet tradeNo := by
  unfold wallet
  rw [topUps, users]

theorem Progress.of_untouched (found : db.topUps.lookup tradeNo = some topUp)
    (topUps : later.topUps = db.topUps) (users : later.users = db.users) (holds : honours) :
    Progress tradeNo topUp later (later.wallet tradeNo - db.wallet tradeNo) honours := by
  have same : later.wallet tradeNo - db.wallet tradeNo = 0 := by
    rw [sub_eq_zero]
    exact wallet_of_idle topUps users
  rw [same]
  exact .of_idle found (congrArg (·.lookup tradeNo) topUps) holds

section

variable {quota : Int} {saved : TopUp} {user : PaymentUser}
  (completed : Completed tradeNo quota db later topUp saved user stripeCustomer)
include completed

theorem Completed.progress (exact_ : quota = topUp.creditQuotaSnapshot ↔ honours) :
    Progress tradeNo topUp later (later.wallet tradeNo - db.wallet tradeNo) honours := by
  have notSuccess : topUp.status ≠ .success := (open_cases completed.open_).1
  have key : topUp.tradeNo = tradeNo := key_of_lookup completed.found
  have savedFound : later.topUps.lookup tradeNo = some saved := by
    rw [completed.topUps, ← completed.savedTradeNo]
    apply lookup_save_self
    rw [completed.savedTradeNo]
    exact completed.found
  have userKey : user.id = topUp.userId := key_of_lookup completed.userFound
  have credited : later.users.lookup topUp.userId = some (user.credit quota stripeCustomer) := by
    rw [completed.users, ← userKey]
    apply lookup_save_self
    exact userKey ▸ completed.userFound
  have credit : later.wallet tradeNo - db.wallet tradeNo = quota := by
    rw [wallet_of_lookup savedFound, wallet_of_lookup completed.found,
      completed.savedUser, credited, completed.userFound]
    simp [PaymentUser.credit]
  refine ⟨saved, savedFound, ?_, ?_⟩
  · exact ⟨completed.savedTradeNo.trans key.symm, completed.savedUser, completed.savedSnapshot⟩
  · rw [credit, ← exact_]
    constructor
    · intro honest
      exact honest.paid notSuccess completed.savedStatus
    · intro same
      exact ⟨fun success => absurd success notSuccess, fun _ _ => same,
          fun _ unpaid => absurd completed.savedStatus unpaid⟩

theorem Completed.lookup_other (different : other ≠ tradeNo) :
    later.topUps.lookup other = db.topUps.lookup other := by
  rw [completed.topUps]
  apply lookup_save_of_ne
  rw [completed.savedTradeNo]
  exact different.symm

end

/-! ## Calls for the order -/

theorem creditQuotaAmount_of_snapshot (setting : Rat) (promised : 0 < topUp.creditQuotaSnapshot) :
    topUp.creditQuotaAmount setting = topUp.creditQuotaSnapshot :=
  if_pos promised

theorem progress_of_creditQuotaAmount (found : db.topUps.lookup tradeNo = some topUp)
    (promised : 0 < topUp.creditQuotaSnapshot)
    (outcome : ∀ later, result = .ok later →
      Outcome tradeNo (fun _ => True)
        (fun topUp => some (topUp.creditQuotaAmount context.quotaPerUnit)) db
        later) :
    Progress tradeNo topUp (commit db result)
      ((commit db result).wallet tradeNo - db.wallet tradeNo) True := by
  cases done : result with
  | error failure => exact .of_untouched found rfl rfl trivial
  | ok later =>
    rcases outcome later done with ⟨topUps, users⟩ | ⟨completed, _, isQuota⟩
    · exact .of_untouched found topUps users trivial
    · have same := completed.found.symm.trans found
      cases same
      refine completed.progress ⟨fun _ => trivial, fun _ => ?_⟩
      rw [← Option.some.inj isQuota]
      exact creditQuotaAmount_of_snapshot context.quotaPerUnit promised

theorem progress_of_ownQuota {accepts : TopUp → Prop} (now : Int)
    (found : db.topUps.lookup tradeNo = some topUp)
    (outcome : ∀ later, result = .ok later →
      tradeNo ≠ "" ∧ Outcome tradeNo accepts quotaOf db later)
    (completes : ∀ quota, tradeNo ≠ "" → accepts topUp →
      topUp.status.allowsPaymentCompletion = true → quotaOf topUp = some quota →
        db.creditable topUp.userId quota = true →
          ∃ changed later, SamePromise topUp changed ∧ result = .ok later ∧
            completeTopUp now db changed quota none = .ok later) :
    Progress tradeNo topUp (commit db result)
      ((commit db result).wallet tradeNo - db.wallet tradeNo)
      (PaysPromise tradeNo accepts quotaOf db) := by
  by_cases happens : ∃ quota, tradeNo ≠ "" ∧ accepts topUp ∧
      topUp.status.allowsPaymentCompletion = true ∧ quotaOf topUp = some quota ∧
        db.creditable topUp.userId quota = true
  · obtain ⟨quota, given, accepted, isOpen, isQuota, creditable⟩ := happens
    obtain ⟨changed, later, same, done, completing⟩ :=
      completes quota given accepted isOpen isQuota creditable
    obtain ⟨_, saved, user, completed⟩ := completeTopUp_cases found isOpen same completing
    rw [done]
    refine completed.progress ⟨?_, ?_⟩
    · intro exact_ other otherQuota _ otherFound _ _ otherIsQuota _
      cases otherFound.symm.trans found
      cases otherIsQuota.symm.trans isQuota
      exact exact_
    · intro pays
      exact pays topUp quota given found accepted isOpen isQuota creditable
  · have pays : PaysPromise tradeNo accepts quotaOf db := by
      intro other quota given otherFound accepted isOpen isQuota creditable
      cases otherFound.symm.trans found
      exact absurd ⟨quota, given, accepted, isOpen, isQuota, creditable⟩ happens
    cases done : result with
    | error failure => exact .of_untouched found rfl rfl pays
    | ok later =>
      obtain ⟨given, outcome⟩ := outcome later done
      rcases outcome with ⟨topUps, users⟩ | ⟨completed, accepted, isQuota⟩
      · exact .of_untouched found topUps users pays
      · cases completed.found.symm.trans found
        exact absurd ⟨_, given, accepted, completed.open_, isQuota, completed.creditable⟩ happens

section

variable (found : db.topUps.lookup tradeNo = some topUp)
include found

theorem rechargeEpay_progress {actualPaymentMethod : String} :
    let result := rechargeEpay context db tradeNo actualPaymentMethod
    Progress tradeNo topUp (commit db result)
      ((commit db result).wallet tradeNo - db.wallet tradeNo)
      (PaysPromise tradeNo (fun topUp => topUp.paymentProvider = "epay")
        (fun topUp => walletQuotaFromDecimalStrict (topUp.amount * context.quotaPerUnit))
        db) := by
  refine progress_of_ownQuota context.now found ?_ ?_
  · intro later done
    refine ⟨?_, rechargeEpay_outcome done⟩
    rintro rfl
    cases done
  · intro quota given provider isOpen isQuota creditable
    exact rechargeEpay_completes actualPaymentMethod given found provider isOpen isQuota creditable

theorem rechargeCreemWithValidation_progress {providerPayload : String}
    {validation : PaymentCallbackValidation} :
    let result := rechargeCreemWithValidation context db tradeNo providerPayload validation
    Progress tradeNo topUp (commit db result)
      ((commit db result).wallet tradeNo - db.wallet tradeNo)
      (PaysPromise tradeNo (creemAccepts context validation)
        (fun topUp => walletQuotaFromDecimalStrict topUp.amount) db) := by
  refine progress_of_ownQuota context.now found ?_ ?_
  · intro later done
    refine ⟨?_, rechargeCreemWithValidation_outcome done⟩
    rintro rfl
    cases done
  · rintro quota given ⟨accepted, accepting⟩ isOpen isQuota creditable
    exact rechargeCreemWithValidation_completes given found accepting isOpen isQuota creditable

/-- A status update credits only when it completes the order. -/
theorem updatePendingTopUpStatus_progress {targetStatus : TopUpStatus}
    (promised : 0 < topUp.creditQuotaSnapshot) :
    let result := updatePendingTopUpStatus context db tradeNo expectedPaymentProvider targetStatus
    Progress tradeNo topUp (commit db result)
      ((commit db result).wallet tradeNo - db.wallet tradeNo)
      (targetStatus = .success → tradeNo ≠ "" →
        ∀ topUp, db.topUps.lookup tradeNo = some topUp →
          (expectedPaymentProvider = "" ∨ topUp.paymentProvider = expectedPaymentProvider) →
            topUp.status ≠ .pending) := by
  have refused : tradeNo = "" ∨
      ¬ (expectedPaymentProvider = "" ∨ topUp.paymentProvider = expectedPaymentProvider) ∨
      topUp.status ≠ .pending →
        (targetStatus = .success → tradeNo ≠ "" →
          ∀ topUp, db.topUps.lookup tradeNo = some topUp →
            (expectedPaymentProvider = "" ∨ topUp.paymentProvider = expectedPaymentProvider) →
              topUp.status ≠ .pending) := by
    intro reason _ given other otherFound accepted
    cases otherFound.symm.trans found
    rcases reason with missing | rejected | notPending
    · exact absurd missing given
    · exact absurd accepted rejected
    · exact notPending
  simp only [updatePendingTopUpStatus, lockTopUp_of_lookup found]
  split
  · rename_i missing
    exact .of_untouched found rfl rfl (refused (Or.inl missing))
  simp only [bind, Except.bind]
  split
  · rename_i rejected
    refine .of_untouched found rfl rfl (refused (Or.inr (Or.inl ?_)))
    rintro (none | same)
    · exact rejected.1 none
    · exact rejected.2 same
  split
  · rename_i notPending
    exact .of_untouched found rfl rfl (refused (Or.inr (Or.inr notPending)))
  rename_i given accepted pending
  have pending : topUp.status = .pending := not_not.mp pending
  have accepted : expectedPaymentProvider = "" ∨
      topUp.paymentProvider = expectedPaymentProvider := by
    by_contra neither
    push Not at neither
    exact accepted neither
  have key : topUp.tradeNo = tradeNo := key_of_lookup found
  have updated : ∀ saved : TopUp, SamePromise topUp saved →
      saved.status = targetStatus →
        Progress tradeNo topUp { db with topUps := db.topUps.save saved }
          (wallet { db with topUps := db.topUps.save saved }
            tradeNo - db.wallet tradeNo)
          (targetStatus = .success → tradeNo ≠ "" →
            ∀ topUp, db.topUps.lookup tradeNo = some topUp →
              (expectedPaymentProvider = "" ∨ topUp.paymentProvider = expectedPaymentProvider) →
                topUp.status ≠ .pending) := by
    intro saved same status
    have savedKey : saved.tradeNo = tradeNo := same.tradeNo.trans key
    have savedFound : (db.topUps.save saved).lookup tradeNo = some saved := by
      rw [← savedKey]
      apply lookup_save_self
      exact savedKey ▸ found
    have credit : wallet
        { db with topUps := db.topUps.save saved } tradeNo - db.wallet tradeNo = 0 := by
      rw [sub_eq_zero, wallet_of_lookup found, ← same.userId]
      exact wallet_of_lookup savedFound
    rw [credit]
    refine ⟨saved, savedFound, same, ?_, ?_⟩
    · intro honest success
      have paid := honest.paid (by simp [pending]) (status.trans success)
      exact absurd paid promised.ne
    · intro allowed
      have notSuccess : saved.status ≠ .success := by
        intro success
        exact allowed (status.symm.trans success) given topUp found accepted pending
      exact ⟨fun success => absurd (pending.symm.trans success) (by rintro ⟨⟩),
          fun _ success => absurd success notSuccess, fun _ _ => rfl⟩
  exact updated _ ⟨rfl, rfl, rfl⟩ rfl

end

theorem PaymentCall.progress (call : PaymentCall) (about : call.tradeNo db = some tradeNo)
    (found : db.topUps.lookup tradeNo = some topUp) (promised : 0 < topUp.creditQuotaSnapshot) :
    let result := call.run context db
    Progress tradeNo topUp (commit db result)
      ((commit db result).wallet tradeNo - db.wallet tradeNo)
      (call.Honours context tradeNo db) := by
  cases call with
  | rechargeEpay reference actualPaymentMethod =>
    cases about
    simp only [PaymentCall.Honours, forall_const]
    exact rechargeEpay_progress found
  | rechargeCreem reference | rechargeCreemWithValidation reference providerPayload validation =>
    cases about
    simp only [PaymentCall.Honours, forall_const]
    exact rechargeCreemWithValidation_progress found
  | updatePendingTopUpStatus reference expectedPaymentProvider targetStatus =>
    cases about
    simp only [PaymentCall.Honours, forall_const]
    exact updatePendingTopUpStatus_progress found promised
  | recharge reference customerId =>
    cases about
    exact progress_of_creditQuotaAmount found promised (fun _ done => recharge_outcome done)
  | manualCompleteTopUp reference =>
    cases about
    exact
      progress_of_creditQuotaAmount found promised (fun _ done => manualCompleteTopUp_outcome done)
  | creditExistingPaymentOrphan id resolvedBy =>
    obtain ⟨orphan, orphanFound, rfl⟩ := Option.map_eq_some_iff.mp about
    exact progress_of_creditQuotaAmount found promised
        (fun _ done => creditExistingPaymentOrphan_outcome orphanFound done)
  | rechargeEpayWithValidation reference providerPayload validation
  | rechargeStripeWithValidation reference customerId providerPayload validation
  | rechargeWaffo reference
  | rechargeWaffoWithValidation reference providerPayload validation
  | rechargeWaffoPancake reference
  | rechargeWaffoPancakeWithValidation reference providerPayload validation
  | rechargeBEpusdt reference providerPayload actualPaymentMethod
  | rechargeBEpusdtWithValidation reference providerPayload validation =>
    cases about
    exact progress_of_creditQuotaAmount found promised
        (fun _ done => rechargeWithValidation_outcome done)

theorem Outcome.lookup_other {accepts : TopUp → Prop}
    (outcome : Outcome other accepts quotaOf db later) (different : tradeNo ≠ other) :
    later.topUps.lookup tradeNo = db.topUps.lookup tradeNo := by
  rcases outcome with ⟨topUps, _⟩ | ⟨completed, _, _⟩
  · rw [topUps]
  · exact completed.lookup_other different

theorem updatePendingTopUpStatus_lookup_other {targetStatus : TopUpStatus}
    (different : tradeNo ≠ other)
    (done :
      updatePendingTopUpStatus context db other expectedPaymentProvider targetStatus = .ok later) :
    later.topUps.lookup tradeNo = db.topUps.lookup tradeNo := by
  unfold updatePendingTopUpStatus at done
  split at done
  · cases done
  obtain ⟨topUp, locked, done⟩ := bind_ok_iff.mp done
  have key : topUp.tradeNo = other := key_of_lookup (lockTopUp_eq_ok locked)
  split at done
  · cases done
  split at done
  · cases done
  cases done
  apply lookup_save_of_ne
  exact fun same => different (same.symm.trans key)

theorem PaymentCall.lookup_other (call : PaymentCall) (different : call.tradeNo db ≠ some tradeNo)
    (done : call.run context db = .ok later) :
    later.topUps.lookup tradeNo = db.topUps.lookup tradeNo := by
  have apart : ∀ {other : String}, call.tradeNo db = some other → tradeNo ≠ other := by
    intro other is same
    exact different (same ▸ is)
  cases call with
  | rechargeEpay => exact (rechargeEpay_outcome done).lookup_other (apart rfl)
  | rechargeCreem => exact (rechargeCreemWithValidation_outcome done).lookup_other (apart rfl)
  | rechargeCreemWithValidation =>
    exact (rechargeCreemWithValidation_outcome done).lookup_other (apart rfl)
  | updatePendingTopUpStatus => exact updatePendingTopUpStatus_lookup_other (apart rfl) done
  | recharge => exact (recharge_outcome done).lookup_other (apart rfl)
  | manualCompleteTopUp => exact (manualCompleteTopUp_outcome done).lookup_other (apart rfl)
  | creditExistingPaymentOrphan id resolvedBy =>
    cases orphanFound : db.orphans.lookup id with
    | none =>
      simp only [PaymentCall.run, Payments.creditExistingPaymentOrphan, orphanFound] at done
      cases done
    | some orphan =>
      refine (creditExistingPaymentOrphan_outcome orphanFound done).lookup_other (apart ?_)
      simp only [PaymentCall.tradeNo, orphanFound, Option.map_some]
  | rechargeEpayWithValidation | rechargeStripeWithValidation =>
    exact (rechargeWithValidation_outcome done).lookup_other (apart rfl)
  | rechargeWaffo => exact (rechargeWithValidation_outcome done).lookup_other (apart rfl)
  | rechargeWaffoWithValidation =>
    exact (rechargeWithValidation_outcome done).lookup_other (apart rfl)
  | rechargeWaffoPancake => exact (rechargeWithValidation_outcome done).lookup_other (apart rfl)
  | rechargeWaffoPancakeWithValidation =>
    exact (rechargeWithValidation_outcome done).lookup_other (apart rfl)
  | rechargeBEpusdt => exact (rechargeWithValidation_outcome done).lookup_other (apart rfl)
  | rechargeBEpusdtWithValidation =>
    exact (rechargeWithValidation_outcome done).lookup_other (apart rfl)

theorem PaymentCall.honours_other
    (call : PaymentCall) (different : call.tradeNo db ≠ some tradeNo) :
    call.Honours context tradeNo db := by
  cases call <;> try trivial
  all_goals
    intro same
    exact absurd (congrArg some same) different

/-- One call credits the promised amount or nothing. -/
theorem paymentStep_progress (action : PaymentAction tradeNo)
    (found : db.topUps.lookup tradeNo = some topUp) (promised : 0 < topUp.creditQuotaSnapshot) :
    Progress tradeNo topUp (paymentStep db action) (creditOf db action) (action.Honours db) := by
  cases action with
  | other work => exact .of_idle found (work.keepsOrder db) trivial
  | call payment context aborted =>
    cases aborted with
    | true =>
      have idle : creditOf db (.call payment context true : PaymentAction tradeNo) = 0 := by
        simp [creditOf, paymentStep]
      rw [idle]
      exact .of_idle found rfl nofun
    | false =>
      by_cases about : payment.tradeNo db = some tradeNo
      · simp only [creditOf, if_pos about, PaymentAction.Honours, forall_const]
        exact payment.progress about found promised
      · simp only [creditOf, if_neg about]
        refine .of_idle found ?_ (fun _ => payment.honours_other about)
        simp only [paymentStep]
        cases done : payment.run context db with
        | error failure => rfl
        | ok later => exact payment.lookup_other about done

end Steps

end NewApi.Payments
