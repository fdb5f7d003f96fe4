import NewApi.Billing.SubscriptionSettlement
import NewApi.Billing.WalletLedger

/-!
# Settling after an expiry recovery

A request that outlives its lease has its hold returned while it is running.
When it settles afterwards, the wallet side charges in full; the subscription
side moves the delta against a hold that no longer exists.
-/

namespace NewApi.Billing

open Transactions

section Recovery

variable {db after : Database} {id now : Int} {sub : UserSubscription}
  {requestID : String} {record : SubscriptionPreConsumeRecord}

/-- A lapsed record is refunded, or left to the adjustment that owns it. -/
theorem recoverExpiredSubscriptionPreConsume_spec (found : (db.usageView id).sub = some sub)
    (present : (db.usageView id).records requestID = some record)
    (reserve : ReserveOn id requestID record) (posted : record.postResetReserved = 0)
    (done : recoverExpiredSubscriptionPreConsume db now requestID = .ok after) :
    (record.status = .refunded ∧ after.usageView id = db.usageView id) ∨
      (record.status = .consumed ∧
        after.usageView id = (db.usageView id).setRecord { record with leaseUntil := 0 }) ∨
      (record.status = .consumed ∧
        after.usageView id =
          ((db.usageView id).setUsed
              (refundUsed sub.lastResetTime sub.amountUsed record.preConsumed
                record.createdAt)).setRecord
            { record with status := .refunded }) := by
  have located : db.subscriptionPreConsumes.lookup requestID = some record := present
  unfold recoverExpiredSubscriptionPreConsume at done
  rw [if_neg reserve.nonempty] at done
  simp only [located] at done
  split at done
  · rename_i closed
    cases done
    refine Or.inl ⟨?_, rfl⟩
    cases status : record.status with
    | consumed => exact absurd status closed
    | refunded => rfl
  · rename_i notClosed
    have consumed : record.status = .consumed := not_not.mp notClosed
    split at done
    · cases done
    split at done
    · cases done
      refine Or.inr (Or.inl ⟨consumed, ?_⟩)
      refine @usageView_saveSubscriptionPreConsume db id { record with leaseUntil := 0 } record ?_
      rw [reserve.request]
      exact present
    · rw [if_neg (by omega)] at done
      have refunded := refundSubscriptionPreConsumeTx_spec found present reserve done
      rw [consumed, if_neg (by decide)] at refunded
      exact Or.inr (Or.inr ⟨consumed, refunded⟩)

end Recovery

/-- The settlement of the request has at most been announced: a row under its
key is its own, still pending, and dated by its reserve. -/
def StagedOn (id : Int) (requestID key : String) (record : SubscriptionPreConsumeRecord)
    (view : UsageView) : Prop :=
  ∀ row, view.rows key = some row →
    RowOn id requestID key row ∧ row.status = .pending ∧
      row.subscriptionConsumedAt = record.createdAt

/-- A settlement that follows the recovery of its hold: `held` was reserved and
returned, `charge` is settled, `others` is the usage everybody else has in the
period, and `consumed` is what the request ends up with.  Other requests may hold
and settle whatever they like in between. -/
inductive RecoveredSettlement :
    BillingAdjustmentSource → (held charge others consumed : Int) → Prop
  | wallet
      {scope : RequestScope} {start after : Database}
      {steps : List WalletStep} {now : Int}
      {req : BillingAdjustmentRequest} {outcome : ApplyOutcome}
      {record : WalletPreConsumeRecord} {others : Int}
      (fresh : scope.Fresh start)
      (run : WalletRun scope (fun _ _ => False) start steps)
      (present : (scope.view (walletFinal scope start steps).db).record = some record)
      (returned : record.status = .refunded)
      (sends : scope.Sends req)
      (payload : req.reservationQuota = (walletFinal scope start steps).reserved)
      (done :
        applyBillingAdjustment (walletFinal scope start steps).db now req = .ok (outcome, after)) :
      RecoveredSettlement .wallet req.reservationQuota req.chargeQuota others
        (scope.net start after)
  | subscription
      {id recoveredAt now others : Int} {requestID key : String}
      {held recovered later after : Database}
      {sub current final : UserSubscription} {record : SubscriptionPreConsumeRecord}
      {req : BillingAdjustmentRequest} {outcome : ApplyOutcome}
      (found : (held.usageView id).sub = some sub)
      (present : (held.usageView id).records requestID = some record)
      (reserve : ReserveOn id requestID record)
      (posted : record.postResetReserved = 0)
      (consumed : record.status = .consumed)
      (recovery : recoverExpiredSubscriptionPreConsume held recoveredAt requestID = .ok recovered)
      (returned :
        ((recovered.usageView id).records requestID).map
            SubscriptionPreConsumeRecord.status =
          some .refunded)
      -- Everybody else goes on; no reset has wiped the usage of the request.
      (meanwhile : (later.usageView id).sub = some current)
      (usage : current.amountUsed = others)
      (nonnegative : 0 ≤ others)
      (noReset : subscriptionUsageClearedByReset current.lastResetTime record.createdAt = false)
      (kept :
        (later.usageView id).records requestID = (recovered.usageView id).records requestID)
      (staged : StagedOn id requestID key record (later.usageView id))
      (sends : SendsOn id requestID key req)
      (payload : req.reservationQuota = record.preConsumed)
      (done : applyBillingAdjustment later now req = .ok (outcome, after))
      (settled : (after.usageView id).sub = some final) :
      RecoveredSettlement .subscription req.reservationQuota req.chargeQuota
        others (final.amountUsed - others)

private theorem charge_of_same {req : BillingAdjustmentRequest} {row : BillingAdjustment}
    (same : req.same row = true) : row.chargeQuota = req.chargeQuota := by
  obtain ⟨_, _, _, _, _, _, charge, _⟩ := BillingAdjustmentRequest.same_iff.mp same
  exact charge

/-- Whatever the ledger held before: a request that is applied has taken its charge. -/
private theorem wallet_settlement_net {scope : RequestScope} {start after : Database}
    {steps : List WalletStep} {now : Int}
    {req : BillingAdjustmentRequest} {outcome : ApplyOutcome} (fresh : scope.Fresh start)
    (run : WalletRun scope (fun _ _ => False) start steps)
    (sends : scope.Sends req)
    (payload : req.reservationQuota = (walletFinal scope start steps).reserved)
    (done :
      applyBillingAdjustment (walletFinal scope start steps).db now req = .ok (outcome, after)) :
    scope.net start after = req.chargeQuota := by
  have before :=
    walletRun_invariant fresh
      (run.mono (fun _ step => step.allowed_mono (fun _ never => never.elim)))
  have invariant := apply_invariant before fresh.nonempty sends payload done
  obtain ⟨_, applied, _⟩ :=
    applyBillingAdjustment_cases sends fresh.nonempty before.balanced.carries done
  have taken : (scope.view after).taken = req.chargeQuota := by
    generalize scope.view after = view at applied
    cases applied with
    | replayed found same applied =>
      rw [RequestView.taken, found, ← charge_of_same same]
      simp [applied]
    | settled settles same pending => exact charge_of_same same
  have balance := invariant.balanced.balance
  unfold RequestScope.net
  omega

/-- The usage a subscription request leaves when its hold is gone: the delta is
moved although there is nothing to move it against. -/
private theorem subscription_firstSettlement_used
    {db after : Database} {id now : Int} {requestID key : String}
    {sub : UserSubscription} {record : SubscriptionPreConsumeRecord}
    {req : BillingAdjustmentRequest} {outcome : ApplyOutcome}
    (found : (db.usageView id).sub = some sub)
    (present : (db.usageView id).records requestID = some record)
    (reserve : ReserveOn id requestID record)
    (noReset : subscriptionUsageClearedByReset sub.lastResetTime record.createdAt = false)
    (staged : StagedOn id requestID key record (db.usageView id))
    (sends : SendsOn id requestID key req)
    (done : applyBillingAdjustment db now req = .ok (outcome, after)) :
    req.Valid ∧
      (after.usageView id).sub =
        some
          { sub with
            amountUsed := shiftUsed sub.amountUsed req.fundingDelta } := by
  have owns : (db.usageView id).OwnsKey id requestID key := fun row located =>
    (staged row located).1
  obtain ⟨valid, applied⟩ := applyBillingAdjustment_usage found present reserve sends owns done
  refine ⟨valid, ?_⟩
  generalize after.usageView id = view at applied
  cases applied with
  | replayed located same applied =>
    rw [sends.key] at located
    have pending := (staged _ located).2.1
    rw [applied] at pending
    cases pending
  | @settled row settles same pending =>
    have dated : row.subscriptionConsumedAt = record.createdAt := by
      rcases settles with located | ⟨_, rfl⟩
      · rw [sends.key] at located
        exact (staged _ located).2.2
      · rfl
    obtain ⟨_, _, _, _, delta, _⟩ := BillingAdjustmentRequest.same_iff.mp same
    simp [found, settledUsed, dated, reserve.createdAt, noReset, delta]

/-- A wallet request always ends up with exactly its charge.  A subscription
request does so only when it had held nothing, or when the usage of the period
is zero and stays zero. -/
theorem recoveredSettlement_exact_iff
    {source : BillingAdjustmentSource} {held charge others consumed : Int}
    (settlement : RecoveredSettlement source held charge others consumed) :
    consumed = charge ↔ source = .wallet ∨ held = 0 ∨ (others = 0 ∧ charge = 0) := by
  cases settlement with
  | wallet fresh run present returned sends payload done =>
    have net := wallet_settlement_net fresh run sends payload done
    simp [net]
  | @subscription id recoveredAt now _ requestID key held recovered later
      after sub current final record req outcome found present reserve posted consumed
      recovery returned meanwhile usage nonnegative noReset kept staged sends payload done
      settled =>
      have recoveredView : recovered.usageView id =
            ((held.usageView id).setUsed
                (refundUsed sub.lastResetTime sub.amountUsed
                  record.preConsumed record.createdAt)).setRecord
              { record with status := .refunded } := by
        rcases recoverExpiredSubscriptionPreConsume_spec found present reserve posted recovery with
          ⟨refunded, _⟩ | ⟨_, view⟩ | ⟨_, view⟩
        · rw [refunded] at consumed
          cases consumed
        · rw [view, UsageView.setRecord, reserve.request] at returned
          simp [consumed] at returned
        · exact view
      have laterPresent :
          (later.usageView id).records requestID = some { record with status := .refunded } := by
        rw [kept, recoveredView, ← reserve.request]
        exact UsageView.setRecord_records_self _ { record with status := .refunded }
      have laterReserve : ReserveOn id requestID { record with status := .refunded } :=
        ⟨reserve.nonempty, reserve.request, reserve.subscription, reserve.createdAt⟩
      obtain ⟨valid, used⟩ :=
        subscription_firstSettlement_used meanwhile laterPresent laterReserve
          noReset staged sends done
      rw [settled, Option.some.injEq] at used
      subst used usage
      have balanced := valid.balanced
      have charge := valid.charge
      have reservation := valid.reservation
      simp only [reduceCtorEq, false_or, shiftUsed]
      split <;> omega

/-- A reserve of 10 whose lease runs out, settled afterwards with 7. -/
theorem recoveredSettlement_wallet_seven :
    ∃ consumed, RecoveredSettlement .wallet 10 7 0 consumed ∧ consumed = 7 := by
  let steps : List WalletStep := [.reserve 0 10, .recoverExpired 200]
  have run : WalletRun .sample (fun _ _ => False) Database.sample steps := ⟨rfl, trivial, trivial⟩
  have settlement :
      RecoveredSettlement .wallet 10 7 0
        (RequestScope.sample.net Database.sample
          (WalletStep.run .sample (walletFinal .sample Database.sample steps)
            (.apply 201 (sampleCharge 10 7))).db) :=
    .wallet sample_fresh run rfl rfl (sampleCharge_sends 10 7) rfl rfl
  exact ⟨_, settlement, (recoveredSettlement_exact_iff settlement).mpr (Or.inl rfl)⟩

def sampleUsageCharge (reservationQuota chargeQuota : Int) :
    BillingAdjustmentRequest :=
  { sampleCharge reservationQuota chargeQuota with
    source := .subscription
    subscriptionID := 1 }

/-- The hold of 10 is returned, the charge of 7 is settled, and the usage of
the others has dropped by 3. -/
theorem recoveredSettlement_subscription_loses :
    ¬ ∀ (source : BillingAdjustmentSource) (held charge others consumed : Int),
        RecoveredSettlement source held charge others consumed → consumed = charge := by
  intro claim
  let recovered :=
    commit Database.sampleHeld
      (recoverExpiredSubscriptionPreConsume Database.sampleHeld 200 "req-1")
  let after :=
    commit recovered ((applyBillingAdjustment recovered 201 (sampleUsageCharge 10 7)).map Prod.snd)
  have found : (Database.sampleHeld.usageView 1).sub =
        some { UserSubscription.sample with amountUsed := 30 } :=
    rfl
  have present : (Database.sampleHeld.usageView 1).records "req-1" = some .sample := rfl
  have reserve : ReserveOn 1 "req-1" .sample := ⟨by decide, rfl, rfl, by decide⟩
  have recovery :
      recoverExpiredSubscriptionPreConsume Database.sampleHeld 200 "req-1" = .ok recovered :=
    rfl
  have meanwhile : (recovered.usageView 1).sub =
        some { UserSubscription.sample with amountUsed := 20 } :=
    rfl
  have staged : StagedOn 1 "req-1" "billing:req-1" .sample (recovered.usageView 1) := by
    intro row located
    cases located
  have sends : SendsOn 1 "req-1" "billing:req-1" (sampleUsageCharge 10 7) := ⟨rfl, rfl, rfl, rfl⟩
  have done : applyBillingAdjustment recovered 201 (sampleUsageCharge 10 7) =
        .ok (⟨true, [.tokenDelta 1 3]⟩, after) :=
    rfl
  have settled : (after.usageView 1).sub = some { UserSubscription.sample with amountUsed := 17 } :=
    rfl
  have settlement : RecoveredSettlement .subscription 10 7 20 (17 - 20) :=
    .subscription found present reserve rfl rfl recovery rfl meanwhile rfl
      (by decide) rfl rfl staged sends rfl done settled
  have wrong := claim _ _ _ _ _ settlement
  omega

end NewApi.Billing
