import NewApi.Lib.Persistence
import NewApi.Payments.CreditedOnce

/-!
# Histories of orders and wallets

What every sequence of payment calls keeps, for all orders and users at once.
-/

namespace NewApi.Payments

open Transactions KeyedTable PaymentCall

/-- The row of an order that no completion may touch any more is final. -/
def TopUpFollows (before after : TopUp) : Prop :=
  SamePromise before after ∧ (before.status.allowsPaymentCompletion = false → after = before)

/-- Orders keep their users and promises, finished orders are final, and no
wallet loses quota. -/
structure PaymentsFollow (db later : PaymentDatabase) : Prop where
  topUps : RowsStay TopUpFollows db.topUps.lookup later.topUps.lookup
  users : RowsStay (fun before after => before.quota ≤ after.quota)
    db.users.lookup later.users.lookup

section

variable {db later : PaymentDatabase} {context : PaymentContext}

theorem TopUpFollows.refl (topUp : TopUp) : TopUpFollows topUp topUp := ⟨.refl topUp, fun _ => rfl⟩

theorem PaymentsFollow.frame (topUps : later.topUps = db.topUps) (users : later.users = db.users) :
    PaymentsFollow db later where
  topUps := .of_eq TopUpFollows.refl (congrArg _ topUps)
  users := .of_eq (fun _ => le_refl _) (congrArg _ users)

theorem PaymentsFollow.trans (first second third : PaymentDatabase)
    (left : PaymentsFollow first second) (right : PaymentsFollow second third) :
    PaymentsFollow first third where
  topUps := by
    refine left.topUps.trans ?_ right.topUps
    intro one two three before after
    refine ⟨before.1.trans after.1, fun final => ?_⟩
    have same := before.2 final
    rw [after.2 (same ▸ final), same]
  users := left.users.trans (fun _ _ _ => le_trans) right.users

theorem Outcome.follows {tradeNo : String} {accepts : TopUp → Prop} {quotaOf : TopUp → Option Int}
    (outcome : Outcome tradeNo accepts quotaOf db later) :
    PaymentsFollow db later := by
  rcases outcome with ⟨topUps, users⟩ | ⟨completed, _, _⟩
  · exact .frame topUps users
  refine ⟨?_, ?_⟩
  · rw [completed.topUps]
    refine .save TopUpFollows.refl (completed.savedTradeNo.symm ▸ completed.found) ⟨?_, ?_⟩
    · exact ⟨completed.savedTradeNo.trans (key_of_lookup completed.found).symm,
        completed.savedUser, completed.savedSnapshot⟩
    · intro final
      rw [completed.open_] at final
      cases final
  · have found := completed.userFound
    rw [← key_of_lookup found] at found
    rw [completed.users]
    exact .save (fun _ => le_refl _) found (le_add_of_nonneg_right completed.positive.le)

theorem updatePendingTopUpStatus_follows {tradeNo provider : String} {status : TopUpStatus}
    (done : updatePendingTopUpStatus context db tradeNo provider status = .ok later) :
    PaymentsFollow db later := by
  unfold updatePendingTopUpStatus at done
  split at done
  · cases done
  obtain ⟨topUp, locked, done⟩ := bind_ok_iff.mp done
  have found := lockTopUp_eq_ok locked
  rw [← key_of_lookup found] at found
  split at done
  · cases done
  split at done
  · cases done
  rename_i pending
  cases done
  refine ⟨.save TopUpFollows.refl found ⟨⟨rfl, rfl, rfl⟩, ?_⟩, .of_eq (fun _ => le_refl _) rfl⟩
  rw [not_not.mp pending]
  rintro ⟨⟩

theorem PaymentCall.follows {call : PaymentCall} (done : call.run context db = .ok later) :
    PaymentsFollow db later := by
  cases call with
  | rechargeEpay => exact (rechargeEpay_outcome done).follows
  | rechargeCreem | rechargeCreemWithValidation =>
    exact (rechargeCreemWithValidation_outcome done).follows
  | updatePendingTopUpStatus => exact updatePendingTopUpStatus_follows done
  | recharge => exact (recharge_outcome done).follows
  | manualCompleteTopUp => exact (manualCompleteTopUp_outcome done).follows
  | creditExistingPaymentOrphan id resolvedBy =>
    cases found : db.orphans.lookup id with
    | none =>
      simp only [run, Payments.creditExistingPaymentOrphan, found] at done
      cases done
    | some orphan => exact (creditExistingPaymentOrphan_outcome found done).follows
  | _ => exact (rechargeWithValidation_outcome done).follows

end

theorem payments_history (db : PaymentDatabase) (calls : List (PaymentCall × PaymentContext)) :
    PaymentsFollow db (execute (fun db call => commit db (call.1.run call.2 db)) db calls) := by
  refine execute_related (fun _ => .frame rfl rfl) PaymentsFollow.trans ?_ db calls
  intro state call
  exact commit_invariant (.frame rfl rfl) fun _ => follows

end NewApi.Payments
