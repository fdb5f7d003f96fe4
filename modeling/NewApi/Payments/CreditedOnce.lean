import NewApi.Payments.PaymentSteps

/-!
# An order credits its promised quota once

A run credits the promised quota exactly once when the functions that ignore
the promise, those of the plain Epay callback and of Creem, come to the same
amount, and when no status update marks the order as successful.
-/

namespace NewApi.Payments

open GoStrings Transactions SamePromise

/-! ## Runs -/

def PaymentDatabase.succeeded (db : PaymentDatabase) (tradeNo : String) : Prop :=
  ∃ topUp, db.topUps.lookup tradeNo = some topUp ∧ topUp.status = .success

/-- The wallet has been credited with the promised quota if the order is
successful and with nothing otherwise, by one call at most, and the order has
not left success. -/
structure CreditedOnce {tradeNo : String} (start : PaymentDatabase)
    (run : List (PaymentAction tradeNo)) : Prop where
  credited : ∃ topUp,
    (execute paymentStep start run).topUps.lookup tradeNo = some topUp ∧
      ∀ setting, (credits start run).sum =
        if topUp.status = .success then topUp.creditQuotaAmount setting else 0
  once : ((credits start run).filter (· ≠ 0)).length ≤ 1
  kept : ∀ initial, initial <+: run →
    (execute paymentStep start initial).succeeded tradeNo →
      (execute paymentStep start run).succeeded tradeNo

section Runs

variable {tradeNo : String} {start : PaymentDatabase} {topUp : TopUp}

section

variable (db : PaymentDatabase) (initial : List (PaymentAction tradeNo))
  (action : PaymentAction tradeNo)
include db initial action

theorem credits_append :
    credits db (initial ++ [action]) =
      credits db initial ++ [creditOf (execute paymentStep db initial) action] := by
  induction initial generalizing db with
  | nil => rfl
  | cons first rest ih => simp only [List.cons_append, credits, execute_cons, ih]

theorem execute_append_singleton :
    execute paymentStep db (initial ++ [action]) =
      paymentStep (execute paymentStep db initial) action :=
  execute_append paymentStep db initial [action]

end

theorem SamePromise.trans {first second third : TopUp}
    (left : SamePromise first second) (right : SamePromise second third) :
    SamePromise first third :=
  ⟨right.tradeNo.trans left.tradeNo, right.userId.trans left.userId,
    right.creditQuotaSnapshot.trans left.creditQuotaSnapshot⟩

theorem exists_samePromise (found : start.topUps.lookup tradeNo = some topUp)
    (promised : 0 < topUp.creditQuotaSnapshot) (run : List (PaymentAction tradeNo)) :
    ∃ saved, (execute paymentStep start run).topUps.lookup tradeNo = some saved ∧
      SamePromise topUp saved := by
  induction run using List.reverseRecOn with
  | nil => exact ⟨topUp, found, refl topUp⟩
  | append_singleton initial action ih =>
    obtain ⟨saved, savedFound, same⟩ := ih
    have savedPromised : 0 < saved.creditQuotaSnapshot := by
      rw [same.creditQuotaSnapshot]
      exact promised
    obtain ⟨later, laterFound, sameLater, _⟩ :=
      (paymentStep_progress action savedFound savedPromised).exists_
    rw [execute_append_singleton]
    exact ⟨later, laterFound, same.trans sameLater⟩

structure Paid (start : PaymentDatabase) (run : List (PaymentAction tradeNo))
    (topUp saved : TopUp) : Prop where
  found : (execute paymentStep start run).topUps.lookup tradeNo = some saved
  same : SamePromise topUp saved
  success : saved.status = .success →
    (credits start run).sum = topUp.creditQuotaSnapshot ∧
      ((credits start run).filter (· ≠ 0)).length = 1
  unpaid : saved.status ≠ .success →
    (credits start run).sum = 0 ∧ (credits start run).filter (· ≠ 0) = []

variable {initial : List (PaymentAction tradeNo)} {action : PaymentAction tradeNo} {saved : TopUp}

/-- One call keeps what has been paid; a completed order is final. -/
theorem Paid.step (paid : Paid start initial topUp saved) (promised : 0 < topUp.creditQuotaSnapshot)
    (honours : action.Honours (execute paymentStep start initial)) :
    ∃ later, Paid start (initial ++ [action]) topUp later ∧
      (saved.status = .success → later.status = .success) := by
  have savedPromised : 0 < saved.creditQuotaSnapshot := by
    rw [paid.same.creditQuotaSnapshot]
    exact promised
  obtain ⟨later, laterFound, sameLater, honestIff⟩ :=
    (paymentStep_progress action paid.found savedPromised).exists_
  have honest := honestIff.mpr honours
  refine ⟨later, ⟨?_, paid.same.trans sameLater, ?_, ?_⟩, ?_⟩
  · rw [execute_append_singleton]
    exact laterFound
  · intro success
    rw [credits_append, List.sum_append, List.filter_append]
    by_cases already : saved.status = .success
    · obtain ⟨total, count⟩ := paid.success already
      rw [(honest.done already).2, total]
      exact ⟨by simp, by simpa using count⟩
    · obtain ⟨total, none⟩ := paid.unpaid already
      have credit := honest.paid already success
      rw [credit, total, none, paid.same.creditQuotaSnapshot]
      simp [promised.ne']
  · intro open_
    rw [credits_append, List.sum_append, List.filter_append]
    have notYet : saved.status ≠ .success := fun already => open_ (honest.done already).1
    obtain ⟨total, none⟩ := paid.unpaid notYet
    rw [honest.unpaid notYet open_, total, none]
    simp
  · exact fun already => (honest.done already).1

theorem Paid.exists_of_guarded (found : start.topUps.lookup tradeNo = some topUp)
    (isOpen : topUp.status ≠ .success) (promised : 0 < topUp.creditQuotaSnapshot)
    (run : List (PaymentAction tradeNo))
    (honours : ∀ initial action, initial ++ [action] <+: run →
      action.Honours (execute paymentStep start initial)) :
    (∃ saved, Paid start run topUp saved) ∧
      ∀ initial, initial <+: run →
        (execute paymentStep start initial).succeeded tradeNo →
          (execute paymentStep start run).succeeded tradeNo := by
  induction run using List.reverseRecOn with
  | nil =>
    refine ⟨⟨topUp, found, refl topUp, ?_, fun _ => ⟨rfl, rfl⟩⟩, ?_⟩
    · intro success
      exact absurd success isOpen
    · intro initial isPrefix succeeded
      rw [List.prefix_nil.mp isPrefix] at succeeded
      exact succeeded
  | append_singleton rest last ih =>
    have restPrefix : rest <+: rest ++ [last] := List.prefix_append rest [last]
    obtain ⟨⟨saved, paid⟩, kept⟩ := ih (fun initial action isPrefix =>
        honours initial action (isPrefix.trans restPrefix))
    obtain ⟨later, laterPaid, keeps⟩ := paid.step promised (honours rest last List.prefix_rfl)
    refine ⟨⟨later, laterPaid⟩, ?_⟩
    intro initial isPrefix succeeded
    rcases List.prefix_concat_iff.mp isPrefix with whole | shorter
    · rw [whole] at succeeded
      exact succeeded
    · obtain ⟨atRest, atRestFound, success⟩ := kept initial shorter succeeded
      rw [paid.found] at atRestFound
      cases atRestFound
      exact ⟨later, laterPaid.found, keeps success⟩

theorem Paid.creditedOnce {run : List (PaymentAction tradeNo)}
    (paid : Paid start run topUp saved) (promised : 0 < topUp.creditQuotaSnapshot)
    (kept : ∀ initial, initial <+: run →
      (execute paymentStep start initial).succeeded tradeNo →
        (execute paymentStep start run).succeeded tradeNo) :
    CreditedOnce start run := by
  have savedPromised : 0 < saved.creditQuotaSnapshot := by
    rw [paid.same.creditQuotaSnapshot]
    exact promised
  refine ⟨⟨saved, paid.found, ?_⟩, ?_, kept⟩
  · intro setting
    split
    · rename_i success
      rw [(paid.success success).1, creditQuotaAmount_of_snapshot _ savedPromised,
        paid.same.creditQuotaSnapshot]
    · rename_i open_
      exact (paid.unpaid open_).1
  · by_cases success : saved.status = .success
    · exact (paid.success success).2.le
    · rw [(paid.unpaid success).2]
      exact Nat.zero_le 1

/-- Two runs that differ by their last step tell whether it was honest. -/
theorem honest_of_creditedOnce {later : TopUp} (before : CreditedOnce start initial)
    (after : CreditedOnce start (initial ++ [action]))
    (savedFound : (execute paymentStep start initial).topUps.lookup tradeNo = some saved)
    (laterFound :
      (execute paymentStep start (initial ++ [action])).topUps.lookup tradeNo = some later)
    (promised : 0 < saved.creditQuotaSnapshot) (same : SamePromise saved later) :
    Honest saved later (creditOf (execute paymentStep start initial) action) := by
  have laterPromised : 0 < later.creditQuotaSnapshot := by
    rw [same.creditQuotaSnapshot]
    exact promised
  obtain ⟨_, found, totalBefore⟩ := before.credited
  cases found.symm.trans savedFound
  obtain ⟨_, found, totalAfter⟩ := after.credited
  cases found.symm.trans laterFound
  have first := totalBefore 0
  have second := totalAfter 0
  rw [creditQuotaAmount_of_snapshot 0 promised] at first
  rw [creditQuotaAmount_of_snapshot 0 laterPromised, same.creditQuotaSnapshot,
    credits_append, List.sum_append, List.sum_singleton] at second
  refine ⟨?_, ?_, ?_⟩
  · intro success
    obtain ⟨_, found, stays⟩ :=
      after.kept initial (List.prefix_append initial [action]) ⟨saved, savedFound, success⟩
    cases found.symm.trans laterFound
    rw [if_pos success] at first
    rw [if_pos stays] at second
    exact ⟨stays, by omega⟩
  · intro open_ success
    rw [if_neg open_] at first
    rw [if_pos success] at second
    omega
  · intro open_ stillOpen
    rw [if_neg open_] at first
    rw [if_neg stillOpen] at second
    omega

end Runs

/-- Every state of a run is credited once exactly when every call of the run
honours the promise of the order. -/
theorem credited_once_iff {tradeNo : String} (start : PaymentDatabase) (topUp : TopUp)
    (run : List (PaymentAction tradeNo))
    (found : start.topUps.lookup tradeNo = some topUp) (isOpen : topUp.status ≠ .success)
    (promised : 0 < topUp.creditQuotaSnapshot) :
    (∀ initial, initial <+: run → CreditedOnce start initial) ↔
      GuardedRun paymentStep (fun db action => action.Honours db) start run := by
  rw [guardedRun_iff_prefixes]
  constructor
  · intro credited initial action isPrefix
    obtain ⟨saved, savedFound, same⟩ := exists_samePromise found promised initial
    have savedPromised : 0 < saved.creditQuotaSnapshot := by
      rw [same.creditQuotaSnapshot]
      exact promised
    obtain ⟨later, laterFound, sameLater, honestIff⟩ :=
      (paymentStep_progress action savedFound savedPromised).exists_
    apply honestIff.mp
    rw [← execute_append_singleton] at laterFound
    exact honest_of_creditedOnce
        (credited initial ((List.prefix_append initial [action]).trans isPrefix))
        (credited _ isPrefix) savedFound laterFound savedPromised sameLater
  · intro honours initial isPrefix
    obtain ⟨⟨saved, paid⟩, kept⟩ :=
      Paid.exists_of_guarded found isOpen promised initial
        (fun earlier action earlierPrefix => honours earlier action (earlierPrefix.trans isPrefix))
    exact paid.creditedOnce promised kept

def epayOrder : TopUp where
  userId := 7
  amount := 2
  money := 2
  paidAmount := 2
  paidCurrency := "CNY"
  tradeNo := "order"
  paymentMethod := "alipay"
  paymentProvider := "epay"
  providerPayload := ""
  creditQuotaSnapshot := 1000000
  quotaPerUnitSnapshot := 500000
  completeTime := 0
  status := .pending

def epayDatabase : PaymentDatabase where
  topUps := ⟨[epayOrder], List.nodup_singleton _⟩
  users := ⟨[⟨7, 0, ""⟩], List.nodup_singleton _⟩
  orphans := .empty

def epayRun (quotaPerUnit : Rat) : List (PaymentAction "order") :=
  [ .call (.rechargeEpay "order" "alipay") ⟨.ascii, 100, quotaPerUnit⟩ false,
    .call (.rechargeEpay "order" "alipay") ⟨.ascii, 200, quotaPerUnit⟩ false ]

theorem credited_once_iff_of_epayRun :
    (∀ initial, initial <+: epayRun 500000 → CreditedOnce epayDatabase initial) ↔
      GuardedRun paymentStep (fun db action => action.Honours db) epayDatabase (epayRun 500000) :=
  credited_once_iff epayDatabase epayOrder (epayRun 500000) (by decide) (by decide) (by decide)

/-- The setting has doubled since the order was made, and so does the credit. -/
theorem epay_credits_at_present_setting :
    ¬ ∀ (tradeNo : String) (start : PaymentDatabase) (topUp : TopUp)
        (run : List (PaymentAction tradeNo)),
      start.topUps.lookup tradeNo = some topUp → topUp.status ≠ .success →
        0 < topUp.creditQuotaSnapshot → CreditedOnce start run := by
  intro always
  obtain ⟨topUp, found, credited⟩ :=
    (always "order" epayDatabase epayOrder (epayRun 1000000) (by decide)
      (by decide) (by decide)).credited
  have credit : (credits epayDatabase (epayRun 1000000)).sum = 2000000 := by decide +kernel
  have saved :
      ((execute paymentStep epayDatabase (epayRun 1000000)).topUps.lookup
        "order").map (fun topUp => (topUp.status, topUp.creditQuotaSnapshot)) =
        some (.success, 1000000) := by
    decide +kernel
  rw [found, Option.map_some, Option.some.injEq, Prod.mk.injEq] at saved
  have promised : 0 < topUp.creditQuotaSnapshot := by
    rw [saved.2]
    decide
  have total := credited 0
  rw [credit, if_pos saved.1, creditQuotaAmount_of_snapshot 0 promised, saved.2] at total
  exact absurd total (by decide)

end NewApi.Payments
