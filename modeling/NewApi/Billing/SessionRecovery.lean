import NewApi.Billing.SessionHold

/-!
# Recovering the hold of a dead request

When the process of a request dies, the recovery jobs read the reserve rows.  A
wallet row remembers the whole wallet debit and a subscription row the
pre-consume; no row remembers the token or the supplemental reserves.
-/

namespace NewApi.Billing

open Transactions BillingSession KeyedTable SubscriptionPreConsumeRecord Database

/-- The two expiry jobs in the order in which `recoverNodeLocalBillingAdjustments`
runs them. -/
def recoverExpiredHolds (db : Database) (now limit : Int) : Database :=
  recoverExpiredSubscriptionPreConsumes (recoverExpiredWalletPreConsumes db now limit) now limit

section Jobs

variable {db : Database} {now limit : Int} {requestID : String}

def WalletPreConsumeRecord.Lapsed (record : WalletPreConsumeRecord) (now : Int) : Prop :=
  record.status.isOpen = true ∧ 0 < record.leaseUntil ∧ record.leaseUntil ≤ now

def SubscriptionPreConsumeRecord.Lapsed
    (record : SubscriptionPreConsumeRecord) (now : Int) : Prop :=
  record.status = .consumed ∧ 0 < record.leaseUntil ∧ record.leaseUntil ≤ now

private theorem take_batch_singleton {α : Type} (row : α) (limit : Int) :
    [row].take (if limit ≤ 0 then 100 else limit.toNat) = [row] := by
  apply List.take_of_length_le
  rw [List.length_singleton]
  split <;> omega

theorem recoverExpiredWalletPreConsumes_none
    (none_ : ∀ id record, db.walletPreConsumes.lookup id = some record → ¬record.Lapsed now) :
    recoverExpiredWalletPreConsumes db now limit = db := by
  unfold recoverExpiredWalletPreConsumes
  rw [filter_rows_eq_nil]
  · simp
  · intro id record found
    have alive := none_ id record found
    simpa [WalletPreConsumeRecord.Lapsed, and_assoc] using alive

theorem recoverExpiredWalletPreConsumes_single {record : WalletPreConsumeRecord}
    (found : db.walletPreConsumes.lookup requestID = some record) (lapsed : record.Lapsed now)
    (alone :
      ∀ id other, db.walletPreConsumes.lookup id = some other → other.Lapsed now → id = requestID) :
    recoverExpiredWalletPreConsumes db now limit =
      commit db ((refundWalletPreConsume db now requestID true).map Prod.snd) := by
  have sameID : record.requestID = requestID := key_of_lookup found
  unfold recoverExpiredWalletPreConsumes
  rw [filter_rows_eq_singleton found]
  · dsimp only
    rw [take_batch_singleton, List.foldl_cons, List.foldl_nil, sameID]
  · simpa [WalletPreConsumeRecord.Lapsed, and_assoc] using lapsed
  · intro id other located passes
    refine alone id other located ?_
    simpa [WalletPreConsumeRecord.Lapsed, and_assoc] using passes

theorem recoverExpiredSubscriptionPreConsumes_none
    (none_ : ∀ id record, db.subscriptionPreConsumes.lookup id = some record → ¬record.Lapsed now) :
    recoverExpiredSubscriptionPreConsumes db now limit = db := by
  unfold recoverExpiredSubscriptionPreConsumes
  rw [filter_rows_eq_nil]
  · simp
  · intro id record found
    have alive := none_ id record found
    simpa [SubscriptionPreConsumeRecord.Lapsed, and_assoc] using alive

theorem recoverExpiredSubscriptionPreConsumes_single {record : SubscriptionPreConsumeRecord}
    (found : db.subscriptionPreConsumes.lookup requestID = some record) (lapsed : record.Lapsed now)
    (alone : ∀ id other, db.subscriptionPreConsumes.lookup id = some other →
        other.Lapsed now → id = requestID) :
    recoverExpiredSubscriptionPreConsumes db now limit =
      commit db (recoverExpiredSubscriptionPreConsume db now requestID) := by
  have sameID : record.requestId = requestID := key_of_lookup found
  unfold recoverExpiredSubscriptionPreConsumes
  rw [filter_rows_eq_singleton found]
  · dsimp only
    rw [take_batch_singleton, List.foldl_cons, List.foldl_nil, sameID]
  · simpa [SubscriptionPreConsumeRecord.Lapsed, and_assoc] using lapsed
  · intro id other located passes
    refine alone id other located ?_
    simpa [SubscriptionPreConsumeRecord.Lapsed, and_assoc] using passes

end Jobs

/-! ## What a job returns -/

def NoLedgerRow (db : Database) (requestID : String) : Prop :=
  ∀ key row, db.billingAdjustments.lookup key = some row → row.requestID ≠ requestID

section Returns

variable {info : RelayInfo} {start db : Database} {now limit : Int}
variable {session : BillingSession}

theorem NoLedgerRow.unowned (unwritten : NoLedgerRow db info.requestId) :
    walletBillingAdjustmentOwnsTx db info.requestId = false ∧
      subscriptionBillingAdjustmentExistsTx db info.requestId = false := by
  constructor
  · rw [Bool.eq_false_iff]
    intro owns
    unfold walletBillingAdjustmentOwnsTx at owns
    rw [Bool.and_eq_true, any_rows_iff] at owns
    obtain ⟨_, key, row, found, passes⟩ := owns
    simp only [Bool.and_eq_true, decide_eq_true_eq] at passes
    exact unwritten key row found passes.1
  · rw [Bool.eq_false_iff]
    intro owns
    unfold subscriptionBillingAdjustmentExistsTx at owns
    rw [Bool.and_eq_true, any_rows_iff] at owns
    obtain ⟨_, key, row, found, passes⟩ := owns
    rw [decide_eq_true_eq] at passes
    exact unwritten key row found passes

variable {record : WalletPreConsumeRecord}

theorem refundWalletPreConsume_lapsed {held : Int} (keyed : info.requestId ≠ "")
    (found : db.walletPreConsumes.lookup info.requestId = some record) (lapsed : record.Lapsed now)
    (holds : ReserveHolds info held record) (unwritten : NoLedgerRow db info.requestId) :
    (refundWalletPreConsume db now info.requestId true).map Prod.snd =
      (increaseUserQuotaTx db info.userId (max 0 held)).map
        (·.saveWalletPreConsume { record with status := .refunded, updatedAt := now }) := by
  have unowned := unwritten.unowned.1
  have expired : ¬now < record.leaseUntil := by
    have lease := lapsed.2.2
    omega
  unfold refundWalletPreConsume refundWalletPreConsumeTx lockWalletPreConsumeTx
  rw [if_neg keyed, found]
  rcases holds.amount with ⟨reserved, amount⟩ | ⟨trusted, rfl⟩
  · have credit : (if 0 < record.amount then record.amount else 0) = max 0 held := by
      split <;> omega
    simp only [reserved, reduceCtorEq, if_false, expired, unowned, holds.undelivered, holds.owner,
      credit, decide_false, Bool.and_false, Bool.false_eq_true, ne_eq, not_true_eq_false]
    cases increaseUserQuotaTx db info.userId (max 0 held) with
    | error err => rfl
    | ok paid => rfl
  · simp only [trusted, reduceCtorEq, if_false, expired, unowned, holds.undelivered, decide_false,
      Bool.and_false, Bool.false_eq_true, if_true]
    rfl

theorem creditHold_restores {held : Int} (nonnegative : 0 ≤ held)
    (balance : quotaIn db.users info.userId = quotaIn start.users info.userId - held)
    (account : 0 < held → (db.users.lookup info.userId).isSome = true) :
    ∃ users records,
      commit db
          ((increaseUserQuotaTx db info.userId (max 0 held)).map (·.saveWalletPreConsume record)) =
        { db with users := users, walletPreConsumes := records } ∧
      (quotaIn users info.userId = quotaIn start.users info.userId ↔
        held = 0 ∨ quotaIn start.users info.userId ≤ maxWalletQuota) := by
  rw [max_eq_right nonnegative]
  by_cases zero : held = 0
  · refine ⟨db.users, db.walletPreConsumes.save record, ?_, ?_⟩
    · rw [zero]
      rfl
    · omega
  · obtain ⟨user, found⟩ := Option.isSome_iff_exists.mp (account (by omega))
    have holdsNow : quotaIn db.users info.userId = user.quota := by
      rw [quotaIn, found]
      rfl
    obtain ⟨fits, exceeds⟩ := increaseUserQuotaTx_of_found found (show 0 < held by omega)
    by_cases below : quotaIn start.users info.userId ≤ maxWalletQuota
    · obtain ⟨paid, credited⟩ := fits (by omega)
      obtain ⟨users, rfl, credit, _⟩ := (increaseUserQuotaTx_spec credited).2
      refine ⟨users, db.walletPreConsumes.save record, ?_, ?_⟩
      · rw [credited]
        rfl
      · omega
    · obtain ⟨err, refused⟩ := exceeds (by omega)
      refine ⟨db.users, db.walletPreConsumes, ?_, ?_⟩
      · rw [refused]
        rfl
      · omega

theorem WalletHold.recovered {tracked : Prop} (hold : WalletHold info start tracked session db)
    (keyed : tracked → info.requestId ≠ "") (unwritten : NoLedgerRow start info.requestId)
    (expired : ∀ record, db.walletPreConsumes.lookup info.requestId = some record →
        0 < record.leaseUntil ∧ record.leaseUntil ≤ now)
    (alone : ∀ id other, db.walletPreConsumes.lookup id = some other →
        other.Lapsed now → id = info.requestId) :
    ∃ users records,
      recoverExpiredWalletPreConsumes db now limit =
        { db with users := users, walletPreConsumes := records } ∧
      (quotaIn users info.userId = quotaIn start.users info.userId ↔ session.tokenConsumed = 0 ∨
          tracked ∧ quotaIn start.users info.userId ≤ maxWalletQuota) := by
  have unwrittenNow : NoLedgerRow db info.requestId := by
    obtain ⟨_, _, _, rfl⟩ := hold.tables
    exact unwritten
  by_cases isTracked : tracked
  · obtain ⟨record, found, holds⟩ := hold.reserve isTracked
    have isOpen : record.status.isOpen = true := by
      rcases holds.amount with ⟨status, _⟩ | ⟨status, _⟩
      · rw [status]
        rfl
      · rw [status]
        rfl
    have lapsed : record.Lapsed now := ⟨isOpen, expired record found⟩
    rw [recoverExpiredWalletPreConsumes_single found lapsed alone,
      refundWalletPreConsume_lapsed (keyed isTracked) found lapsed holds unwrittenNow]
    simp only [isTracked, true_and]
    exact creditHold_restores hold.token.nonnegative hold.balance hold.account
  · have absent := hold.untracked isTracked
    rw [recoverExpiredWalletPreConsumes_none]
    · refine ⟨db.users, db.walletPreConsumes, rfl, ?_⟩
      have balance := hold.balance
      simp only [isTracked, false_and, or_false]
      omega
    · intro id record found lapsed
      obtain rfl := alone id record found lapsed
      rw [absent] at found
      cases found

theorem BookedUsage.recovered {openedAt amount extra : Int} {sub : UserSubscription}
    (booked : BookedUsage info start db openedAt amount extra sub)
    (keyed : info.requestId ≠ "") (positive : 0 < amount)
    (unwritten : NoLedgerRow db info.requestId)
    (expired :
      ∀ record,
        db.subscriptionPreConsumes.lookup info.requestId = some record →
          0 < record.leaseUntil ∧ record.leaseUntil ≤ now)
    (alone : ∀ id other, db.subscriptionPreConsumes.lookup id = some other →
        other.Lapsed now → id = info.requestId) :
    ∃ subs records,
      recoverExpiredSubscriptionPreConsumes db now limit =
        { db with
          subscriptions := subs
          subscriptionPreConsumes := records } ∧
      ((∀ id, storedUsage subs id = storedUsage start.subscriptions id) ↔ extra = 0) := by
  obtain ⟨lease, reserve⟩ := booked.reserve
  obtain ⟨before, started, nonnegative, used⟩ := booked.used
  have extraNonnegative := booked.extra_nonnegative
  have lease_bounds := expired _ reserve
  have unclamped :
      (if sub.amountUsed + -amount < 0 then 0
        else sub.amountUsed + -amount) =
        before + extra := by
    omega
  have refunded : refundSubscriptionUsageIfCurrentPeriodTx db sub.id amount openedAt =
        .ok (db.saveSubscription { sub with amountUsed := before + extra }) := by
    unfold refundSubscriptionUsageIfCurrentPeriodTx
    rw [if_neg (by omega), if_neg (by omega),
      if_neg (not_le.mpr booked.id_pos), lockSubscriptionTx, booked.stored]
    change (if _ then _ else _) = _
    rw [booked.current, if_neg Bool.false_ne_true, applyUserSubscriptionDeltaTx, unclamped]
    exact if_neg (by omega)
  have closed : refundSubscriptionPreConsumeTx db info.requestId =
        .ok
          ((db.saveSubscription
              { sub with
                amountUsed := before + extra }).saveSubscriptionPreConsume
            { startedRecord sub openedAt info.requestId info.userId
                amount with
              leaseUntil := lease
              status := .refunded }) := by
    unfold refundSubscriptionPreConsumeTx closeSubscriptionPreConsumeTx refundPositiveUsageTx
    simp only [keyed, if_false, reserve, startedRecord, reduceCtorEq, positive, if_true, refunded]
    rfl
  have returned : recoverExpiredSubscriptionPreConsume db now info.requestId =
        refundSubscriptionPreConsumeTx db info.requestId := by
    unfold recoverExpiredSubscriptionPreConsume
    simp only [keyed, if_false, reserve, startedRecord, ne_eq, not_true_eq_false,
      not_lt.mpr lease_bounds.2, unwritten.unowned.2, Bool.or_false, Bool.false_eq_true, lt_irrefl]
    rfl
  rw [recoverExpiredSubscriptionPreConsumes_single reserve
    ⟨rfl, lease_bounds⟩ alone, returned, closed]
  refine ⟨_, _, rfl, ?_⟩
  have stored :=
    @KeyedTable.lookup_save_self _ _ UserSubscription.id _ db.subscriptions
      { sub with amountUsed := before + extra } sub booked.stored
  constructor
  · intro restored
    have here := restored sub.id
    rw [started, storedUsage] at here
    dsimp only [saveSubscriptionPreConsume, saveSubscription] at here
    rw [stored, Option.map_some, Option.some.injEq] at here
    dsimp only at here
    omega
  · intro nothing id
    dsimp only [saveSubscriptionPreConsume, saveSubscription]
    by_cases same : id = sub.id
    · subst same
      rw [storedUsage, stored, started, Option.map_some, nothing, Int.add_zero]
    · have skipped :=
        @KeyedTable.lookup_save_of_ne _ _ UserSubscription.id _
          db.subscriptions { sub with amountUsed := before + extra } id
          (Ne.symm same)
      rw [storedUsage, skipped]
      exact booked.others id same

end Returns

/-! ## Requests that died before they settled -/

/-- A request that took quota and whose process died: it ended before a ledger
row was written and before the response was delivered, its leases have run out
by `recoveredAt`, and no other lapsed row is waiting. -/
structure AbandonedRequest (calendar : Calendar) (session : BillingSession) (start : Node)
    (now quota : Int) (trust : Bool) (targets : List (Int × Int))
    (held : Node) (recoveredAt : Int) : Prop where
  /-- The session as `NewBillingSession` builds it. -/
  fresh : session = { relayInfo := session.relayInfo, funding := session.funding }
  budget : ∀ funding, session.funding = .subscription funding → funding.amount = quota
  noReserve : start.db.walletPreConsumes.lookup session.relayInfo.requestId = none
  noBooking : start.db.subscriptionPreConsumes.lookup session.relayInfo.requestId = none
  noLedgerRow : NoLedgerRow start.db session.relayInfo.requestId
  unreset :
    ∀ id sub, start.db.subscriptions.lookup id = some sub →
      sub.userId = session.relayInfo.userId → Unreset calendar start.db.plans now sub
  /-- The pre-consume and the supplemental reserves all succeeded. -/
  took :
    ∃ opened openedNode last,
      session.preConsume calendar start now quota trust =
          ⟨.ok (), opened, openedNode⟩ ∧
        opened.reserveEach openedNode targets = ⟨.ok (), last, held⟩
  walletExpired :
    ∀ record,
      held.db.walletPreConsumes.lookup session.relayInfo.requestId =
          some record →
        0 < record.leaseUntil ∧ record.leaseUntil ≤ recoveredAt
  subscriptionExpired :
    ∀ record,
      held.db.subscriptionPreConsumes.lookup session.relayInfo.requestId =
          some record →
        0 < record.leaseUntil ∧ record.leaseUntil ≤ recoveredAt
  walletAlone :
    ∀ id other, held.db.walletPreConsumes.lookup id = some other →
      other.Lapsed recoveredAt → id = session.relayInfo.requestId
  subscriptionAlone :
    ∀ id other, held.db.subscriptionPreConsumes.lookup id = some other →
      other.Lapsed recoveredAt → id = session.relayInfo.requestId

/-- The wallet of the user, every subscription counter and the token of the
request are back where they were. -/
structure Restored (info : RelayInfo) (start final : Database) : Prop where
  quota : quotaIn final.users info.userId = quotaIn start.users info.userId
  used : ∀ id, storedUsage final.subscriptions id = storedUsage start.subscriptions id
  token : tokenQuotas final.tokens info.tokenId = tokenQuotas start.tokens info.tokenId

def BillingSession.TakesNothing (session : BillingSession) (quota : Int) (trust : Bool)
    (targets : List (Int × Int)) : Prop :=
  session.effectiveQuota quota trust ≤ 0 ∧
    ∀ target ∈ targets, target.2 ≤ session.effectiveQuota quota trust

/-- When the reserve rows cover everything the request has taken. -/
def BillingSession.RecoveryCovers (session : BillingSession) (start : Database) (quota : Int)
    (trust : Bool) (targets : List (Int × Int)) : Prop :=
  match session.funding with
  | .wallet _ =>
    session.TakesNothing quota trust targets ∨
      session.relayInfo.isPlayground = true ∧
        (session.relayInfo.requestId ≠ "" ∧ 0 < quota) ∧
        quotaIn start.users session.relayInfo.userId ≤ maxWalletQuota
  | .subscription _ => session.relayInfo.isPlayground = true ∧ ∀ target ∈ targets, target.2 ≤ quota

section Requests

variable {calendar : Calendar} {session : BillingSession}
variable {start held : Node} {now quota recoveredAt : Int} {trust : Bool}
variable {targets : List (Int × Int)}

theorem BillingSession.preConsume_counters {opened : BillingSession} {openedNode : Node}
    (called : session.preConsume calendar start now quota trust = ⟨.ok (), opened, openedNode⟩) :
    opened.preConsumedQuota = session.effectiveQuota quota trust ∧
      opened.tokenConsumed =
        (if 0 < session.effectiveQuota quota trust then session.effectiveQuota quota trust
        else session.tokenConsumed) ∧
      opened.extraReserved = session.extraReserved ∧
      opened.settled = session.settled ∧
      opened.refunded = session.refunded := by
  obtain ⟨_, _, _, _, _, _, _, rfl, _⟩ := preConsume_ok called
  exact ⟨rfl, rfl, rfl, rfl, rfl⟩

theorem AbandonedRequest.counters {opened last : BillingSession} {openedNode : Node}
    (fresh : session = { relayInfo := session.relayInfo, funding := session.funding })
    (called : session.preConsume calendar start now quota trust = ⟨.ok (), opened, openedNode⟩)
    (raised : opened.reserveEach openedNode targets = ⟨.ok (), last, held⟩) :
    (last.tokenConsumed = 0 ↔ session.TakesNothing quota trust targets) ∧
      (last.extraReserved = 0 ↔ ∀ target ∈ targets, target.2 ≤ session.effectiveQuota quota trust) ∧
      session.effectiveQuota quota trust ≤ last.tokenConsumed := by
  obtain ⟨openedQuota, openedTokens, openedExtra, settled, refunded⟩ :=
    preConsume_counters called
  have noTokens : session.tokenConsumed = 0 := congrArg tokenConsumed fresh
  have noExtra : session.extraReserved = 0 := congrArg extraReserved fresh
  obtain ⟨grows, same, tokens, extra⟩ :=
    BillingSession.reserveEach_counters (settled.trans (congrArg BillingSession.settled fresh))
      (refunded.trans (congrArg BillingSession.refunded fresh)) raised
  rw [openedQuota] at grows same tokens extra
  unfold TakesNothing
  refine ⟨?_, ?_, ?_⟩
  · rw [← same]
    split at openedTokens <;> constructor <;> intros <;> omega
  · rw [← same]
    constructor <;> intros <;> omega
  · split at openedTokens <;> omega

section

variable
  (request : AbandonedRequest calendar session start now quota trust targets held recoveredAt)
include request

theorem AbandonedRequest.restored_wallet {funding : WalletFunding}
    (wallet : session.funding = .wallet funding) (limit : Int) :
    Restored session.relayInfo start.db (recoverExpiredHolds held.db recoveredAt limit) ↔
      session.TakesNothing quota trust targets ∨
        session.relayInfo.isPlayground = true ∧ (session.relayInfo.requestId ≠ "" ∧ 0 < quota) ∧
          quotaIn start.db.users session.relayInfo.userId ≤ maxWalletQuota := by
  obtain ⟨opened, openedNode, last, called, raised⟩ := request.took
  obtain ⟨nothing, _, _⟩ := AbandonedRequest.counters request.fresh called raised
  have fresh := request.fresh
  rw [wallet] at fresh
  have hold :=
    reserveEach_invariant
      (fun reserved before => WalletHold.raise (fun kept => kept.1) reserved before)
      raised (WalletHold.opened fresh request.noReserve called)
  obtain ⟨_, _, _, tables⟩ := hold.tables
  obtain ⟨users, records, recovered, restored⟩ :=
    @WalletHold.recovered session.relayInfo start.db held.db recoveredAt
      limit last _ hold (fun kept => kept.1) request.noLedgerRow
      request.walletExpired request.walletAlone
  have untouched :
      recoverExpiredSubscriptionPreConsumes
          { held.db with users := users, walletPreConsumes := records }
          recoveredAt limit =
        { held.db with users := users, walletPreConsumes := records } := by
    apply recoverExpiredSubscriptionPreConsumes_none
    intro id record found lapsed
    obtain rfl := request.subscriptionAlone id record found lapsed
    have absent := request.noBooking
    rw [tables] at found
    rw [absent] at found
    cases found
  rw [recoverExpiredHolds, recovered, untouched, ← nothing, or_and_left]
  constructor
  · intro final
    have token := hold.token.quotas_eq_iff.mp final.token
    exact ⟨token.symm, restored.mp final.quota⟩
  · intro covered
    refine ⟨restored.mpr covered.2, ?_, ?_⟩
    · intro id
      rw [tables]
    · exact hold.token.quotas_eq_iff.mpr covered.1.symm

theorem AbandonedRequest.restored_subscription {funding : SubscriptionFunding}
    (subscription : session.funding = .subscription funding) (limit : Int) :
    Restored session.relayInfo start.db (recoverExpiredHolds held.db recoveredAt limit) ↔
      session.relayInfo.isPlayground = true ∧ ∀ target ∈ targets, target.2 ≤ quota := by
  obtain ⟨opened, openedNode, last, called, raised⟩ := request.took
  obtain ⟨_, noExtra, atLeast⟩ := AbandonedRequest.counters request.fresh called raised
  have asked : session.effectiveQuota quota trust = quota := by
    simp [effectiveQuota, shouldTrust, subscription, FundingSource.source]
  rw [asked] at noExtra atLeast
  have fresh := request.fresh
  rw [subscription] at fresh
  have hold :=
    reserveEach_invariant
      (fun reserved before => SubscriptionHold.raise reserved before)
      raised
      (SubscriptionHold.opened fresh (request.budget funding subscription)
        request.noBooking request.unreset called)
  obtain ⟨_, _, _, tables⟩ := hold.tables
  have untouched : recoverExpiredWalletPreConsumes held.db recoveredAt limit = held.db := by
    apply recoverExpiredWalletPreConsumes_none
    intro id record found lapsed
    obtain rfl := request.walletAlone id record found lapsed
    have absent := request.noReserve
    rw [tables] at found
    rw [absent] at found
    cases found
  have unwritten : NoLedgerRow held.db session.relayInfo.requestId := by
    rw [tables]
    exact request.noLedgerRow
  obtain ⟨_, sub, _, _, booked⟩ := hold.booked
  obtain ⟨subs, records, recovered, restored⟩ :=
    @BookedUsage.recovered session.relayInfo start.db held.db recoveredAt
      limit now quota last.extraReserved sub booked hold.keyed hold.positive
      unwritten request.subscriptionExpired request.subscriptionAlone
  have positive := hold.positive
  rw [recoverExpiredHolds, untouched, recovered]
  constructor
  · intro final
    refine ⟨?_, noExtra.mp (restored.mp final.used)⟩
    rcases hold.token.quotas_eq_iff.mp final.token with playground | zero
    · exact playground
    · omega
  · rintro ⟨playground, small⟩
    refine ⟨?_, restored.mpr (noExtra.mpr small), ?_⟩
    · rw [tables]
    · exact hold.token.quotas_eq_iff.mpr (Or.inl playground)

end

/-- The recovery jobs restore a wallet request that took nothing, or whose
debit has a reserve row while no token was charged; and a subscription request
without a token that made no supplemental reserve. -/
theorem AbandonedRequest.restored_iff
    (request : AbandonedRequest calendar session start now quota trust targets held recoveredAt)
    (limit : Int) :
    Restored session.relayInfo start.db (recoverExpiredHolds held.db recoveredAt limit) ↔
      session.RecoveryCovers start.db quota trust targets := by
  unfold BillingSession.RecoveryCovers
  cases isFunding : session.funding with
  | wallet funding => exact request.restored_wallet isFunding limit
  | subscription funding => exact request.restored_subscription isFunding limit

end Requests

def abandonedSample (playground : Bool) : BillingSession where
  relayInfo := ⟨1, 1, "r", playground, false⟩
  funding := .wallet {}

def startSample : Node := ⟨Database.sample, fun _ => none, [], [], []⟩

def heldSample (playground : Bool) : SessionOutcome Unit :=
  let opened := (abandonedSample playground).preConsume .sample startSample 1 10 false
  opened.session.reserveEach opened.node [(2, 15)]

theorem abandonedSample_abandoned (playground : Bool) :
    AbandonedRequest .sample (abandonedSample playground) startSample 1 10
      false [(2, 15)] (heldSample playground).node 200 := by
  have rows : (heldSample playground).node.db.walletPreConsumes.rows =
        [⟨"r", 1, 15, 0, .reserved, false, 122, 1, 2⟩] := by
    cases playground <;> rfl
  have bookings : (heldSample playground).node.db.subscriptionPreConsumes.rows = [] := by
    cases playground <;> rfl
  have only :
      ∀ id other,
        (heldSample playground).node.db.walletPreConsumes.lookup id = some other →
          other = ⟨"r", 1, 15, 0, .reserved, false, 122, 1, 2⟩ ∧ id = "r" := by
    intro id other found
    obtain ⟨member, sameID⟩ := lookup_eq_some_iff.mp found
    rw [rows, List.mem_singleton] at member
    subst member
    exact ⟨rfl, sameID.symm⟩
  have noBookings :
      ∀ id other,
        (heldSample playground).node.db.subscriptionPreConsumes.lookup id ≠ some other := by
    intro id other found
    obtain ⟨member, _⟩ := lookup_eq_some_iff.mp found
    rw [bookings] at member
    cases member
  exact
    { fresh := rfl
      budget := by
        intro funding impossible
        cases impossible
      noReserve := rfl
      noBooking := rfl
      noLedgerRow := by
        intro key row found
        cases found
      unreset := by
        intro id sub found
        cases found
      took := by
        cases playground <;> exact ⟨_, _, _, rfl, rfl⟩
      walletExpired := by
        intro record found
        obtain ⟨rfl, _⟩ := only _ record found
        decide
      subscriptionExpired := by
        intro record found
        exact absurd found (noBookings _ record)
      walletAlone := by
        intro id other found _
        exact (only id other found).2
      subscriptionAlone := by
        intro id other found _
        exact absurd found (noBookings id other) }

/-- Without a token the whole hold comes back. -/
theorem playground_hold_restored :
    Restored (abandonedSample true).relayInfo startSample.db
      (recoverExpiredHolds (heldSample true).node.db 200 100) := by
  have covers : (abandonedSample true).RecoveryCovers startSample.db 10 false [(2, 15)] :=
    Or.inr ⟨rfl, ⟨by decide, by decide⟩, by decide⟩
  exact ((abandonedSample_abandoned true).restored_iff 100).mpr covers

/-- The token of a dead request is never given back. -/
theorem token_hold_lost :
    ¬ ∀ (calendar : Calendar) (session : BillingSession) (start held : Node)
        (now quota recoveredAt limit : Int) (trust : Bool)
        (targets : List (Int × Int)),
        AbandonedRequest calendar session start now quota trust targets held recoveredAt →
          Restored session.relayInfo start.db (recoverExpiredHolds held.db recoveredAt limit) := by
  intro claim
  have restored := (claim _ _ _ _ _ _ _ 100 _ _ (abandonedSample_abandoned false)).token
  have lost : tokenQuotas (recoverExpiredHolds (heldSample false).node.db 200 100).tokens 1 =
        some (85, 15) :=
    rfl
  have owned : tokenQuotas startSample.db.tokens 1 = some (100, 0) := rfl
  have same := lost.symm.trans (restored.trans owned)
  simp at same

end NewApi.Billing
