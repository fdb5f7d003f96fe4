import NewApi.Billing.SessionSteps

/-!
# Wallet and token over a session

The state of a run keeps the session, its node, and what its calls have taken
from the wallet and from the token.  The two amounts are equal in every state
that is reached by calls which the `Orderly` condition admits.
-/

namespace NewApi.Billing

open Transactions BillingSession WalletPreConsumeRecord

namespace Token

section Flag

variable (token : Token)

theorem settle_unlimited (included : Bool) (delta : Int) :
    (token.settle included delta).unlimitedQuota = token.unlimitedQuota := by
  unfold settle
  split
  · rfl
  · split <;> rfl

theorem refund_unlimited (included : Bool) (tokenID amount : Int) :
    (token.refund included tokenID amount).unlimitedQuota = token.unlimitedQuota := by
  unfold refund
  split <;> rfl

theorem takeToken_unlimited (info : RelayInfo) (quota : Int) :
    (info.takeToken quota token).unlimitedQuota = token.unlimitedQuota := by
  unfold RelayInfo.takeToken
  split
  · rfl
  · split <;> rfl

end Flag

section Limited

variable {token : Token} (limited : token.unlimitedQuota = false)

include limited

theorem increase_remain (quota : Int) :
    (token.increase quota).remainQuota = token.remainQuota + quota := by
  simp [increase, limited]

theorem decrease_remain (quota : Int) :
    (token.decrease quota).remainQuota = token.remainQuota - quota := by
  simp [decrease, limited]

theorem settle_remain (delta : Int) :
    (token.settle true delta).remainQuota = token.remainQuota - delta := by
  unfold settle
  split
  · rename_i idle
    have zero : delta = 0 := by simpa using idle
    omega
  · split
    · exact decrease_remain limited delta
    · rw [increase_remain limited]
      omega

theorem refund_remain {tokenID : Int} (positive : 0 < tokenID) (amount : Int) :
    (token.refund true tokenID amount).remainQuota = token.remainQuota + amount := by
  unfold refund
  split
  · rename_i idle
    have zero : amount = 0 := by
      simp only [Bool.not_true, Bool.false_eq_true, false_or] at idle
      omega
    omega
  · exact increase_remain limited amount

theorem takeToken_remain {info : RelayInfo} (real : info.isPlayground = false) (quota : Int) :
    (info.takeToken quota token).remainQuota = token.remainQuota - quota := by
  unfold RelayInfo.takeToken
  rw [if_neg (by simp [real])]
  split
  · exact decrease_remain limited quota
  · rfl

end Limited

end Token

def RequestView.Limited (view : RequestView) : Prop :=
  ∃ token, view.token = some token ∧ token.unlimitedQuota = false

def RequestView.remain (view : RequestView) : Int := (view.token.map Token.remainQuota).getD 0

/-- `after` has lost the same quota on both sides, and the token is still a
limited one. -/
structure InStep (before after : RequestView) : Prop where
  taken : before.quota - after.quota = before.remain - after.remain
  limited : after.Limited

theorem InStep.refl {view : RequestView} (limited : view.Limited) : InStep view view :=
  ⟨by omega, limited⟩

theorem inStep_of_update {before after : RequestView} {amount : Int} {update : Token → Token}
    (limited : before.Limited) (quota : after.quota = before.quota + -amount)
    (token : after.token = before.token.map update)
    (remain : ∀ token : Token, token.unlimitedQuota = false →
        (update token).remainQuota = token.remainQuota - amount ∧
          (update token).unlimitedQuota = false) :
    InStep before after := by
  obtain ⟨stored, found, isLimited⟩ := limited
  obtain ⟨less, still⟩ := remain stored isLimited
  rw [found, Option.map_some] at token
  refine ⟨?_, update stored, token, still⟩
  rw [RequestView.remain, RequestView.remain, found, token, quota]
  simp only [Option.map_some, Option.getD_some, less]
  omega

section Effects

variable {view : RequestView} {info : RelayInfo} {now : Int}

theorem inStep_take {after : RequestView} {quota : Int}
    (limited : view.Limited) (real : info.isPlayground = false)
    (paid : after.quota = view.quota + -quota)
    (token : after.token = view.token.map (info.takeToken quota)) :
    InStep view after :=
  inStep_of_update limited paid token (fun token isLimited =>
    ⟨token.takeToken_remain isLimited real quota,
      (token.takeToken_unlimited info quota).trans isLimited⟩)

theorem inStep_give {after : RequestView} {quota : Int}
    (limited : view.Limited) (nonneg : 0 ≤ quota) (paid : after.quota = view.quota + quota)
    (token : after.token = view.token.map (fun token =>
          if 0 < quota then token.increase quota else token)) :
    InStep view after := by
  refine @inStep_of_update view after (-quota) _ limited (by omega) token ?_
  intro token isLimited
  split
  · refine ⟨?_, isLimited⟩
    rw [token.increase_remain isLimited]
    omega
  · exact ⟨by omega, isLimited⟩

section

variable {row stored : BillingAdjustment} (limited : view.Limited)
  (included : row.tokenIncluded = true)
include limited included

theorem inStep_settle (sameDelta : row.tokenDelta = row.fundingDelta)
    (charge : settleCharge view.record row row.fundingDelta = row.fundingDelta) :
    InStep view { view.settle now row with row := some stored } := by
  refine @inStep_of_update view { view.settle now row with row := some stored }
      row.fundingDelta (Token.settle row.tokenIncluded row.tokenDelta)
      limited ?_ rfl ?_
  · change view.quota + -settleCharge _ _ _ = _
    rw [charge]
  · intro token isLimited
    rw [included, sameDelta]
    exact ⟨token.settle_remain isLimited row.fundingDelta,
        (token.settle_unlimited true row.fundingDelta).trans isLimited⟩

theorem inStep_returnCharge (positive : 0 < row.tokenID) :
    InStep view { view.returnCharge row with row := some stored } := by
  refine @inStep_of_update view { view.returnCharge row with row := some stored } (-row.chargeQuota)
      (Token.refund row.tokenIncluded row.tokenID row.chargeQuota)
      limited ?_ rfl ?_
  · change view.quota + row.chargeQuota = _
    omega
  · intro token isLimited
    rw [included]
    refine ⟨?_, (token.refund_unlimited true row.tokenID row.chargeQuota).trans isLimited⟩
    rw [token.refund_remain isLimited positive]
    omega

end

end Effects

inductive SessionCall where
  | preConsume (quota : Int) (trust : Bool)
  | reserve (targetQuota : Int)
  | settle (actualQuota : Int)
  | refund
  | rollback (actualQuota : Int)
  | acceptDelivered (actualQuota : Int)
  deriving DecidableEq, Repr

def SessionOutcome.discard {α : Type} (outcome : SessionOutcome α) : SessionOutcome Unit where
  result := outcome.result.map (fun _ => ())
  session := outcome.session
  node := outcome.node

def SessionCall.run (calendar : Calendar) (session : BillingSession) (node : Node)
    (now : Int) : SessionCall → SessionOutcome Unit
  | preConsume quota trust => session.preConsume calendar node now quota trust
  | reserve targetQuota => session.reserve node now targetQuota
  | settle actualQuota => session.settle node now actualQuota
  | refund => session.refund node now
  | rollback actualQuota => session.rollback node now actualQuota
  | acceptDelivered actualQuota => (session.acceptDeliveredSettlement node now actualQuota).discard

inductive SessionEvent where
  | call (now : Int) (call : SessionCall)
  | other (db : Database)

structure SessionState where
  session : BillingSession
  node : Node
  /-- What the calls so far have taken from the wallet. -/
  walletTaken : Int := 0
  /-- What the calls so far have taken from the remaining token quota. -/
  tokenTaken : Int := 0

namespace SessionState

variable (state : SessionState)

def view : RequestView := state.session.relayInfo.scope.view state.node.db

def step (calendar : Calendar) (state : SessionState) :
    SessionEvent → SessionState
  | .call now call =>
    let outcome := call.run calendar state.session state.node now
    let after := state.session.relayInfo.scope.view outcome.node.db
    { session := outcome.session
      node := outcome.node
      walletTaken := state.walletTaken + (state.view.quota - after.quota)
      tokenTaken := state.tokenTaken + (state.view.remain - after.remain) }
  | .other db => { state with node := { state.node with db := db } }

/-- Calls succeed, and the writes of other requests leave the reserve and the
ledger row alone and keep the token as a limited one. -/
def Succeeds (calendar : Calendar) (state : SessionState) : SessionEvent → Prop
  | .call now call => (call.run calendar state.session state.node now).result = .ok ()
  | .other db =>
    let after := state.session.relayInfo.scope.view db
    after.record = state.view.record ∧ after.row = state.view.row ∧ after.Limited

/-- A settlement of this state pays the same delta on both sides: it does not
start from a reserve that was refunded while the session still counts it. -/
def SettlesEvenly : Prop :=
  state.session.settled = true ∨ state.view.row ≠ none ∨
    state.session.preConsumedQuota = 0 ∨
    ∀ record, state.view.record = some record → record.status ≠ .refunded

/-- The calls that keep wallet and token in step: a pre-consume that takes
something opens the reserve and one that is trusted opens it before anything was
taken, settlements do not follow an early refund of counted quota, and only
sessions that went through the ledger are rolled back. -/
def Orderly : SessionEvent → Prop
  | .call _ (.preConsume quota trust) =>
    0 < quota →
      if trust then state.view.record = none → state.session.tokenConsumed = 0
      else state.view.record = none
  | .call _ (.settle _) => state.SettlesEvenly
  | .call _ (.acceptDelivered _) => state.SettlesEvenly
  | .call _ (.rollback actualQuota) =>
    actualQuota ≤ 0 ∨ state.session.refunded = true ∨ state.session.ledgerActive = true
  | _ => True

structure Initial : Prop where
  session :
    state.session =
      { relayInfo := state.session.relayInfo
        funding := .wallet {} }
  keyed : state.session.relayInfo.requestId ≠ ""
  token : 0 < state.session.relayInfo.tokenId
  real : state.session.relayInfo.isPlayground = false
  limited : state.view.Limited
  noRecord : state.view.record = none
  noRow : state.view.row = none
  walletTaken : state.walletTaken = 0
  tokenTaken : state.tokenTaken = 0

end SessionState

/-! ## The invariant -/

/-- The session and the reserve agree on what a refund has to return. -/
def HeldTogether (session : BillingSession) (view : RequestView)
    (funding : WalletFunding) : Prop :=
  match view.record with
  | none => funding.consumed = session.tokenConsumed
  | some record =>
    record.status = .reserved ∧ record.amount = session.tokenConsumed ∨
      record.status = .trusted ∧ session.tokenConsumed = 0

theorem HeldTogether.raise {session next : BillingSession} {view final : RequestView}
    {funding : WalletFunding} {now delta : Int} (held : HeldTogether session view funding)
    (record : final.record = view.record.map (·.raised now delta))
    (consumed : next.tokenConsumed = session.tokenConsumed + delta) :
    HeldTogether next final ⟨funding.consumed + delta⟩ := by
  unfold HeldTogether at held ⊢
  rw [record, consumed]
  cases found : view.record with
  | none =>
    rw [found] at held
    change funding.consumed + delta = _
    rw [held]
  | some stored =>
    rw [found] at held
    refine Or.inl ⟨rfl, ?_⟩
    change (if stored.status = .trusted then _ else _) = _
    rcases held with ⟨reserved, amount⟩ | ⟨trusted, untaken⟩
    · rw [if_neg (by rw [reserved]; decide), amount]
    · rw [if_pos trusted, untaken]
      omega

theorem HeldTogether.earlyCredit
    {session : BillingSession} {view : RequestView} {funding : WalletFunding}
    (held : HeldTogether session view funding) (consumed : 0 ≤ session.tokenConsumed) :
    earlyCredit view.record funding.consumed = session.tokenConsumed := by
  unfold HeldTogether at held
  cases found : view.record with
  | none =>
    rw [found] at held
    change max 0 funding.consumed = _
    omega
  | some record =>
    rw [found] at held
    change (if record.status = .reserved then _ else _) = _
    rcases held with ⟨reserved, amount⟩ | ⟨trusted, untaken⟩
    · rw [if_pos reserved]
      omega
    · rw [if_neg (by rw [trusted]; decide), untaken]

/-- Where the session stands: before its first settlement, settled, or rolled
back. -/
inductive SessionPhase (session : BillingSession) (view : RequestView)
    (funding : WalletFunding) : Prop
  | early
      (noRow : view.row = none)
      (unsettled : session.settled = false)
      (unused : session.ledgerActive = false)
      (held : session.refunded = false → HeldTogether session view funding)
  | settled
      {row : BillingAdjustment}
      (found : view.row = some row)
      (applied : row.status = .applied)
      (included : row.tokenIncluded = true)
      (done : session.settled = true)
      (ledger : session.ledgerActive = true)
  | rolledBack
      {row : BillingAdjustment}
      (found : view.row = some row)
      (status : row.status = .rolledBack)
      (unsettled : session.settled = false)
      (refunded : session.refunded = true)
      (ledger : session.ledgerActive = true)

/-- A step that leaves the ledger row and the flags of the session keeps its
phase, as long as an early session still agrees with its reserve. -/
theorem SessionPhase.transfer {session next : BillingSession} {view final : RequestView}
    {funding fundingNext : WalletFunding}
    (phase : SessionPhase session view funding) (row : final.row = view.row)
    (settled : next.settled = session.settled) (refunded : next.refunded = session.refunded)
    (ledger : next.ledgerActive = session.ledgerActive)
    (held : HeldTogether session view funding → HeldTogether next final fundingNext) :
    SessionPhase next final fundingNext := by
  cases phase with
  | early noRow unsettled unused together =>
    refine .early (row.trans noRow) (settled.trans unsettled) (ledger.trans unused) ?_
    rw [refunded]
    exact held ∘ together
  | settled found applied included done active =>
    exact .settled (row.trans found) applied included (settled.trans done) (ledger.trans active)
  | rolledBack found status unsettled returned active =>
    exact .rolledBack (row.trans found) status (settled.trans unsettled)
        (refunded.trans returned) (ledger.trans active)

namespace SessionState

variable (state : SessionState)

structure Lockstep (info : RelayInfo) : Prop where
  relayInfo : state.session.relayInfo = info
  limited : state.view.Limited
  reserve :
    ∀ record, state.view.record = some record → record.userID = info.userId ∧ record.collected = 0
  ownsKey : info.scope.OwnsKey state.node.db
  consumed : 0 ≤ state.session.tokenConsumed
  balanced : state.walletTaken = state.tokenTaken
  phase :
    ∃ funding, state.session.funding = .wallet funding ∧
      SessionPhase state.session state.view funding

theorem Initial.lockstep {state : SessionState} (initial : state.Initial) :
    state.Lockstep state.session.relayInfo where
  relayInfo := rfl
  limited := initial.limited
  reserve := by
    intro record found
    rw [initial.noRecord] at found
    cases found
  ownsKey := by
    intro row found
    rw [show (state.session.relayInfo.scope.view state.node.db).row = none
      from initial.noRow] at found
    cases found
  consumed := by
    rw [initial.session]
  balanced := by
    rw [initial.walletTaken, initial.tokenTaken]
  phase := by
    refine ⟨{}, by rw [initial.session], ?_⟩
    refine .early initial.noRow ?_ ?_ ?_
    · rw [initial.session]
    · rw [initial.session]
    · intro _
      rw [HeldTogether, initial.noRecord, initial.session]

section Steps

variable {state : SessionState} {info : RelayInfo} {calendar : Calendar}
variable {now : Int} {next : BillingSession} {after : Node}

def called (state : SessionState) (next : BillingSession) (after : Node) :
    SessionState :=
  let view := state.session.relayInfo.scope.view after.db
  { session := next
    node := after
    walletTaken := state.walletTaken + (state.view.quota - view.quota)
    tokenTaken := state.tokenTaken + (state.view.remain - view.remain) }

theorem step_call {call : SessionCall} {result : Except BillingError Unit}
    (ran : call.run calendar state.session state.node now = ⟨result, next, after⟩) :
    state.step calendar (.call now call) = state.called next after := by
  rw [step, ran]
  rfl

theorem called_self : state.called state.session state.node = state := by
  unfold called
  simp only [view, Int.sub_self, Int.add_zero]

theorem Lockstep.called {final : RequestView} (lockstep : state.Lockstep info)
    (viewEq : info.scope.view after.db = final)
    (sameInfo : next.relayInfo = info) (inStep : InStep state.view final)
    (reserve :
      ∀ record, final.record = some record → record.userID = info.userId ∧ record.collected = 0)
    (carries : ∀ row, final.row = some row → info.scope.Carries row)
    (consumed : 0 ≤ next.tokenConsumed)
    (phase : ∃ funding, next.funding = .wallet funding ∧ SessionPhase next final funding) :
    (state.called next after).Lockstep info := by
  subst viewEq
  have viewEq : (state.called next after).view = info.scope.view after.db := by
    rw [← sameInfo]
    rfl
  refine ⟨sameInfo, ?_, ?_, carries, consumed, ?_, ?_⟩
  · rw [viewEq]
    exact inStep.limited
  · rw [viewEq]
    exact reserve
  · have taken := inStep.taken
    have balanced := lockstep.balanced
    rw [← lockstep.relayInfo] at taken
    change state.walletTaken + (state.view.quota - _) = state.tokenTaken + (state.view.remain - _)
    omega
  · rw [viewEq]
    exact phase

theorem Lockstep.settleCharge
    (lockstep : state.Lockstep info) {row : BillingAdjustment} {delta : Int}
    (full : ∀ record, state.view.record = some record →
        record.status = .refunded → row.status = .rolledBack ∨ row.chargeQuota = delta) :
    settleCharge state.view.record row delta = delta := by
  unfold NewApi.Billing.settleCharge settleAccount
  cases found : state.view.record with
  | none => rfl
  | some record =>
    have collected := (lockstep.reserve record found).2
    cases status : record.status with
    | reserved => simp [status, collected]
    | trusted => simp [status, collected]
    | settled => simp [status, collected]
    | refunded =>
      simp only [status]
      split
      · rfl
      · rename_i active
        rcases full record found status with rolledBack | equal
        · exact absurd rolledBack active
        · exact equal

structure Identified (info : RelayInfo) : Prop where
  keyed : info.requestId ≠ ""
  token : 0 < info.tokenId
  real : info.isPlayground = false

theorem Lockstep.preConsume {quota : Int} {trust : Bool}
    (identified : Identified info) (lockstep : state.Lockstep info)
    (orderly : state.Orderly (.call now (.preConsume quota trust)))
    (ran : state.session.preConsume calendar state.node now quota trust = ⟨.ok (), next, after⟩) :
    (state.called next after).Lockstep info := by
  change 0 < quota → _ at orderly
  obtain ⟨funding, wallet, phase⟩ := lockstep.phase
  obtain rfl := lockstep.relayInfo
  have absent : 0 < quota → trust = false → state.view.record = none := by
    intro positive untrusted
    have opens := orderly positive
    rwa [if_neg (by simp [untrusted])] at opens
  obtain ⟨_, shape⟩ := preConsume_wallet wallet identified.keyed absent ran
  generalize viewEq : state.session.relayInfo.scope.view after.db = final at shape
  cases shape with
  | taken untrusted positive =>
    refine lockstep.called viewEq rfl (inStep_take lockstep.limited identified.real rfl rfl) ?_
        lockstep.ownsKey (Int.le_of_lt positive) ⟨⟨quota⟩, rfl, ?_⟩
    · intro record found
      cases found
      exact ⟨rfl, rfl⟩
    · exact phase.transfer rfl rfl rfl rfl (fun _ => Or.inl ⟨rfl, rfl⟩)
  | trusted trusted positive absent =>
    have untaken : state.session.tokenConsumed = 0 := by
      have opens := orderly positive
      rw [if_pos trusted] at opens
      exact opens absent
    refine lockstep.called viewEq rfl ⟨?_, lockstep.limited⟩ ?_
        lockstep.ownsKey lockstep.consumed ⟨funding, wallet, ?_⟩
    · change _ - state.view.quota = _ - state.view.remain
      omega
    · intro record found
      cases found
      exact ⟨rfl, rfl⟩
    · exact phase.transfer rfl rfl rfl rfl (fun _ => Or.inr ⟨rfl, untaken⟩)
  | @renewed record trusted found status =>
    refine lockstep.called viewEq rfl ⟨?_, lockstep.limited⟩ ?_
        lockstep.ownsKey lockstep.consumed ⟨funding, wallet, ?_⟩
    · change _ - state.view.quota = _ - state.view.remain
      omega
    · rintro _ ⟨rfl⟩
      exact lockstep.reserve record found
    · refine phase.transfer rfl rfl rfl rfl (fun held => ?_)
      have stored : state.view.record = some record := found
      rw [HeldTogether, stored] at held
      exact held
  | nothing nothing =>
    exact lockstep.called viewEq rfl (InStep.refl lockstep.limited)
        lockstep.reserve lockstep.ownsKey lockstep.consumed
        ⟨funding, wallet, phase.transfer rfl rfl rfl rfl id⟩

theorem Lockstep.idle (lockstep : state.Lockstep info)
    (sameSession : next = state.session) (sameNode : after = state.node) :
    (state.called next after).Lockstep info := by
  rw [sameSession, sameNode, called_self]
  exact lockstep

theorem Lockstep.reserveCall {target : Int}
    (identified : Identified info) (lockstep : state.Lockstep info)
    (ran : state.session.reserve state.node now target = ⟨.ok (), next, after⟩) :
    (state.called next after).Lockstep info := by
  obtain ⟨funding, wallet, phase⟩ := lockstep.phase
  obtain rfl := lockstep.relayInfo
  obtain ⟨_, sameSession, sameNode⟩ | ⟨hungry, rfl, _, opens, viewEq⟩ :=
    reserve_wallet wallet (fun empty => absurd empty identified.keyed) ran
  · exact lockstep.idle sameSession sameNode
  · have positive : 0 < target - state.session.preConsumedQuota := by
      unfold Sated at hungry
      push Not at hungry
      omega
    have consumed := lockstep.consumed
    refine lockstep.called viewEq rfl (inStep_take lockstep.limited identified.real rfl rfl) ?_
        lockstep.ownsKey ?_ ⟨_, rfl, ?_⟩
    · intro record found
      obtain ⟨old, stored, rfl⟩ := Option.map_eq_some_iff.mp found
      exact lockstep.reserve old stored
    · change 0 ≤ state.session.tokenConsumed + _
      omega
    · exact phase.transfer rfl rfl rfl rfl (fun held => held.raise rfl rfl)

theorem Lockstep.refundCall (identified : Identified info) (lockstep : state.Lockstep info)
    (ran : state.session.refund state.node now = ⟨.ok (), next, after⟩) :
    (state.called next after).Lockstep info := by
  obtain ⟨funding, wallet, phase⟩ := lockstep.phase
  obtain rfl := lockstep.relayInfo
  by_cases needs : state.session.needsRefund = true
  · obtain ⟨unsettled, unrefunded, _⟩ := needsRefund_active needs
    -- Only an early session still has something to refund.
    obtain ⟨noRow, unused, held⟩ : state.view.row = none ∧ state.session.ledgerActive = false ∧
          HeldTogether state.session state.view funding := by
      cases phase with
      | early noRow _ unused held => exact ⟨noRow, unused, held unrefunded⟩
      | settled _ _ _ done =>
        rw [unsettled] at done
        cases done
      | rolledBack _ _ _ refunded =>
        rw [unrefunded] at refunded
        cases refunded
    obtain ⟨idle, _⟩ | ⟨_, ⟨left, rfl⟩, viewEq⟩ :=
      refund_wallet wallet identified.keyed identified.real
        unused (fun record found => (lockstep.reserve record found).1) ran
    · rw [needs] at idle
      cases idle
    · rw [show
        earlyCredit (state.session.relayInfo.scope.view state.node.db).record
          funding.consumed = state.session.tokenConsumed from
          held.earlyCredit lockstep.consumed] at viewEq
      refine lockstep.called viewEq rfl (inStep_give lockstep.limited lockstep.consumed rfl rfl) ?_
          lockstep.ownsKey lockstep.consumed
          ⟨left, rfl, .early noRow unsettled unused ?_⟩
      · intro record found
        obtain ⟨old, stored, rfl⟩ := Option.map_eq_some_iff.mp found
        rw [returned]
        split
        · exact lockstep.reserve old stored
        · exact lockstep.reserve old stored
      · intro impossible
        cases impossible
  · unfold refund at ran
    simp only [Bool.not_eq_true] at needs
    rw [needs] at ran
    simp only [Bool.not_false, Bool.or_true, if_true] at ran
    cases ran
    exact lockstep.idle rfl rfl

theorem tokenIncluded_of_identified
    {session : BillingSession} (identified : Identified session.relayInfo) :
    session.tokenIncluded = true := by
  simp [tokenIncluded, identified.token, identified.real]

theorem Lockstep.settledRow {row : BillingAdjustment} {funding : WalletFunding}
    (lockstep : state.Lockstep info)
    (viewEq :
      info.scope.view after.db = { state.view.settle now row with row := some (row.settled now) })
    (carries : info.scope.Carries row) (included : row.tokenIncluded = true)
    (sameDelta : row.tokenDelta = row.fundingDelta)
    (charge : NewApi.Billing.settleCharge state.view.record row row.fundingDelta = row.fundingDelta)
    (sameInfo : next.relayInfo = info) (wallet : next.funding = .wallet funding)
    (consumed : next.tokenConsumed = state.session.tokenConsumed)
    (done : next.settled = true) (ledger : next.ledgerActive = true) :
    (state.called next after).Lockstep info := by
  refine lockstep.called viewEq sameInfo
      (inStep_settle lockstep.limited included sameDelta charge) ?_ ?_ ?_
      ⟨funding, wallet, .settled rfl rfl included done ledger⟩
  · intro record found
    obtain ⟨old, stored, rfl⟩ := Option.map_eq_some_iff.mp found
    rw [closed]
    split
    · exact lockstep.reserve old stored
    · exact lockstep.reserve old stored
  · intro stored found
    cases found
    exact carries.settled now
  · rw [consumed]
    exact lockstep.consumed

variable {actual : Int}

section

variable (identified : Identified info) (lockstep : state.Lockstep info)
include identified lockstep

theorem Lockstep.settledEarly {funding : WalletFunding}
    (wallet : state.session.funding = .wallet funding)
    (evenly : state.SettlesEvenly) (noRow : state.view.row = none)
    (unsettled : state.session.settled = false)
    (viewEq : info.scope.view after.db =
        { state.view.settle now
            ((state.session.billingAdjustmentRequest actual).pendingRow now 0) with
          row :=
            some (((state.session.billingAdjustmentRequest actual).pendingRow now 0).settled now) })
    (sameInfo : next.relayInfo = info)
    (sameFunding : next.funding = state.session.funding)
    (consumed : next.tokenConsumed = state.session.tokenConsumed)
    (done : next.settled = true) (ledger : next.ledgerActive = true) :
    (state.called next after).Lockstep info := by
  obtain rfl := lockstep.relayInfo
  have included := tokenIncluded_of_identified identified
  have sends := sends_billingAdjustmentRequest wallet identified.keyed actual
  refine lockstep.settledRow viewEq (sends.carries_pendingRow now 0) included
      (if_pos included) ?_ sameInfo (sameFunding.trans wallet) consumed done
      ledger
  refine lockstep.settleCharge ?_
  intro record found refunded
  refine Or.inr ?_
  rcases evenly with settled | hasRow | nothing | fine
  · rw [unsettled] at settled
    cases settled
  · exact absurd noRow hasRow
  · change actual = actual - state.session.preConsumedQuota
    omega
  · exact absurd refunded (fine record found)

theorem Lockstep.settleCall (orderly : state.Orderly (.call now (.settle actual)))
    (ran : state.session.settle state.node now actual = ⟨.ok (), next, after⟩) :
    (state.called next after).Lockstep info := by
  obtain ⟨funding, wallet, phase⟩ := lockstep.phase
  obtain rfl := lockstep.relayInfo
  obtain ⟨_, sameSession, sameNode⟩ | ⟨unsettled, rfl, _, progress, row, located, applied⟩ :=
    settle_wallet wallet identified.keyed lockstep.ownsKey ran
  · exact lockstep.idle sameSession sameNode
  · generalize viewEq : state.session.relayInfo.scope.view after.db = final at progress located
    cases phase with
    | early noRow _ _ _ =>
      change (state.session.relayInfo.scope.view state.node.db).row = none at noRow
      cases progress with
      | untouched =>
        rw [noRow] at located
        cases located
      | staged =>
        cases located
        cases applied
      | settled settles =>
        rcases settles with found | ⟨_, rfl⟩
        · rw [noRow] at found
          cases found
        · exact lockstep.settledEarly identified wallet orderly noRow
              unsettled viewEq rfl rfl rfl rfl rfl
    | settled _ _ _ done =>
      rw [unsettled] at done
      cases done
    | rolledBack found status =>
      change (state.session.relayInfo.scope.view state.node.db).row = some _ at found
      cases progress with
      | untouched =>
        rw [found] at located
        cases located
        rw [status] at applied
        cases applied
      | staged absent =>
        rw [found] at absent
        cases absent
      | settled settles _ pending =>
        rcases settles with same | ⟨absent, _⟩
        · rw [found] at same
          cases same
          rw [status] at pending
          cases pending
        · rw [found] at absent
          cases absent

theorem Lockstep.acceptCall {result : Int × Bool}
    (orderly : state.Orderly (.call now (.acceptDelivered actual)))
    (ran :
      state.session.acceptDeliveredSettlement state.node now actual = ⟨.ok result, next, after⟩) :
    (state.called next after).Lockstep info := by
  obtain ⟨funding, wallet, phase⟩ := lockstep.phase
  obtain rfl := lockstep.relayInfo
  obtain ⟨_, sameSession, sameNode⟩ | ⟨unsettled, rfl, _, delivered⟩ :=
    acceptDeliveredSettlement_wallet wallet identified.keyed lockstep.ownsKey ran
  · exact lockstep.idle sameSession sameNode
  · generalize viewEq : state.session.relayInfo.scope.view after.db = final at delivered
    cases phase with
    | early noRow _ _ _ =>
      change (state.session.relayInfo.scope.view state.node.db).row = none at noRow
      cases delivered with
      | kept found =>
        rw [noRow] at found
        cases found
      | settled settles =>
        rcases settles with found | ⟨_, rfl⟩
        · rw [noRow] at found
          cases found
        · exact lockstep.settledEarly identified wallet orderly noRow
              unsettled viewEq rfl rfl rfl rfl rfl
      | recharged found =>
        rw [noRow] at found
        cases found
    | settled _ _ _ done =>
      rw [unsettled] at done
      cases done
    | rolledBack found status =>
      change (state.session.relayInfo.scope.view state.node.db).row = some _ at found
      cases delivered with
      | kept same applied =>
        rw [found] at same
        cases same
        rw [status] at applied
        cases applied
      | settled settles _ pending =>
        rcases settles with same | ⟨absent, _⟩
        · rw [found] at same
          cases same
          rw [status] at pending
          cases pending
        · rw [found] at absent
          cases absent
      | recharged same rolledBack =>
        have included := tokenIncluded_of_identified identified
        have sends := sends_billingAdjustmentRequest wallet identified.keyed actual
        exact
          lockstep.settledRow viewEq (sends.carries_recharged (lockstep.ownsKey _ same)) included
            (if_pos included)
            (lockstep.settleCharge (fun _ _ _ => Or.inl rolledBack))
            rfl wallet rfl rfl rfl

theorem Lockstep.rollbackCall (orderly : state.Orderly (.call now (.rollback actual)))
    (ran : state.session.rollback state.node now actual = ⟨.ok (), next, after⟩) :
    (state.called next after).Lockstep info := by
  obtain ⟨funding, wallet, phase⟩ := lockstep.phase
  obtain rfl := lockstep.relayInfo
  by_cases idle : actual ≤ 0 ∨ state.session.refunded = true
  · unfold rollback at ran
    rw [if_pos idle] at ran
    cases ran
    exact lockstep.idle rfl rfl
  · push Not at idle
    have ledger : state.session.ledgerActive = true := by
      rcases orderly with nothing | refunded | ledger
      · omega
      · exact absurd refunded idle.2
      · exact ledger
    cases phase with
    | early _ _ unused =>
      rw [ledger] at unused
      cases unused
    | settled found applied included =>
      obtain ⟨nothing | refunded, _⟩ | ⟨_, rfl, viewEq⟩ :=
        rollback_applied wallet identified.keyed
          lockstep.ownsKey ledger found applied ran
      · omega
      · exact absurd refunded idle.2
      · have carries := lockstep.ownsKey _ found
        have positive := identified.token
        refine lockstep.called viewEq rfl
            (inStep_returnCharge lockstep.limited included (by rw [carries.token]; exact positive))
            lockstep.reserve ?_ (Int.le_refl 0)
            ⟨funding, wallet, .rolledBack rfl rfl rfl rfl ledger⟩
        intro stored same
        cases same
        exact carries.refunded now _
    | rolledBack _ _ _ refunded => exact absurd refunded idle.2

end

theorem Lockstep.others {db : Database} (lockstep : state.Lockstep info)
    (succeeds : Succeeds calendar state (.other db)) :
    (step calendar state (.other db)).Lockstep info := by
  obtain ⟨record, row, limited⟩ := succeeds
  obtain ⟨funding, wallet, phase⟩ := lockstep.phase
  obtain rfl := lockstep.relayInfo
  refine ⟨rfl, limited, ?_, ?_, lockstep.consumed, lockstep.balanced, funding,
      wallet, phase.transfer row rfl rfl rfl ?_⟩
  · intro stored found
    exact lockstep.reserve stored (record.symm.trans found)
  · intro stored found
    exact lockstep.ownsKey stored (row.symm.trans found)
  · intro held
    unfold HeldTogether at held ⊢
    rw [show (step calendar state (.other db)).view.record = state.view.record from record]
    exact held

/-- One call of an orderly session keeps it in step with the ledger. -/
theorem Lockstep.step {event : SessionEvent}
    (identified : Identified info) (lockstep : state.Lockstep info)
    (succeeds : Succeeds calendar state event) (orderly : state.Orderly event) :
    (step calendar state event).Lockstep info := by
  cases event with
  | other db => exact lockstep.others succeeds
  | call now call =>
    rcases ran : call.run calendar state.session state.node now with
      ⟨result, next, after⟩
    rw [step_call ran]
    change (call.run calendar state.session state.node now).result = .ok () at succeeds
    rw [ran] at succeeds
    obtain rfl : result = .ok () := succeeds
    cases call with
    | preConsume quota trust => exact lockstep.preConsume identified orderly ran
    | reserve target => exact lockstep.reserveCall identified ran
    | settle actual => exact lockstep.settleCall identified orderly ran
    | refund => exact lockstep.refundCall identified ran
    | rollback actual => exact lockstep.rollbackCall identified orderly ran
    | acceptDelivered actual =>
      rcases accepted : state.session.acceptDeliveredSettlement state.node now actual with
        ⟨value, acceptedNext, acceptedAfter⟩
      rw [SessionCall.run, accepted] at ran
      cases value with
      | error err => cases ran
      | ok value =>
        cases ran
        exact lockstep.acceptCall identified orderly accepted

end Steps

/-- In every run of successful and orderly calls, with other requests in
between, the session has taken the same amount from the wallet and from the
token. -/
theorem session_in_lockstep (calendar : Calendar) (start : SessionState)
    (events : List SessionEvent) (initial : start.Initial)
    (run :
      GuardedRun (step calendar)
        (fun state event => Succeeds calendar state event ∧ state.Orderly event)
        start events) :
    (execute (step calendar) start events).walletTaken =
      (execute (step calendar) start events).tokenTaken := by
  have identified : Identified start.session.relayInfo :=
    ⟨initial.keyed, initial.token, initial.real⟩
  have lockstep :=
    @GuardedRun.invariant _ _ _ _ (fun state => state.Lockstep start.session.relayInfo)
      (fun state event guard lockstep => lockstep.step identified guard.1 guard.2)
      events start run initial.lockstep
  exact lockstep.balanced

def sample : SessionState where
  session := .sample
  node := ⟨Database.sample, fun _ => none, [], [], []⟩

theorem sample_initial : sample.Initial where
  session := rfl
  keyed := by decide
  token := by decide
  real := rfl
  limited := ⟨⟨1, 100, 0, false⟩, rfl, rfl⟩
  noRecord := rfl
  noRow := rfl
  walletTaken := rfl
  tokenTaken := rfl

/-- Ten are pre-consumed and raised to fifteen, seven are charged, and the
charge is rolled back and taken again for the delivered response. -/
theorem session_in_lockstep_sample :
    let events : List SessionEvent :=
      [.call 1 (.preConsume 10 false), .call 2 (.reserve 15),
        .call 3 (.settle 7), .call 4 (.rollback 7),
        .call 5 (.acceptDelivered 8)]
    (execute (step .sample) sample events).walletTaken = 8 ∧
      (execute (step .sample) sample events).walletTaken =
        (execute (step .sample) sample events).tokenTaken := by
  intro events
  refine ⟨by decide, session_in_lockstep .sample sample events sample_initial ?_⟩
  have reserved :
      ∀ record,
        (execute (step .sample) sample (events.take 2)).view.record = some record →
          record.status ≠ .refunded := by
    intro record found
    cases found
    decide
  exact ⟨⟨rfl, fun _ => rfl⟩, ⟨rfl, trivial⟩,
      ⟨rfl, Or.inr (Or.inr (Or.inr reserved))⟩,
      ⟨rfl, Or.inr (Or.inr rfl)⟩,
      ⟨rfl, Or.inr (Or.inl (by decide))⟩, trivial⟩

/-- The refund returns the ten, but the session goes on counting them: the
settlement of seven takes seven from the wallet and gives three to the token. -/
theorem session_out_of_step_after_refund :
    let events : List SessionEvent :=
      [.call 1 (.preConsume 10 false), .call 2 .refund, .call 3 (.settle 7)]
    sample.Initial ∧ GuardedRun (step .sample) (Succeeds .sample) sample events ∧
      (execute (step .sample) sample events).view.row.map BillingAdjustment.status = some .applied ∧
      (execute (step .sample) sample events).walletTaken = 7 ∧
      (execute (step .sample) sample events).tokenTaken = -3 := by
  refine ⟨sample_initial, ?_, ?_, ?_, ?_⟩
  · exact ⟨rfl, rfl, rfl, trivial⟩
  · decide
  · decide
  · decide

end SessionState

end NewApi.Billing
