import NewApi.Billing.SessionSteps
import NewApi.Billing.SubscriptionUsage

/-!
# What a request holds before it settles

A request takes quota from its token and from its funding source, by its
pre-consume and by supplemental reserves.  The invariants say where the hold
stands in the tables, and how much of it the reserve row remembers.
-/

namespace NewApi.Billing

open Transactions BillingSession RequestView WalletFunding RelayInfo KeyedTable FundingSource

namespace BillingSession

def reserveEach :
    BillingSession → Node → List (Int × Int) → SessionOutcome Unit
  | session, node, [] => ⟨.ok (), session, node⟩
  | session, node, (now, target) :: rest =>
    match session.reserve node now target with
    | ⟨.error err, session, node⟩ => ⟨.error err, session, node⟩
    | ⟨.ok (), session, node⟩ => session.reserveEach node rest

def effectiveQuota (session : BillingSession) (quota : Int) (trust : Bool) : Int :=
  if session.shouldTrust trust then 0 else quota

variable {session held : BillingSession} {node heldNode : Node}

theorem reserveEach_cons {now target : Int} {rest : List (Int × Int)}
    (done : session.reserveEach node ((now, target) :: rest) = ⟨.ok (), held, heldNode⟩) :
    ∃ next after,
      session.reserve node now target = ⟨.ok (), next, after⟩ ∧
        next.reserveEach after rest = ⟨.ok (), held, heldNode⟩ := by
  unfold reserveEach at done
  split at done
  · cases done
  rename_i next after reserved
  exact ⟨next, after, reserved, done⟩

theorem reserveEach_invariant {holds : BillingSession → Node → Prop}
    (kept :
      ∀ {session node now target next after},
        session.reserve node now target = ⟨.ok (), next, after⟩ →
          holds session node → holds next after) :
    ∀ {targets : List (Int × Int)} {session : BillingSession} {node : Node},
      session.reserveEach node targets = ⟨.ok (), held, heldNode⟩ →
        holds session node → holds held heldNode
  | [], _, _, done, before => by
      cases done
      exact before
  | (_, _) :: _, _, _, done, before => by
      obtain ⟨next, after, reserved, rest⟩ := reserveEach_cons done
      exact reserveEach_invariant kept rest (kept reserved before)

/-- The counters of an open session grow together, and they stay where they
are exactly when no target is above them. -/
theorem reserveEach_counters :
    ∀ {targets : List (Int × Int)} {session : BillingSession} {node : Node},
      session.settled = false → session.refunded = false →
        session.reserveEach node targets = ⟨.ok (), held, heldNode⟩ →
          session.preConsumedQuota ≤ held.preConsumedQuota ∧
            (held.preConsumedQuota = session.preConsumedQuota ↔
              ∀ target ∈ targets, target.2 ≤ session.preConsumedQuota) ∧
            held.tokenConsumed - session.tokenConsumed =
              held.preConsumedQuota - session.preConsumedQuota ∧
            held.extraReserved - session.extraReserved =
              held.preConsumedQuota - session.preConsumedQuota
  | [], session, _, _, _, done => by
      cases done
      simp
  | (now, target) :: rest, session, node, unsettled, unrefunded, done => by
      obtain ⟨next, after, reserved, restDone⟩ := reserveEach_cons done
      obtain ⟨sated, rfl, rfl⟩ | ⟨hungry, _, _, _, _, _, rfl, _⟩ := reserve_ok reserved
      · have below : target ≤ next.preConsumedQuota := by
          rcases sated with settled | refunded | below
          · rw [unsettled] at settled
            cases settled
          · rw [unrefunded] at refunded
            cases refunded
          · exact below
        obtain ⟨grows, same, tokens, extra⟩ := reserveEach_counters unsettled unrefunded restDone
        refine ⟨grows, same.trans ?_, tokens, extra⟩
        simp only [List.forall_mem_cons, below, true_and]
      · have above : session.preConsumedQuota < target := by
          by_contra below
          exact hungry (Or.inr (Or.inr (Int.not_lt.mp below)))
        obtain ⟨grows, _, tokens, extra⟩ :=
          reserveEach_counters (by exact unsettled) (by exact unrefunded) restDone
        dsimp only at grows tokens extra
        refine ⟨by omega, ⟨fun same => by omega, fun all => ?_⟩, by omega, by omega⟩
        have below := all (now, target) List.mem_cons_self
        dsimp only at below
        omega

end BillingSession

structure TokenHeld (info : RelayInfo) (start final : KeyedTable Token.id) (held : Int) :
    Prop where
  nonnegative : 0 ≤ held
  untouched :
    info.isPlayground = true ∨ held = 0 → final.lookup info.tokenId = start.lookup info.tokenId
  taken :
    info.isPlayground = false → 0 < held →
      ∃ before after,
        start.lookup info.tokenId = some before ∧
          final.lookup info.tokenId = some after ∧
          after.usedQuota = before.usedQuota + held

def tokenQuotas (tokens : KeyedTable Token.id) (id : Int) : Option (Int × Int) :=
  (tokens.lookup id).map (fun token => (token.remainQuota, token.usedQuota))

section TokenHolds

variable {info : RelayInfo} {start final : KeyedTable Token.id} {held : Int}

theorem TokenHeld.refl (info : RelayInfo) (tokens : KeyedTable Token.id) :
    TokenHeld info tokens tokens 0 where
  nonnegative := Int.le_refl 0
  untouched := fun _ => rfl
  taken := by
    intro _ impossible
    omega

theorem RelayInfo.takeToken_playground
    (playground : info.isPlayground = true) (quota : Int) (token : Token) :
    info.takeToken quota token = token := by
  rw [takeToken, if_pos playground]

theorem RelayInfo.takeToken_used (real : info.isPlayground = false) (quota : Int) (token : Token) :
    (info.takeToken quota token).usedQuota = token.usedQuota + quota := by
  rw [takeToken, real, if_neg Bool.false_ne_true]
  split <;> rfl

theorem TokenHeld.take {db paid : Database} {delta : Int}
    (before : TokenHeld info start db.tokens held) (positive : 0 < delta)
    (charged : TokenMoved db paid info.tokenId (info.takeToken delta) ∧
        (info.isPlayground = false → ∃ token, db.tokens.lookup info.tokenId = some token)) :
    TokenHeld info start paid.tokens (held + delta) := by
  obtain ⟨⟨tokens, rfl, stored⟩, present⟩ := charged
  have nonnegative := before.nonnegative
  refine ⟨by omega, ?_, ?_⟩
  · rintro (playground | zero)
    · have same := before.untouched (Or.inl playground)
      rw [stored, same]
      cases start.lookup info.tokenId with
      | none => rfl
      | some token => rw [Option.map_some, takeToken_playground playground]
    · omega
  · intro real _
    obtain ⟨token, found⟩ := present real
    rw [found, Option.map_some] at stored
    by_cases zero : held = 0
    · refine ⟨token, info.takeToken delta token, ?_, stored, ?_⟩
      · rw [← before.untouched (Or.inr zero)]
        exact found
      · rw [takeToken_used real]
        omega
    · obtain ⟨first, last, started, reached, used⟩ := before.taken real (by omega)
      rw [found] at reached
      cases reached
      refine ⟨first, info.takeToken delta token, started, stored, ?_⟩
      rw [takeToken_used real, used]
      omega

theorem TokenHeld.quotas_eq_iff (hold : TokenHeld info start final held) :
    tokenQuotas final info.tokenId = tokenQuotas start info.tokenId ↔
      info.isPlayground = true ∨ held = 0 := by
  constructor
  · intro same
    by_contra neither
    push Not at neither
    obtain ⟨before, after, started, reached, used⟩ :=
      hold.taken (Bool.eq_false_iff.mpr neither.1)
        (by
          have nonnegative := hold.nonnegative
          omega)
    simp only [tokenQuotas, started, reached, Option.map_some,
      Option.some.injEq, Prod.mk.injEq] at same
    omega
  · intro either
    rw [tokenQuotas, hold.untouched either, tokenQuotas]

end TokenHolds

/-! ## The wallet -/

/-- A reserve row that remembers the whole hold: a debited row its amount, a
trusted one that nothing was taken. -/
structure ReserveHolds (info : RelayInfo) (held : Int) (record : WalletPreConsumeRecord) :
    Prop where
  owner : record.userID = info.userId
  undelivered : record.clientDelivered = false
  amount : record.status = .reserved ∧ record.amount = held ∨ record.status = .trusted ∧ held = 0

/-- A wallet session that has started from the tables of `start`.  The request
is `tracked` when it has a reserve row. -/
structure WalletHold (info : RelayInfo) (start : Database) (tracked : Prop)
    (session : BillingSession) (db : Database) : Prop where
  relayInfo : session.relayInfo = info
  wallet : ∃ funding, session.funding = .wallet funding
  token : TokenHeld info start.tokens db.tokens session.tokenConsumed
  balance : quotaIn db.users info.userId = quotaIn start.users info.userId - session.tokenConsumed
  account : 0 < session.tokenConsumed → (db.users.lookup info.userId).isSome = true
  untracked : ¬tracked → db.walletPreConsumes.lookup info.requestId = none
  reserve :
    tracked →
      ∃ record,
        db.walletPreConsumes.lookup info.requestId = some record ∧
          ReserveHolds info session.tokenConsumed record
  tables :
    ∃ users tokens records,
      db =
        { start with
          users := users
          tokens := tokens
          walletPreConsumes := records }

section WalletHolds

variable {info : RelayInfo} {start db after : Database} {tracked : Prop}
variable {session next : BillingSession} {now : Int}

theorem ReserveHolds.raised {held delta : Int} {record : WalletPreConsumeRecord}
    (holds : ReserveHolds info held record) (now : Int) :
    ReserveHolds info (held + delta) (record.raised now delta) where
  owner := holds.owner
  undelivered := holds.undelivered
  amount := by
    refine Or.inl ⟨rfl, ?_⟩
    unfold WalletPreConsumeRecord.raised
    rcases holds.amount with ⟨reserved, amount⟩ | ⟨trusted, nothing⟩
    · rw [reserved, if_neg (by decide), amount]
    · rw [if_pos trusted, nothing, Int.zero_add]

theorem WalletHold.raise {target : Int} {node afterNode : Node}
    (keyed : tracked → info.requestId ≠ "")
    (called : session.reserve node now target = ⟨.ok (), next, afterNode⟩)
    (before : WalletHold info start tracked session node.db) :
    WalletHold info start tracked next afterNode.db := by
  obtain ⟨rfl, ⟨funding, wallet⟩, token, balance, account, untracked, reserve,
    ⟨users, tokens, records, tables⟩⟩ := before
  obtain ⟨_, rfl, rfl⟩ | ⟨hungry, paid, fundingNext, reserved, charged, funded,
      rfl, rfl⟩ := reserve_ok called
  · exact ⟨rfl, ⟨funding, wallet⟩, token, balance, account, untracked, reserve,
        users, tokens, records, tables⟩
  · have positive : 0 < target - session.preConsumedQuota := by
      by_contra nothing
      exact hungry (Or.inr (Or.inr (by omega)))
    have tokenPaid := reserveToken_spec positive charged
    have moved :=
      (@RequestScope.view_tokenMoved session.relayInfo.scope node.db paid _ tokenPaid.1).1
    unfold reserveFunding at funded
    rw [wallet] at funded
    obtain ⟨⟨walletNext, walletDb⟩, walletDone, mapped⟩ := map_eq_ok_iff.mp funded
    cases mapped
    have unkeyed :
        session.relayInfo.requestId = "" → (session.relayInfo.scope.view paid).record = none := by
      intro empty
      rw [moved]
      exact untracked (fun isTracked => keyed isTracked empty)
    obtain ⟨_, _, _, view⟩ := reserveWalletFunding_spec positive unkeyed walletDone
    obtain ⟨only, present⟩ := reserveWalletFunding_walletOnly positive walletDone
    have quota := congrArg quota view
    have record := congrArg record view
    simp only [RequestScope.view, scope] at quota record
    have tokenAfter := token.take positive tokenPaid
    obtain ⟨paidTokens, rfl, _⟩ := tokenPaid.1
    obtain ⟨finalUsers, finalRecords, rfl, same⟩ := only
    refine
      { relayInfo := rfl
        wallet := ⟨walletNext, rfl⟩
        token := tokenAfter
        balance := ?_
        account := ?_
        untracked := ?_
        reserve := ?_
        tables := ⟨finalUsers, paidTokens, finalRecords, by rw [tables]⟩ }
    · dsimp only at quota ⊢
      omega
    · intro _
      exact (same session.relayInfo.userId).trans present
    · intro isUntracked
      rw [record, untracked isUntracked]
      rfl
    · intro isTracked
      obtain ⟨stored, found, holds⟩ := reserve isTracked
      rw [found, Option.map_some] at record
      exact ⟨_, record, holds.raised now⟩

variable {funding : WalletFunding}

theorem WalletFunding.preConsume_taken {fundingNext : WalletFunding} {amount : Int}
    (positive : 0 < amount) (absent : db.walletPreConsumes.lookup info.requestId = none)
    (done : funding.preConsume info db now amount = .ok (fundingNext, after)) :
    WalletOnly db after ∧ (db.users.lookup info.userId).isSome = true ∧
      quotaIn after.users info.userId = quotaIn db.users info.userId + -amount ∧
      after.walletPreConsumes.lookup info.requestId =
        if info.requestId = "" then none
        else
          some (openedWalletPreConsume now info.requestId info.userId amount .reserved) := by
  by_cases keyed : info.requestId = ""
  · unfold preConsume at done
    rw [if_neg (by omega), if_neg (not_not.mpr keyed)] at done
    obtain ⟨⟨reserved, debited⟩, tried, done⟩ := bind_ok_iff.mp done
    dsimp only at done
    split at done
    · rename_i succeeded
      cases done
      rw [succeeded] at tried
      obtain ⟨moved, account⟩ := tryReserveUserQuota_spec positive tried
      refine ⟨moved.walletOnly, account, ?_⟩
      obtain ⟨users, rfl, balance, _⟩ := moved
      rw [if_pos keyed]
      exact ⟨balance, absent⟩
    · cases done
  · have absentView : (info.scope.view db).record = none := absent
    obtain ⟨nothing, _⟩ | ⟨_, _, _, view⟩ := preConsume_spec keyed (fun _ => absentView) done
    · omega
    · have quota := congrArg quota view
      have record := congrArg record view
      unfold preConsume at done
      rw [if_neg (by omega), if_pos keyed] at done
      split at done
      · rename_i debited opened reserved
        cases done
        rw [if_neg keyed]
        exact ⟨reserveWalletPreConsume_walletOnly reserved,
            reserveWalletPreConsume_account absent reserved, quota, record⟩
      · cases done
      · cases done

theorem reserveTrusted_hold {quota : Int} (wallet : session.funding = .wallet funding)
    (trusted : session.trusted = true) (positive : 0 < quota)
    (keyed : session.relayInfo.requestId ≠ "")
    (absent : db.walletPreConsumes.lookup session.relayInfo.requestId = none)
    (done : session.reserveTrusted db now quota = .ok after) :
    WalletOnly db after ∧
      quotaIn after.users session.relayInfo.userId = quotaIn db.users session.relayInfo.userId ∧
      after.walletPreConsumes.lookup session.relayInfo.requestId =
        some
          (openedWalletPreConsume now session.relayInfo.requestId
            session.relayInfo.userId quota .trusted) := by
  have only : WalletOnly db after := by
    unfold reserveTrusted at done
    split at done
    · exact reserveTrustedWalletPreConsume_walletOnly done
    · cases done
      exact WalletOnly.refl db
  obtain ⟨_, ⟨_, view⟩ | ⟨record, found, _⟩⟩ :=
    (reserveTrusted_spec done wallet rfl keyed).2 trusted positive
  · have quota := congrArg RequestView.quota view
    have record := congrArg record view
    exact ⟨only, quota, record⟩
  · have missing : (session.relayInfo.scope.view db).record = none := absent
    rw [missing] at found
    cases found

theorem WalletHold.opened {calendar : Calendar} {quota : Int} {trust : Bool}
    {node openedNode : Node} (fresh : session = { relayInfo := info, funding := .wallet funding })
    (absent : node.db.walletPreConsumes.lookup info.requestId = none)
    (called : session.preConsume calendar node now quota trust = ⟨.ok (), next, openedNode⟩) :
    WalletHold info node.db (info.requestId ≠ "" ∧ 0 < quota) next openedNode.db := by
  subst fresh
  have trusts : shouldTrust { relayInfo := info, funding := .wallet funding } trust = trust := by
    simp [shouldTrust, source]
  obtain
    ⟨paid, funded, fundingNext, reserved, charged, fundingDone, reservedDone,
      rfl, rfl⟩ := preConsume_ok called
  rw [trusts] at charged fundingDone reservedDone ⊢
  obtain ⟨⟨walletNext, walletDb⟩, walletDone, mapped⟩ := map_eq_ok_iff.mp fundingDone
  cases mapped
  by_cases positive : 0 < if trust then 0 else quota
  · -- A positive amount is the estimate of a request that is not trusted.
    obtain rfl : trust = false := by
      cases trust with
      | false => rfl
      | true => simp at positive
    rw [if_pos positive] at charged
    have tokenPaid := preConsumeTokenQuota_spec positive charged
    have tokenAfter := (TokenHeld.refl info node.db.tokens).take positive tokenPaid
    rw [Int.zero_add] at tokenAfter
    obtain ⟨paidTokens, rfl, _⟩ := tokenPaid.1
    obtain ⟨only, account, balance, record⟩ :=
      preConsume_taken positive (by exact absent) walletDone
    have idle : reserved = funded := by
      simpa [reserveTrusted] using reservedDone.symm
    subst idle
    obtain ⟨users, records, rfl, same⟩ := only
    rw [if_pos positive]
    refine
      { relayInfo := rfl
        wallet := ⟨walletNext, rfl⟩
        token := tokenAfter
        balance := balance
        account := fun _ => (same info.userId).trans account
        untracked := ?_
        reserve := ?_
        tables := ⟨users, paidTokens, records, rfl⟩ }
    · intro isUntracked
      refine record.trans (if_pos ?_)
      by_contra keyed
      exact isUntracked ⟨keyed, positive⟩
    · rintro ⟨keyed, _⟩
      exact ⟨_, record.trans (if_neg keyed), rfl, rfl, Or.inl ⟨rfl, rfl⟩⟩
  · rw [if_neg positive] at charged
    cases charged
    have idle : funded = node.db ∧ walletNext = funding := by
      unfold WalletFunding.preConsume at walletDone
      rw [if_pos (by omega)] at walletDone
      cases walletDone
      exact ⟨rfl, rfl⟩
    obtain ⟨rfl, rfl⟩ := idle
    simp only [positive, if_false]
    by_cases opens : trust = true ∧ info.requestId ≠ "" ∧ 0 < quota
    · obtain ⟨rfl, keyed, estimate⟩ := opens
      obtain ⟨only, balance, record⟩ :=
        reserveTrusted_hold rfl rfl estimate keyed absent reservedDone
      obtain ⟨users, records, rfl, _⟩ := only
      exact
        { relayInfo := rfl
          wallet := ⟨walletNext, rfl⟩
          token := TokenHeld.refl info node.db.tokens
          balance := balance.trans (Int.sub_zero _).symm
          account := fun impossible => absurd impossible (Int.lt_irrefl 0)
          untracked := fun isUntracked => absurd ⟨keyed, estimate⟩ isUntracked
          reserve := fun _ => ⟨_, record, rfl, rfl, Or.inr ⟨rfl, rfl⟩⟩
          tables := ⟨users, node.db.tokens, records, rfl⟩ }
    · have closed : reserved = node.db := by
        unfold reserveTrusted at reservedDone
        rw [if_neg] at reservedDone
        · cases reservedDone
          rfl
        · intro guard
          simp only [Bool.and_eq_true, decide_eq_true_eq] at guard
          exact opens ⟨guard.1.1.1, guard.1.2, guard.2⟩
      subst closed
      have isUntracked : ¬(info.requestId ≠ "" ∧ 0 < quota) := by
        rintro ⟨keyed, estimate⟩
        cases trust with
        | true => exact opens ⟨rfl, keyed, estimate⟩
        | false => exact positive estimate
      exact
        { relayInfo := rfl
          wallet := ⟨walletNext, rfl⟩
          token := TokenHeld.refl info node.db.tokens
          balance := (Int.sub_zero _).symm
          account := fun impossible => absurd impossible (Int.lt_irrefl 0)
          untracked := fun _ => absent
          reserve := fun isTracked => absurd isTracked isUntracked
          tables := ⟨node.db.users, node.db.tokens, node.db.walletPreConsumes, rfl⟩ }

end WalletHolds

/-! ## The subscription -/

def storedUsage (subs : KeyedTable UserSubscription.id) (id : Int) : Option Int :=
  (subs.lookup id).map UserSubscription.amountUsed

/-- A stored subscription whose usage no reset takes away at `now`. -/
structure Unreset (calendar : Calendar) (plans : KeyedTable SubscriptionPlan.id)
    (now : Int) (sub : UserSubscription) : Prop where
  id_pos : 0 < sub.id
  nonnegative : 0 ≤ sub.amountUsed
  kept :
    ∀ plan, plans.lookup sub.planId = some plan →
      (maybeResetUserSubscription calendar plan now sub).amountUsed = sub.amountUsed
  current :
    ∀ plan, plans.lookup sub.planId = some plan →
      subscriptionUsageClearedByReset
          (maybeResetUserSubscription calendar plan now sub).lastResetTime
          now =
        false

section Candidates

variable {calendar : Calendar} {now amount userId : Int}
variable {requestId usingGroup : String} {baseGroups : List String}

section

variable {subs : KeyedTable UserSubscription.id} {sub : UserSubscription}
  (stored : storedUsage subs sub.id = some sub.amountUsed)
include stored

theorem storedUsage_save_same (id : Int) :
    storedUsage (subs.save sub) id = storedUsage subs id := by
  unfold storedUsage at *
  rw [lookup_save]
  split
  · rename_i same
    subst same
    rw [stored]
    cases found : subs.lookup sub.id with
    | none =>
      rw [found] at stored
      cases stored
    | some old => rfl
  · rfl

theorem storedUsage_book (used : Int) :
    ((subs.save sub).save { sub with amountUsed := used }).lookup sub.id =
        some { sub with amountUsed := used } ∧
      ∀ id, id ≠ sub.id →
        storedUsage ((subs.save sub).save { sub with amountUsed := used }) id =
          storedUsage subs id := by
  constructor
  · obtain ⟨old, located⟩ : ∃ old, subs.lookup sub.id = some old := by
      cases located : subs.lookup sub.id with
      | none =>
        rw [storedUsage, located] at stored
        cases stored
      | some old => exact ⟨old, rfl⟩
    have saved : (subs.save sub).lookup sub.id = some sub := lookup_save_self located
    exact @KeyedTable.lookup_save_self _ _ UserSubscription.id _ (subs.save sub)
        { sub with amountUsed := used } sub saved
  · intro id different
    have skipped :=
      @KeyedTable.lookup_save_of_ne _ _ UserSubscription.id _ (subs.save sub)
        { sub with amountUsed := used } id (Ne.symm different)
    rw [storedUsage, skipped]
    exact storedUsage_save_same stored id

end

theorem preConsumeCandidates_booked :
    ∀ {subs : List UserSubscription} {db after : Database} {sawScoped sawMatching : Bool},
      (∀ sub ∈ subs, storedUsage db.subscriptions sub.id = some sub.amountUsed) →
      (∀ sub ∈ subs, Unreset calendar db.plans now sub) →
      preConsumeCandidates calendar now requestId userId amount usingGroup
          baseGroups db subs sawScoped sawMatching =
        .ok after →
      ∃ sub ∈ subs, ∃ plan fresh subscriptions records,
        db.plans.lookup sub.planId = some plan ∧
          fresh = maybeResetUserSubscription calendar plan now sub ∧
          after =
            { db with
              subscriptions := subscriptions
              subscriptionPreConsumes := records } ∧
          db.subscriptionPreConsumes.create (startedRecord fresh now requestId userId amount) =
            some records ∧
          subscriptions.lookup fresh.id =
            some { fresh with amountUsed := fresh.amountUsed + amount } ∧
          ∀ id, id ≠ fresh.id → storedUsage subscriptions id = storedUsage db.subscriptions id
  | [], _, _, _, _, _, _, done => by
      unfold preConsumeCandidates at done
      split at done <;> cases done
  | sub :: rest, db, after, _, _, stored, unreset, done => by
      unfold preConsumeCandidates at done
      dsimp only at done
      split at done
      · obtain ⟨payer, member, booked⟩ :=
          preConsumeCandidates_booked
            (fun other member => stored other (List.mem_cons_of_mem sub member))
            (fun other member => unreset other (List.mem_cons_of_mem sub member))
            done
        exact ⟨payer, List.mem_cons_of_mem sub member, booked⟩
      · split at done
        · cases done
        rename_i plan planned
        have here := unreset sub List.mem_cons_self
        have freshId := maybeResetUserSubscription_id calendar plan now sub
        have freshUsed := here.kept plan planned
        generalize resets : maybeResetUserSubscription calendar plan now sub = fresh
          at done freshId freshUsed
        have freshStored : storedUsage db.subscriptions fresh.id = some fresh.amountUsed := by
          rw [freshId, freshUsed]
          exact stored sub List.mem_cons_self
        have same := storedUsage_save_same freshStored
        have saved : maybeResetUserSubscriptionWithPlanTx calendar db now sub plan =
              db.saveSubscription fresh := by
          rw [maybeResetUserSubscriptionWithPlanTx, resets]
        rw [saved] at done
        split at done
        · have storedRest :
              ∀ other ∈ rest,
                storedUsage (db.saveSubscription fresh).subscriptions other.id =
                  some other.amountUsed := by
            intro other member
            exact (same other.id).trans (stored other (List.mem_cons_of_mem sub member))
          obtain ⟨payer, member, payerPlan, payerFresh, subscriptions,
            records, found, isFresh, rfl, created, booked, others⟩ :=
            preConsumeCandidates_booked storedRest
              (fun other member => unreset other (List.mem_cons_of_mem sub member))
              done
          exact ⟨payer, List.mem_cons_of_mem sub member, payerPlan, payerFresh,
              subscriptions, records, found, isFresh, rfl, created, booked,
              fun id different => (others id different).trans (same id)⟩
        · split at done
          · cases done
          rename_i records created
          cases done
          exact
            ⟨sub, List.mem_cons_self, plan, fresh, _, records, planned, resets.symm, rfl, created,
              storedUsage_book freshStored (fresh.amountUsed + amount)⟩

end Candidates

/-- The pre-consume of the request and its supplemental reserves, all counted
on `sub`.  The reserve row remembers the pre-consume alone. -/
structure BookedUsage (info : RelayInfo) (start db : Database) (openedAt amount extra : Int)
    (sub : UserSubscription) : Prop where
  id_pos : 0 < sub.id
  stored : db.subscriptions.lookup sub.id = some sub
  current : subscriptionUsageClearedByReset sub.lastResetTime openedAt = false
  extra_nonnegative : 0 ≤ extra
  used :
    ∃ before,
      storedUsage start.subscriptions sub.id = some before ∧ 0 ≤ before ∧
        sub.amountUsed = before + amount + extra
  others : ∀ id, id ≠ sub.id → storedUsage db.subscriptions id = storedUsage start.subscriptions id
  reserve :
    ∃ lease,
      db.subscriptionPreConsumes.lookup info.requestId =
        some
          { startedRecord sub openedAt info.requestId info.userId amount with leaseUntil := lease }

structure SubscriptionHold (info : RelayInfo) (start : Database) (openedAt amount : Int)
    (session : BillingSession) (db : Database) : Prop where
  relayInfo : session.relayInfo = info
  keyed : info.requestId ≠ ""
  positive : 0 < amount
  token : TokenHeld info start.tokens db.tokens session.tokenConsumed
  booked :
    ∃ funding sub,
      session.funding = .subscription funding ∧
        funding.subscriptionId = sub.id ∧
        BookedUsage info start db openedAt amount session.extraReserved sub
  tables :
    ∃ tokens subs records,
      db =
        { start with
          tokens := tokens
          subscriptions := subs
          subscriptionPreConsumes := records }

section SubscriptionHolds

variable {info : RelayInfo} {start db after : Database}
variable {session next : BillingSession} {now openedAt amount : Int}

variable {sub : UserSubscription} {funding : SubscriptionFunding}

theorem BookedUsage.raise {extra delta : Int} (keyed : info.requestId ≠ "") (positive : 0 < amount)
    (booked : BookedUsage info start db openedAt amount extra sub) (more : 0 < delta)
    (done : reserveUserSubscriptionDelta db info.requestId sub.id delta = .ok after) :
    (∃ subs, after = { db with subscriptions := subs }) ∧
      BookedUsage info start after openedAt amount (extra + delta)
        { sub with amountUsed := sub.amountUsed + delta } := by
  obtain ⟨before, started, nonnegative, used⟩ := booked.used
  obtain ⟨lease, reserve⟩ := booked.reserve
  have extraNonnegative := booked.extra_nonnegative
  have saved : after = db.saveSubscription { sub with amountUsed := sub.amountUsed + delta } := by
    unfold reserveUserSubscriptionDelta at done
    rw [if_neg (not_le.mpr booked.id_pos), if_neg (by omega), if_neg (by omega)] at done
    simp only [reserveUserSubscriptionDeltaTx, lockSubscriptionPreConsumeRecordTx,
      lockSubscriptionTx, if_neg keyed, booked.stored, reserve, startedRecord] at done
    obtain ⟨_, locked, done⟩ := bind_ok_iff.mp done
    cases locked
    rw [booked.current, if_neg Bool.false_ne_true] at done
    rw [applyUserSubscriptionDeltaTx_cases done, max_eq_right (by omega)]
  subst saved
  refine ⟨⟨_, rfl⟩, ?_⟩
  exact
    { id_pos := booked.id_pos
      stored :=
        @KeyedTable.lookup_save_self _ _ UserSubscription.id _
          db.subscriptions
          { sub with amountUsed := sub.amountUsed + delta } sub booked.stored
      current := booked.current
      extra_nonnegative := by omega
      used := ⟨before, started, nonnegative, by dsimp only; omega⟩
      others := by
        intro id different
        have skipped :=
          @KeyedTable.lookup_save_of_ne _ _ UserSubscription.id _
            db.subscriptions
            { sub with amountUsed := sub.amountUsed + delta } id
            (Ne.symm different)
        change storedUsage (db.subscriptions.save _) id = _
        rw [storedUsage, skipped]
        exact booked.others id different
      reserve := ⟨lease, reserve⟩ }

theorem mem_activeSubscriptions {userId : Int} (member : sub ∈ activeSubscriptions db userId now) :
    db.subscriptions.lookup sub.id = some sub ∧ sub.userId = userId := by
  unfold activeSubscriptions at member
  rw [List.mem_insertionSort, List.mem_filter] at member
  obtain ⟨stored, passes⟩ := member
  simp only [Bool.and_eq_true, decide_eq_true_eq] at passes
  exact ⟨lookup_eq_some_iff.mpr ⟨stored, rfl⟩, passes.1.1⟩

theorem preConsumeUserSubscriptionTx_booked {calendar : Calendar}
    (absent : db.subscriptionPreConsumes.lookup info.requestId = none)
    (unreset : ∀ id sub, db.subscriptions.lookup id = some sub →
        sub.userId = info.userId → Unreset calendar db.plans now sub)
    (done :
      preConsumeUserSubscriptionTx calendar db now info.requestId info.userId
          amount funding.usingGroup funding.baseGroups =
        .ok after) :
    info.requestId ≠ "" ∧ 0 < amount ∧
      (∃ subs records,
        after =
          { db with
            subscriptions := subs
            subscriptionPreConsumes := records }) ∧
      ∃ sub, BookedUsage info db after now amount 0 sub := by
  unfold preConsumeUserSubscriptionTx at done
  split at done
  · cases done
  split at done
  · cases done
  rename_i keyed
  split at done
  · cases done
  rw [absent] at done
  dsimp only at done
  split at done
  · cases done
  have stored :
      ∀ sub ∈ activeSubscriptions db info.userId now,
        storedUsage db.subscriptions sub.id = some sub.amountUsed := by
    intro sub member
    rw [storedUsage, (mem_activeSubscriptions member).1, Option.map_some]
  have unresetActive :
      ∀ sub ∈ activeSubscriptions db info.userId now, Unreset calendar db.plans now sub := by
    intro sub member
    obtain ⟨found, owner⟩ := mem_activeSubscriptions member
    exact unreset sub.id sub found owner
  obtain ⟨sub, member, plan, fresh, subscriptions, records, planned,
    isFresh, rfl, created, booked, others⟩ :=
    preConsumeCandidates_booked stored unresetActive done
  have here := unresetActive sub member
  have sameId : fresh.id = sub.id := by rw [isFresh, maybeResetUserSubscription_id]
  have sameUsed : fresh.amountUsed = sub.amountUsed := by rw [isFresh, here.kept plan planned]
  refine ⟨keyed, by omega, ⟨subscriptions, records, rfl⟩,
    { fresh with amountUsed := fresh.amountUsed + amount }, ?_⟩
  exact
    { id_pos := sameId ▸ here.id_pos
      stored := booked
      current := by
        rw [isFresh]
        exact here.current plan planned
      extra_nonnegative := Int.le_refl 0
      used := by
        refine ⟨sub.amountUsed, ?_, here.nonnegative, ?_⟩
        · rw [sameId]
          exact stored sub member
        · dsimp only
          omega
      others := others
      reserve := by
        refine ⟨0, ?_⟩
        rw [(lookup_create created).2]
        exact if_pos rfl }

theorem BookedUsage.armed {extra : Int}
    (booked : BookedUsage info start db openedAt amount extra sub) (now : Int) :
    (∃ records,
      armSubscriptionPreConsumeLease db now info.requestId =
        { db with subscriptionPreConsumes := records }) ∧
      BookedUsage info start (armSubscriptionPreConsumeLease db now info.requestId) openedAt amount
        extra sub := by
  obtain ⟨lease, reserve⟩ := booked.reserve
  unfold armSubscriptionPreConsumeLease
  rw [reserve]
  refine ⟨⟨_, rfl⟩, ?_⟩
  exact
    { booked with
      reserve := by
        refine ⟨now + subscriptionPreConsumeLeaseSeconds, ?_⟩
        exact @KeyedTable.lookup_save_self _ _ SubscriptionPreConsumeRecord.requestId _
            db.subscriptionPreConsumes
            { startedRecord sub openedAt info.requestId info.userId amount with
              leaseUntil := now + subscriptionPreConsumeLeaseSeconds }
            _ reserve }

theorem SubscriptionHold.opened {calendar : Calendar} {trust : Bool} {node openedNode : Node}
    (fresh : session = { relayInfo := info, funding := .subscription funding })
    (sameAmount : funding.amount = amount)
    (absent : node.db.subscriptionPreConsumes.lookup info.requestId = none)
    (unreset : ∀ id sub, node.db.subscriptions.lookup id = some sub →
        sub.userId = info.userId → Unreset calendar node.db.plans now sub)
    (called : session.preConsume calendar node now amount trust = ⟨.ok (), next, openedNode⟩) :
    SubscriptionHold info node.db now amount next openedNode.db := by
  subst fresh
  have trusts :
      shouldTrust { relayInfo := info, funding := .subscription funding } trust =
        false := by
    simp [shouldTrust, source]
  obtain
    ⟨paid, funded, fundingNext, reserved, charged, fundingDone, reservedDone,
      rfl, rfl⟩ := preConsume_ok called
  rw [trusts] at charged fundingDone reservedDone ⊢
  simp only [Bool.false_eq_true, if_false, Bool.or_false] at *
  have idle : reserved = funded := by simpa [reserveTrusted] using reservedDone.symm
  subst idle
  obtain ⟨⟨subNext, subDb⟩, subDone, mapped⟩ := map_eq_ok_iff.mp fundingDone
  cases mapped
  obtain ⟨booking, bookingDone, subDone⟩ := bind_ok_iff.mp subDone
  cases subDone
  rw [sameAmount] at bookingDone
  have positive : 0 < amount := by
    by_contra nothing
    unfold preConsumeUserSubscriptionTx at bookingDone
    rw [if_pos (Int.not_lt.mp nothing)] at bookingDone
    split at bookingDone
    · cases bookingDone
    split at bookingDone <;> cases bookingDone
  rw [if_pos positive] at charged ⊢
  have tokenPaid := preConsumeTokenQuota_spec positive charged
  have tokenAfter := (TokenHeld.refl info node.db.tokens).take positive tokenPaid
  rw [Int.zero_add] at tokenAfter
  obtain ⟨paidTokens, rfl, _⟩ := tokenPaid.1
  obtain ⟨keyed, _, ⟨subs, records, rfl⟩, sub, booked⟩ :=
    preConsumeUserSubscriptionTx_booked (by exact absent) (by exact unreset) bookingDone
  obtain ⟨lease, reserve⟩ := booked.reserve
  obtain ⟨⟨armedRecords, armed⟩, bookedArmed⟩ := booked.armed now
  rw [armed] at bookedArmed ⊢
  exact
    { relayInfo := rfl
      keyed := keyed
      positive := positive
      token := tokenAfter
      booked := by
        refine ⟨_, sub, rfl, ?_, { bookedArmed with }⟩
        unfold SubscriptionFunding.booked
        rw [reserve]
        rfl
      tables := ⟨paidTokens, subs, armedRecords, rfl⟩ }

theorem SubscriptionHold.raise {target : Int} {node afterNode : Node}
    (called : session.reserve node now target = ⟨.ok (), next, afterNode⟩)
    (before : SubscriptionHold info start openedAt amount session node.db) :
    SubscriptionHold info start openedAt amount next afterNode.db := by
  obtain ⟨_, rfl, rfl⟩ | ⟨hungry, paid, fundingNext, reserved, charged, funded,
      rfl, rfl⟩ := reserve_ok called
  · exact before
  · obtain ⟨rfl, keyed, amountPositive, token, ⟨funding, sub, isFunding,
      sameSub, booked⟩, tokens, subs, records, tables⟩ := before
    have positive : 0 < target - session.preConsumedQuota := by
      by_contra nothing
      exact hungry (Or.inr (Or.inr (by omega)))
    generalize target - session.preConsumedQuota = delta at charged funded positive ⊢
    have tokenPaid := reserveToken_spec positive charged
    have tokenAfter := token.take positive tokenPaid
    obtain ⟨paidTokens, rfl, _⟩ := tokenPaid.1
    unfold reserveFunding at funded
    rw [isFunding] at funded
    dsimp only at funded
    split at funded
    · rename_i reservedDb reservedDone
      cases funded
      rw [sameSub] at reservedDone
      have bookedPaid :
          BookedUsage session.relayInfo start { node.db with tokens := paidTokens } openedAt amount
            session.extraReserved sub :=
        { booked with }
      obtain ⟨⟨finalSubs, rfl⟩, bookedAfter⟩ :=
        bookedPaid.raise keyed amountPositive positive reservedDone
      exact
        { relayInfo := rfl
          keyed := keyed
          positive := amountPositive
          token := tokenAfter
          booked :=
            ⟨funding, { sub with amountUsed := sub.amountUsed + delta }, rfl, sameSub, bookedAfter⟩
          tables := ⟨paidTokens, finalSubs, records, by rw [tables]⟩ }
    · cases funded

end SubscriptionHolds

end NewApi.Billing
