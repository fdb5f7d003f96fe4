import NewApi.Billing.BillingSession
import NewApi.Billing.SettlementCalls

/-!
# The calls of a wallet session

What each call of a wallet-funded session with a request id does to the four
rows of its request.  A successful call is described once, by the session and
the view it leaves.
-/

namespace NewApi.Billing

open Transactions WalletFunding WalletPreConsumeRecord RelayInfo FundingSource Token BillingSession

def RelayInfo.scope (info : RelayInfo) : RequestScope where
  requestID := info.requestId
  key := billingAdjustmentKey info.requestId
  userID := info.userId
  tokenID := info.tokenId

def RelayInfo.takeToken (info : RelayInfo) (quota : Int) (token : Token) : Token :=
  if info.isPlayground then token
  else if info.tokenUnlimited then token.decrease quota
  else token.reserve quota

section Statements

variable {db after : Database} {info : RelayInfo} {now quota : Int}

variable {id : Int}

theorem decreaseTokenQuotaTx_spec (positive : 0 < quota)
    (done : decreaseTokenQuotaTx db id quota = .ok after) :
    TokenMoved db after id (decrease · quota) ∧
      ∃ token, db.tokens.lookup id = some token := by
  unfold decreaseTokenQuotaTx at done
  split at done
  · cases done
  split at done
  · omega
  split at done
  · cases done
  rename_i token found
  split at done
  · cases done
    exact ⟨tokenMoved_save found (decrease · quota) rfl, token, found⟩
  · cases done

theorem tryReserveTokenQuota_spec {unlimited : Bool} (positive : 0 < quota)
    (done : tryReserveTokenQuota db id quota unlimited = .ok (true, after)) :
    TokenMoved db after id
        (fun token => if unlimited then token.decrease quota else token.reserve quota) ∧
      ∃ token, db.tokens.lookup id = some token := by
  unfold tryReserveTokenQuota at done
  split at done
  · cases done
  split at done
  · omega
  split at done
  · rename_i isUnlimited
    obtain ⟨next, decreased, done⟩ := bind_ok_iff.mp done
    cases done
    simp only [isUnlimited, if_true]
    exact decreaseTokenQuotaTx_spec positive decreased
  · rename_i limited
    split at done
    · cases done
    rename_i token found
    split at done
    · cases done
      simp only [limited]
      exact ⟨tokenMoved_save found (reserve · quota) rfl, token, found⟩
    · cases done

/-- The token pays unless the request comes from the playground. -/
theorem preConsumeTokenQuota_spec (positive : 0 < quota)
    (done : preConsumeTokenQuota db info quota = .ok after) :
    TokenMoved db after info.tokenId (info.takeToken quota) ∧
      (info.isPlayground = false → ∃ token, db.tokens.lookup info.tokenId = some token) := by
  unfold preConsumeTokenQuota at done
  split at done
  · cases done
  split at done
  · rename_i playground
    cases done
    refine ⟨tokenMoved_unchanged (fun token _ => ?_), ?_⟩
    · rw [takeToken, if_pos playground]
    · intro real
      rw [playground] at real
      cases real
  · rename_i real
    obtain ⟨⟨reserved, next⟩, tried, done⟩ := bind_ok_iff.mp done
    dsimp only at done
    split at done
    · rename_i succeeded
      cases done
      rw [succeeded] at tried
      obtain ⟨moved, exists_⟩ := tryReserveTokenQuota_spec positive tried
      refine ⟨?_, fun _ => exists_⟩
      have shape : info.takeToken quota =
            fun token =>
              if info.tokenUnlimited then token.decrease quota
              else token.reserve quota := by
        funext token
        rw [takeToken, if_neg real]
      rw [shape]
      exact moved
    · cases done

theorem tryReserveUserQuota_spec (positive : 0 < quota)
    (done : tryReserveUserQuota db id quota = .ok (true, after)) :
    WalletMoved db after id (-quota) ∧ (db.users.lookup id).isSome = true := by
  unfold tryReserveUserQuota at done
  split at done
  · cases done
  split at done
  · omega
  split at done
  · cases done
  rename_i user found
  split at done
  · cases done
    refine ⟨walletMoved_save found (-quota), ?_⟩
    rw [found]
    rfl
  · cases done

end Statements

section Taking

variable {db after : Database} {info : RelayInfo} {now : Int}
variable {funding next : WalletFunding}

def WalletPreConsumeRecord.raised (record : WalletPreConsumeRecord) (now delta : Int) :
    WalletPreConsumeRecord :=
  { record.renewed now with
    amount := if record.status = .trusted then delta else record.amount + delta
    status := .reserved }

/-- Nothing to pay changes nothing; else the wallet is debited. -/
theorem WalletFunding.preConsume_spec {amount : Int} (keyed : info.requestId ≠ "")
    (absent : 0 < amount → (info.scope.view db).record = none)
    (done : funding.preConsume info db now amount = .ok (next, after)) :
    (amount ≤ 0 ∧ next = funding ∧ after = db) ∨
      (0 < amount ∧ next = ⟨amount⟩ ∧ (info.scope.OwnsRows db → info.scope.OwnsRows after) ∧
        info.scope.view after =
          { info.scope.view db with
            quota := (info.scope.view db).quota + -amount
            record :=
              some (openedWalletPreConsume now info.requestId info.userId amount .reserved) }) := by
  unfold preConsume at done
  split at done
  · rename_i nothing
    cases done
    exact Or.inl ⟨nothing, rfl, rfl⟩
  · split at done
    · rename_i debited opened reserved
      cases done
      obtain ⟨_, owns, fresh | ⟨record, found, _⟩⟩ :=
        @reserveWalletPreConsume_spec info.scope db after now amount debited reserved
      · exact Or.inr ⟨by omega, rfl, owns, fresh.2.2⟩
      · rw [absent (by omega)] at found
        cases found
    · cases done
    · cases done

variable {delta : Int}

private theorem reserveUncounted_spec (positive : 0 < delta)
    (done :
      (do
        let (reserved, db) ← tryReserveUserQuota db info.userId delta
        if reserved then .ok ({ funding with consumed := funding.consumed + delta }, db)
        else .error insufficientWalletQuota) =
        (Except.ok (next, after) : Except BillingError (WalletFunding × Database))) :
    next = ⟨funding.consumed + delta⟩ ∧ WalletMoved db after info.userId (-delta) ∧
      (db.users.lookup info.userId).isSome = true := by
  obtain ⟨⟨reserved, debited⟩, tried, done⟩ := bind_ok_iff.mp done
  dsimp only at done
  split at done
  · rename_i succeeded
    cases done
    rw [succeeded] at tried
    exact ⟨rfl, tryReserveUserQuota_spec positive tried⟩
  · cases done

/-- The record grows, or without one the wallet is debited alone. -/
theorem reserveWalletFunding_cases (positive : 0 < delta)
    (done : reserveWalletFunding info funding db now delta = .ok (next, after)) :
    next = ⟨funding.consumed + delta⟩ ∧
      (increaseWalletPreConsume db now info.requestId info.userId delta = .ok after ∨
        (info.requestId = "" ∨ (info.scope.view db).record = none) ∧
          WalletMoved db after info.userId (-delta) ∧
          (db.users.lookup info.userId).isSome = true) := by
  unfold reserveWalletFunding at done
  split at done
  · rename_i keyed
    split at done
    · rename_i raised increased
      cases done
      exact ⟨rfl, Or.inl increased⟩
    · rename_i missing
      have absent : (info.scope.view db).record = none :=
        @increaseWalletPreConsume_notFound info.scope db now delta keyed missing
      obtain ⟨counted, debited⟩ := reserveUncounted_spec positive done
      exact ⟨counted, Or.inr ⟨Or.inr absent, debited⟩⟩
    · cases done
    · cases done
  · rename_i empty
    obtain ⟨counted, debited⟩ := reserveUncounted_spec positive done
    exact ⟨counted, Or.inr ⟨Or.inl (not_not.mp empty), debited⟩⟩

theorem reserveWalletFunding_spec (positive : 0 < delta)
    (unkeyed : info.requestId = "" → (info.scope.view db).record = none)
    (done : reserveWalletFunding info funding db now delta = .ok (next, after)) :
    next = ⟨funding.consumed + delta⟩ ∧ (info.scope.OwnsRows db → info.scope.OwnsRows after) ∧
      (∀ record, (info.scope.view db).record = some record →
        record.userID = info.userId ∧ record.status.isOpen = true) ∧
      info.scope.view after =
        { info.scope.view db with
          quota := (info.scope.view db).quota + -delta
          record := (info.scope.view db).record.map (·.raised now delta) } := by
  obtain ⟨counted, increased | ⟨noReserve, debited, _⟩⟩ := reserveWalletFunding_cases positive done
  · obtain ⟨_, owns, record, found, owner, isOpen, view⟩ :=
      @increaseWalletPreConsume_spec info.scope db after now delta increased
    refine ⟨counted, owns, ?_, ?_⟩
    · intro other located
      rw [found] at located
      cases located
      exact ⟨owner, isOpen⟩
    · rw [view, found]
      rfl
  · have absent : (info.scope.view db).record = none := noReserve.elim unkeyed id
    have moved := @RequestScope.view_walletMoved info.scope db after (-delta) debited
    refine ⟨counted, moved.2, ?_, ?_⟩
    · intro record found
      rw [absent] at found
      cases found
    · rw [moved.1, absent, Option.map_none, ← absent]

theorem reserveWalletFunding_walletOnly (positive : 0 < delta)
    (done : reserveWalletFunding info funding db now delta = .ok (next, after)) :
    WalletOnly db after ∧ (db.users.lookup info.userId).isSome = true := by
  obtain ⟨_, increased | ⟨_, debited, account⟩⟩ := reserveWalletFunding_cases positive done
  · exact
      ⟨increaseWalletPreConsume_walletOnly increased, increaseWalletPreConsume_account increased⟩
  · exact ⟨debited.walletOnly, account⟩

end Taking

/-! ## Refunding -/

section Refunding

variable {db after : Database} {info : RelayInfo} {now quota : Int}
variable {funding next : WalletFunding}

/-- What the refund of a session before its first settle attempt credits: the
reserve says how much is held, and without one the session does. -/
def earlyCredit (record : Option WalletPreConsumeRecord) (consumed : Int) : Int :=
  match record with
  | none => max 0 consumed
  | some record =>
    if record.status = .reserved then max 0 record.amount else 0

private theorem max_zero_eq (amount : Int) : (if 0 < amount then amount else 0) = max 0 amount := by
  split <;> omega

theorem WalletFunding.refundCounted_spec
    (done : funding.refundCounted info db = .ok (next, after)) :
    WalletMoved db after info.userId (max 0 funding.consumed) := by
  unfold refundCounted at done
  split at done
  · rename_i nothing
    cases done
    rw [max_eq_left nothing]
    exact WalletMoved.refl db info.userId
  · obtain ⟨paid, credited, done⟩ := bind_ok_iff.mp done
    cases done
    rw [max_eq_right (by omega)]
    exact (increaseUserQuotaTx_spec credited).2

/-- A refund returns what the record holds. -/
theorem WalletFunding.refund_spec (keyed : info.requestId ≠ "")
    (owner : ∀ record, (info.scope.view db).record = some record → record.userID = info.userId)
    (done : funding.refund info db now = .ok (next, after)) :
    (info.scope.OwnsRows db → info.scope.OwnsRows after) ∧
      info.scope.view after =
        { info.scope.view db with
          quota :=
            (info.scope.view db).quota + earlyCredit (info.scope.view db).record funding.consumed
          record := (info.scope.view db).record.map (·.returned now) } := by
  unfold refund at done
  rw [if_pos keyed] at done
  split at done
  · rename_i outcome credited refunded
    cases done
    obtain ⟨shape, owns⟩ :=
      @refundWalletPreConsume_cases info.scope db after now false outcome owner refunded
    refine ⟨owns, ?_⟩
    generalize info.scope.view after = final at shape
    cases shape with
    | alreadyRefunded found status =>
      rw [found]
      simp only [earlyCredit, status, Option.map_some, returned]
      simp [← found]
    | owned _ _ expiry | collected _ _ expiry => cases expiry
    | dropped found status =>
      rw [found]
      simp [earlyCredit, status, returned]
    | kept _ _ expiry => cases expiry
    | returned found status =>
      rw [found]
      simp [earlyCredit, status, returned, max_zero_eq]
  · rename_i missing
    have absent := @refundWalletPreConsume_notFound info.scope db now keyed missing
    have moved := @RequestScope.view_walletMoved info.scope db after _ (refundCounted_spec done)
    refine ⟨moved.2, ?_⟩
    rw [moved.1, absent, Option.map_none, earlyCredit, ← absent]
  · cases done

theorem increaseTokenQuotaTracked_spec {id : Int} {delta : TokenQuotaDelta} (positive : 0 < quota)
    (done : increaseTokenQuotaTracked db id quota = .ok (delta, after)) :
    TokenMoved db after id (increase · quota) := by
  unfold increaseTokenQuotaTracked at done
  split at done
  · cases done
  split at done
  · omega
  · split at done
    · cases done
    rename_i token found
    cases done
    exact tokenMoved_save found (increase · quota) rfl

theorem increaseTokenQuotaTracked_noRows {id : Int} {err : BillingError}
    (failed : increaseTokenQuotaTracked db id quota = .error err)
    (noRows : isTokenQuotaNoRowsError err = true) :
    db.tokens.lookup id = none := by
  unfold increaseTokenQuotaTracked at failed
  split at failed
  · cases failed
    cases noRows
  · split at failed
    · cases failed
    split at failed
    · assumption
    · cases failed

theorem adjustTokenQuotaForSettlementTracked_credit
    {adjusted : Bool × TokenQuotaDelta} (positive : 0 < quota) (real : info.isPlayground = false)
    (done : adjustTokenQuotaForSettlementTracked db info (-quota) = .ok (adjusted, after)) :
    TokenMoved db after info.tokenId (increase · quota) := by
  unfold adjustTokenQuotaForSettlementTracked at done
  rw [if_neg (by simp [real]; omega), if_neg (by omega), Int.neg_neg] at done
  unfold skipMissingToken at done
  split at done
  · rename_i result next credited
    cases done
    exact increaseTokenQuotaTracked_spec positive credited
  · rename_i err failed
    split at done
    · rename_i noRows
      cases done
      have absent := increaseTokenQuotaTracked_noRows failed noRows
      apply tokenMoved_unchanged
      intro token found
      rw [absent] at found
      cases found
    · cases done

end Refunding

namespace BillingSession

variable {session : BillingSession} {node : Node} {now : Int}
variable {funding : WalletFunding}

/-- The ways in which the pre-consume of a wallet request can succeed that takes
nothing or opens or renews the reserve, with the session and the rows each leaves. -/
inductive PreConsumeCase (session : BillingSession) (view : RequestView) (now quota : Int)
    (trust : Bool) : BillingSession → RequestView → Prop
  | taken
      (untrusted : trust = false) (positive : 0 < quota) :
      PreConsumeCase session view now quota trust
        { session with
          tokenConsumed := quota
          funding := .wallet ⟨quota⟩
          preConsumedQuota := quota }
        { view with
          quota := view.quota + -quota
          token := view.token.map (session.relayInfo.takeToken quota)
          record :=
            some
              (openedWalletPreConsume now session.relayInfo.requestId
                session.relayInfo.userId quota .reserved) }
  | trusted
      (trusted : trust = true) (positive : 0 < quota) (absent : view.record = none) :
      PreConsumeCase session view now quota trust
        { session with trusted := true, preConsumedQuota := 0 }
        { view with
          record :=
            some
              (openedWalletPreConsume now session.relayInfo.requestId
                session.relayInfo.userId quota .trusted) }
  | renewed
      {record : WalletPreConsumeRecord} (trusted : trust = true)
      (found : view.record = some record) (status : record.status = .trusted) :
      PreConsumeCase session view now quota trust
        { session with trusted := true, preConsumedQuota := 0 }
        { view with record := some (record.renewed now) }
  | nothing
      (nothing : quota ≤ 0) :
      PreConsumeCase session view now quota trust
        { session with
          trusted := session.trusted || trust
          preConsumedQuota := if trust then 0 else quota }
        view

variable {quota : Int} {next : BillingSession} {after : Node}

theorem preConsume_ok {calendar : Calendar} {trust : Bool}
    (called : session.preConsume calendar node now quota trust = ⟨.ok (), next, after⟩) :
    ∃ paid funded fundingNext reserved,
      let amount := if session.shouldTrust trust then 0 else quota
      (if 0 < amount then preConsumeTokenQuota node.db session.relayInfo amount
        else .ok node.db) =
        .ok paid ∧
      session.funding.preConsume calendar session.relayInfo paid now amount =
        .ok (fundingNext, funded) ∧
      ({ session with
        trusted := session.trusted || session.shouldTrust trust
        funding := fundingNext } : BillingSession).reserveTrusted funded now quota =
        .ok reserved ∧
      next =
        { session with
          trusted := session.trusted || session.shouldTrust trust
          tokenConsumed := if 0 < amount then amount else session.tokenConsumed
          funding := fundingNext
          preConsumedQuota := amount } ∧
      after = { node with db := reserved } := by
  unfold preConsume at called
  dsimp only at called
  generalize (if session.shouldTrust trust = true then 0 else quota) = amount at called ⊢
  split at called
  · cases called
  rename_i paid charged
  by_cases positive : 0 < amount
  · simp only [positive, if_true] at charged called ⊢
    split at called
    · split at called <;> cases called
    rename_i fundingNext funded fundingDone
    split at called
    · cases called
    rename_i reserved reservedDone
    cases called
    exact ⟨paid, funded, fundingNext, reserved, charged, fundingDone, reservedDone, rfl, rfl⟩
  · simp only [positive, if_false] at charged called ⊢
    split at called
    · split at called <;> cases called
    rename_i fundingNext funded fundingDone
    split at called
    · cases called
    rename_i reserved reservedDone
    cases called
    exact ⟨paid, funded, fundingNext, reserved, charged, fundingDone, reservedDone, rfl, rfl⟩

variable {db : Database}

theorem reserveTrusted_spec {info : RelayInfo} {reserved : Database}
    (done : session.reserveTrusted db now quota = .ok reserved)
    (wallet : session.funding = .wallet funding)
    (same : session.relayInfo = info) (keyed : info.requestId ≠ "") :
    (session.trusted = false ∨ quota ≤ 0 → reserved = db) ∧
      (session.trusted = true → 0 < quota →
        (info.scope.OwnsRows db → info.scope.OwnsRows reserved) ∧
          ((info.scope.view db).record = none ∧
            info.scope.view reserved =
              { info.scope.view db with
                record :=
                  some (openedWalletPreConsume now info.requestId info.userId quota .trusted) } ∨
            ∃ record,
              (info.scope.view db).record = some record ∧ record.status = .trusted ∧
                info.scope.view reserved =
                  { info.scope.view db with record := some (record.renewed now) })) := by
  subst same
  unfold reserveTrusted at done
  split at done
  · rename_i guard
    simp only [Bool.and_eq_true, decide_eq_true_eq] at guard
    refine ⟨?_, fun _ _ => ?_⟩
    · rintro (untrusted | nothing)
      · rw [untrusted] at guard
        cases guard.1.1.1
      · omega
    · exact
        (@reserveTrustedWalletPreConsume_spec session.relayInfo.scope db reserved now quota done).2
  · rename_i guard
    cases done
    refine ⟨fun _ => rfl, fun trusted positive => ?_⟩
    have sameKey : session.requestId ≠ "" := keyed
    exact absurd (by simp [trusted, sameKey, positive, wallet, source]) guard

theorem preConsume_wallet {calendar : Calendar} {trust : Bool}
    (wallet : session.funding = .wallet funding) (keyed : session.relayInfo.requestId ≠ "")
    (absent : 0 < quota → trust = false → (session.relayInfo.scope.view node.db).record = none)
    (called : session.preConsume calendar node now quota trust = ⟨.ok (), next, after⟩) :
    (session.relayInfo.scope.OwnsRows node.db → session.relayInfo.scope.OwnsRows after.db) ∧
      PreConsumeCase session (session.relayInfo.scope.view node.db) now quota
        trust next (session.relayInfo.scope.view after.db) := by
  have trusts : session.shouldTrust trust = trust := by
    simp [shouldTrust, wallet, source]
  obtain
    ⟨paid, funded, fundingNext, reserved, charged, fundingDone, reservedDone,
      rfl, rfl⟩ := preConsume_ok called
  rw [trusts] at charged fundingDone reservedDone ⊢
  rw [wallet] at fundingDone
  obtain ⟨⟨walletNext, walletDb⟩, walletDone, mapped⟩ := map_eq_ok_iff.mp fundingDone
  cases mapped
  obtain ⟨idle, opens⟩ := reserveTrusted_spec reservedDone rfl rfl keyed
  generalize effective : (if trust then 0 else quota) = amount at charged walletDone ⊢
  by_cases positive : 0 < amount
  · -- A positive amount is taken without trust, so it is the estimate itself.
    obtain ⟨rfl, rfl⟩ : trust = false ∧ quota = amount := by
      cases trust with
      | true =>
        simp only [if_true] at effective
        omega
      | false => exact ⟨rfl, effective⟩
    rw [if_pos positive] at charged
    have moved :=
      @RequestScope.view_tokenMoved session.relayInfo.scope node.db paid _
        (preConsumeTokenQuota_spec positive charged).1
    have absentPaid : (session.relayInfo.scope.view paid).record = none := by
      rw [moved.1]
      exact absent positive rfl
    obtain ⟨nothing, _⟩ | ⟨_, rfl, owns, view⟩ :=
      preConsume_spec keyed (fun _ => absentPaid) walletDone
    · omega
    · have untrusted : session.trusted = false := by
        cases trusted : session.trusted with
        | false => rfl
        | true =>
          obtain ⟨_, ⟨missing, _⟩ | ⟨record, found, status, _⟩⟩ :=
            opens (by simp [trusted]) positive
          · rw [view] at missing
            cases missing
          · rw [view] at found
            cases found
            cases status
      obtain rfl := idle (Or.inl (by simp [untrusted]))
      refine ⟨owns ∘ moved.2, ?_⟩
      rw [view, moved.1, if_pos positive, Bool.or_false]
      exact PreConsumeCase.taken rfl positive
  · rw [if_neg positive] at charged
    cases charged
    obtain ⟨_, rfl, rfl⟩ | ⟨contrary, _⟩ :=
      preConsume_spec keyed (fun taken => absurd taken positive) walletDone
    · rw [if_neg positive, ← wallet, ← effective]
      by_cases trusted : trust = true ∧ 0 < quota
      · obtain ⟨owns, ⟨absent, view⟩ | ⟨record, found, status, view⟩⟩ :=
          opens (by simp [trusted.1]) trusted.2
        · refine ⟨owns, ?_⟩
          rw [view, trusted.1, Bool.or_true, if_pos rfl]
          exact PreConsumeCase.trusted rfl trusted.2 absent
        · refine ⟨owns, ?_⟩
          rw [view, trusted.1, Bool.or_true, if_pos rfl]
          exact PreConsumeCase.renewed rfl found status
      · have nothing : quota ≤ 0 := by
          cases trust with
          | true => simpa using trusted
          | false =>
            simp only [Bool.false_eq_true, if_false] at effective
            omega
        obtain rfl := idle (Or.inr nothing)
        exact ⟨id, PreConsumeCase.nothing nothing⟩
    · omega

def Sated (session : BillingSession) (targetQuota : Int) : Prop :=
  session.settled = true ∨ session.refunded = true ∨ targetQuota ≤ session.preConsumedQuota

theorem reserve_ok {target : Int}
    (called : session.reserve node now target = ⟨.ok (), next, after⟩) :
    (session.Sated target ∧ next = session ∧ after = node) ∨
      ¬session.Sated target ∧
        ∃ paid fundingNext reserved,
          let delta := target - session.preConsumedQuota
          session.reserveToken node.db delta = .ok paid ∧
            session.reserveFunding paid now delta = .ok (fundingNext, reserved) ∧
            next =
              { session with
                trusted := false
                funding := fundingNext
                preConsumedQuota := session.preConsumedQuota + delta
                tokenConsumed := session.tokenConsumed + delta
                extraReserved := session.extraReserved + delta } ∧
            after = { node with db := reserved } := by
  unfold reserve at called
  split at called
  · rename_i sated
    cases called
    exact Or.inl ⟨sated, rfl, rfl⟩
  · rename_i hungry
    refine Or.inr ⟨hungry, ?_⟩
    dsimp only at called
    split at called
    · cases called
    rename_i paid charged
    split at called
    · cases called
    rename_i fundingNext reserved funded
    cases called
    exact ⟨paid, fundingNext, reserved, charged, funded, rfl, rfl⟩

theorem reserveToken_spec {paid : Database} {delta : Int} (positive : 0 < delta)
    (done : session.reserveToken db delta = .ok paid) :
    TokenMoved db paid session.relayInfo.tokenId (session.relayInfo.takeToken delta) ∧
      (session.relayInfo.isPlayground = false →
        ∃ token, db.tokens.lookup session.relayInfo.tokenId = some token) := by
  unfold reserveToken at done
  split at done
  · rename_i idle
    have playground : session.relayInfo.isPlayground = true := by
      rcases idle with nothing | playground
      · omega
      · exact playground
    cases done
    refine ⟨tokenMoved_unchanged (fun token _ => ?_), fun real => ?_⟩
    · rw [takeToken, if_pos playground]
    · rw [playground] at real
      cases real
  · exact preConsumeTokenQuota_spec positive done

theorem reserve_wallet {target : Int} (wallet : session.funding = .wallet funding)
    (unkeyed :
      session.relayInfo.requestId = "" → (session.relayInfo.scope.view node.db).record = none)
    (called : session.reserve node now target = ⟨.ok (), next, after⟩) :
    (session.Sated target ∧ next = session ∧ after = node) ∨
      ¬session.Sated target ∧
        let delta := target - session.preConsumedQuota
        let view := session.relayInfo.scope.view node.db
        next =
            { session with
              trusted := false
              funding := .wallet ⟨funding.consumed + delta⟩
              preConsumedQuota := session.preConsumedQuota + delta
              tokenConsumed := session.tokenConsumed + delta
              extraReserved := session.extraReserved + delta } ∧
          (session.relayInfo.scope.OwnsRows node.db → session.relayInfo.scope.OwnsRows after.db) ∧
          (∀ record, view.record = some record →
            record.userID = session.relayInfo.userId ∧ record.status.isOpen = true) ∧
          session.relayInfo.scope.view after.db =
            { view with
              quota := view.quota + -delta
              token := view.token.map (session.relayInfo.takeToken delta)
              record := view.record.map (·.raised now delta) } := by
  obtain idle | ⟨hungry, paid, fundingNext, reserved, charged, funded, rfl,
      rfl⟩ := reserve_ok called
  · exact Or.inl idle
  · refine Or.inr ⟨hungry, ?_⟩
    have positive : 0 < target - session.preConsumedQuota := by
      unfold Sated at hungry
      push Not at hungry
      omega
    have moved :=
      @RequestScope.view_tokenMoved session.relayInfo.scope node.db paid _
        (reserveToken_spec positive charged).1
    unfold reserveFunding at funded
    rw [wallet] at funded
    obtain ⟨⟨walletNext, walletDb⟩, walletDone, mapped⟩ := map_eq_ok_iff.mp funded
    cases mapped
    have unkeyedPaid :
        session.relayInfo.requestId = "" → (session.relayInfo.scope.view paid).record = none := by
      rw [moved.1]
      exact unkeyed
    obtain ⟨rfl, owns, records, view⟩ := reserveWalletFunding_spec positive unkeyedPaid walletDone
    rw [moved.1] at records view
    exact ⟨rfl, owns ∘ moved.2, records, view⟩

theorem needsRefund_active (needs : session.needsRefund = true) :
    session.settled = false ∧ session.refunded = false ∧ session.fundingSettled = false := by
  unfold needsRefund at needs
  split at needs
  · cases needs
  rename_i active
  simp only [Bool.or_eq_true, not_or, Bool.not_eq_true] at active
  exact ⟨active.1.1, active.1.2, active.2⟩

theorem refundToken_spec {paid : Database} {adjusted : Bool × TokenQuotaDelta}
    (real : session.relayInfo.isPlayground = false)
    (done : session.refundToken db = .ok (adjusted, paid)) :
    TokenMoved db paid session.relayInfo.tokenId
      (fun token =>
        if 0 < session.tokenConsumed then token.increase session.tokenConsumed
        else
          token) := by
  unfold refundToken at done
  split at done
  · rename_i held
    simp only [held.1, if_true]
    exact adjustTokenQuotaForSettlementTracked_credit held.1 real done
  · rename_i nothing
    cases done
    have empty : ¬0 < session.tokenConsumed := fun held => nothing ⟨held, real⟩
    exact tokenMoved_unchanged (fun token _ => if_neg empty)

theorem refund_wallet (wallet : session.funding = .wallet funding)
    (keyed : session.relayInfo.requestId ≠ "")
    (real : session.relayInfo.isPlayground = false) (early : session.ledgerActive = false)
    (owner :
      ∀ record,
        (session.relayInfo.scope.view node.db).record = some record →
          record.userID = session.relayInfo.userId)
    (called : session.refund node now = ⟨.ok (), next, after⟩) :
    (session.needsRefund = false ∧ next = session ∧ after = node) ∨
      session.needsRefund = true ∧
        let view := session.relayInfo.scope.view node.db
        (∃ left,
          next = { session with funding := .wallet left, refunded := true }) ∧
          session.relayInfo.scope.view after.db =
            { view with
              quota := view.quota + earlyCredit view.record funding.consumed
              token := view.token.map (fun token =>
                  if 0 < session.tokenConsumed then token.increase session.tokenConsumed
                  else token)
              record := view.record.map (·.returned now) } := by
  unfold refund at called
  cases needs : session.needsRefund with
  | false =>
    rw [needs] at called
    simp only [Bool.not_false, Bool.or_true, if_true] at called
    cases called
    exact Or.inl ⟨rfl, rfl, rfl⟩
  | true =>
    obtain ⟨unsettled, unrefunded, _⟩ := needsRefund_active needs
    simp only [unsettled, unrefunded, needs, early, Bool.or_false,
      Bool.not_true, Bool.false_eq_true, if_false] at called
    refine Or.inr ⟨rfl, ?_⟩
    unfold refundBeforeLedger at called
    have noExtra : session.refundExtra node.db = .ok (0, node.db) := by rw [refundExtra, wallet]
    rw [noExtra] at called
    dsimp only at called
    split at called
    · cases called
    rename_i adjusted tokenDelta paid tokenDone
    have moved :=
      @RequestScope.view_tokenMoved session.relayInfo.scope node.db paid _
        (refundToken_spec real tokenDone)
    split at called
    · rename_i fundingNext returned fundingDone
      cases called
      rw [wallet] at fundingDone
      obtain ⟨⟨left, walletDb⟩, walletDone, mapped⟩ := map_eq_ok_iff.mp fundingDone
      cases mapped
      have ownerPaid :
          ∀ record,
            (session.relayInfo.scope.view paid).record = some record →
              record.userID = session.relayInfo.userId := by
        intro record found
        rw [moved.1] at found
        exact owner record found
      obtain ⟨_, view⟩ := refund_spec keyed ownerPaid walletDone
      rw [moved.1] at view
      exact ⟨⟨left, rfl⟩, view⟩
    · cases called

inductive SettleProgress (now : Int) (req : BillingAdjustmentRequest) (start : RequestView) :
    RequestView → Prop
  | untouched : SettleProgress now req start start
  | staged (absent : start.row = none) :
      SettleProgress now req start { start with row := some (req.pendingRow now 0) }
  | settled
      {row : BillingAdjustment}
      (settles : start.row = some row ∨ start.row = none ∧ row = req.pendingRow now 0)
      (same : req.same row = true)
      (pending : row.status = .pending) :
      SettleProgress now req start { start.settle now row with row := some (row.settled now) }

section Progress

variable {scope : RequestScope} {req : BillingAdjustmentRequest}
variable {start : RequestView} {db mid : Database}

theorem SettleProgress.ensure (sends : scope.Sends req)
    (progress : SettleProgress now req start (scope.view db))
    (done : ensurePendingBillingAdjustment db now req = .ok mid) :
    SettleProgress now req start (scope.view mid) := by
  obtain ⟨_, ⟨row, settles, same, active, view⟩, _⟩ :=
    ensurePendingBillingAdjustment_spec sends done
  rw [view]
  rcases settles with found | ⟨absent, rfl⟩
  · rw [← found]
    exact progress
  · generalize scope.view db = current at progress absent
    cases progress with
    | untouched => exact SettleProgress.staged absent
    | staged | settled => cases absent

theorem SettleProgress.apply {outcome : ApplyOutcome}
    (sends : scope.Sends req) (nonempty : scope.requestID ≠ "") (owns : scope.OwnsKey db)
    (progress : SettleProgress now req start (scope.view db))
    (done : applyBillingAdjustment db now req = .ok (outcome, mid)) :
    SettleProgress now req start (scope.view mid) := by
  obtain ⟨_, shape, _⟩ := applyBillingAdjustment_cases sends nonempty owns done
  generalize scope.view mid = final at shape
  cases shape with
  | replayed => exact progress
  | settled settles same pending =>
    unfold SettlesRow at settles
    generalize scope.view db = current at progress settles ⊢
    cases progress with
    | untouched => exact SettleProgress.settled settles same pending
    | staged absent =>
      rcases settles with found | ⟨missing, _⟩
      · cases found
        exact SettleProgress.settled (Or.inr ⟨absent, rfl⟩) same pending
      · cases missing
    | settled =>
      rcases settles with found | ⟨missing, _⟩
      · cases found
        cases pending
      · cases missing

theorem settleProgress_kept (sends : scope.Sends req) (nonempty : scope.requestID ≠ "") :
    KeptBySettle now req (fun db =>
      scope.OwnsKey db ∧ SettleProgress now req start (scope.view db)) where
  ensure := by
    rintro db mid ⟨owns, progress⟩ done
    refine ⟨?_, progress.ensure sends done⟩
    obtain ⟨_, ⟨row, settles, _, _, view⟩, _⟩ := ensurePendingBillingAdjustment_spec sends done
    intro stored found
    rw [view] at found
    cases found
    exact settles.carries sends owns
  apply := by
    rintro db outcome mid ⟨owns, progress⟩ done
    refine ⟨?_, progress.apply sends nonempty owns done⟩
    obtain ⟨_, shape, _⟩ := applyBillingAdjustment_cases sends nonempty owns done
    intro stored found
    generalize scope.view mid = final at shape found
    cases shape with
    | replayed => exact owns stored found
    | settled settles =>
      cases found
      exact (settles.carries sends owns).settled now

end Progress

theorem sends_billingAdjustmentRequest (wallet : session.funding = .wallet funding)
    (keyed : session.relayInfo.requestId ≠ "") (actual : Int) :
    session.relayInfo.scope.Sends (session.billingAdjustmentRequest actual) := by
  refine ⟨?_, rfl, rfl, rfl, ?_⟩
  · exact if_neg keyed
  · change session.funding.source = .wallet
    rw [wallet]
    rfl

variable {actual : Int}

theorem settle_wallet (wallet : session.funding = .wallet funding)
    (keyed : session.relayInfo.requestId ≠ "") (owns : session.relayInfo.scope.OwnsKey node.db)
    (called : session.settle node now actual = ⟨.ok (), next, after⟩) :
    (session.settled = true ∧ next = session ∧ after = node) ∨
      session.settled = false ∧
        next = ({ session with ledgerActive := true } : BillingSession).finishSettle actual ∧
        session.relayInfo.scope.OwnsKey after.db ∧
        SettleProgress now (session.billingAdjustmentRequest actual)
          (session.relayInfo.scope.view node.db)
          (session.relayInfo.scope.view after.db) ∧
        ∃ row, (session.relayInfo.scope.view after.db).row = some row ∧ row.status = .applied := by
  unfold settle at called
  split at called
  · rename_i settled
    cases called
    exact Or.inl ⟨settled, rfl, rfl⟩
  · rename_i unsettled
    have enabled : session.idempotentEnabled = true := decide_eq_true keyed
    refine Or.inr ⟨by simpa using unsettled, ?_⟩
    split at called
    · cases called
    rw [if_pos enabled] at called
    unfold settleIdempotentLocked at called
    dsimp only at called
    split at called
    · cases called
    split at called
    · cases called
    rename_i final ran
    cases called
    have sends := sends_billingAdjustmentRequest wallet keyed actual
    have nonempty : (session.billingAdjustmentRequest actual).idempotencyKey ≠ "" := by
      rw [sends.key]
      exact billingAdjustmentKey_ne_empty session.relayInfo.requestId
    obtain ⟨⟨ownsAfter, progress⟩, applied⟩ :=
      (settleProgress_kept sends keyed).settleThroughLedger nonempty
        ⟨owns, SettleProgress.untouched⟩ ran
    obtain ⟨row, located, status⟩ := applied rfl
    refine ⟨rfl, ownsAfter, progress, row, ?_, status⟩
    change
      after.db.billingAdjustments.lookup
        (billingAdjustmentKey session.relayInfo.requestId) = some row
    have key : billingAdjustmentKey session.relayInfo.requestId =
          (session.billingAdjustmentRequest actual).idempotencyKey :=
      sends.key.symm
    rw [key]
    exact located

/-! ## Delivered responses and rollbacks -/

inductive DeliveredView (now : Int) (req : BillingAdjustmentRequest) (start : RequestView) :
    RequestView → Prop
  | kept
      {row : BillingAdjustment}
      (found : start.row = some row) (applied : row.status = .applied) :
      DeliveredView now req start start
  | settled
      {row : BillingAdjustment}
      (settles : start.row = some row ∨ start.row = none ∧ row = req.pendingRow now 0)
      (same : req.same row = true)
      (pending : row.status = .pending) :
      DeliveredView now req start { start.settle now row with row := some (row.settled now) }
  | recharged
      {row : BillingAdjustment}
      (found : start.row = some row) (rolledBack : row.status = .rolledBack) :
      DeliveredView now req start
        { start.settle now (row.recharged req) with row := some ((row.recharged req).settled now) }

/-- The rows before the charge of a delivered response is collected: staging
may have inserted the row. -/
def StagedFrom (now : Int) (req : BillingAdjustmentRequest) (start view : RequestView) :
    Prop :=
  view = start ∨ start.row = none ∧ view = { start with row := some (req.pendingRow now 0) }

variable {scope : RequestScope} {req : BillingAdjustmentRequest} {start : RequestView}

theorem stagedFrom_kept (sends : scope.Sends req) : KeptByEnsure now req (fun db =>
      scope.OwnsKey db ∧ StagedFrom now req start (scope.view db)) where
  ensure := by
    rintro db mid ⟨owns, staged⟩ done
    obtain ⟨_, ⟨row, settles, same, active, view⟩, _⟩ :=
      ensurePendingBillingAdjustment_spec sends done
    constructor
    · intro stored found
      rw [view] at found
      cases found
      exact settles.carries sends owns
    · rw [view]
      rcases settles with found | ⟨absent, rfl⟩
      · rw [← found]
        exact staged
      · rcases staged with same | ⟨_, inserted⟩
        · rw [same] at absent ⊢
          exact Or.inr ⟨absent, rfl⟩
        · rw [inserted] at absent
          cases absent

theorem deliveredView_of_collect {final : RequestView} {outcome : CollectOutcome}
    (staged : StagedFrom now req start (scope.view db))
    (shape : CollectCase scope db now req outcome final) :
    DeliveredView now req start final := by
  rcases staged with same | ⟨absent, inserted⟩
  · cases shape with
    | kept found applied =>
      rw [same] at found ⊢
      exact DeliveredView.kept found applied
    | settled settles matching pending =>
      unfold SettlesRow at settles
      rw [same] at settles ⊢
      exact DeliveredView.settled settles matching pending
    | recharged found rolledBack =>
      rw [same] at found ⊢
      exact DeliveredView.recharged found rolledBack
  · cases shape with
    | kept found applied =>
      rw [inserted] at found
      cases found
      cases applied
    | settled settles matching pending =>
      unfold SettlesRow at settles
      rw [inserted] at settles ⊢
      rcases settles with found | ⟨missing, _⟩
      · cases found
        exact DeliveredView.settled (Or.inr ⟨absent, rfl⟩) matching pending
      · cases missing
    | recharged found rolledBack =>
      rw [inserted] at found
      cases found
      cases rolledBack

def delivered (session : BillingSession) (charged : Int) : BillingSession :=
  { session with
    ledgerActive := true
    fundingSettled := true
    deliveredQuota := charged
    settled := true
    settleErr := none
    refunded := false }

theorem collectDelivered_wallet {result : Int × Bool}
    (sends : session.relayInfo.scope.Sends req) (keyed : session.relayInfo.requestId ≠ "")
    (owns : session.relayInfo.scope.OwnsKey node.db)
    (staged : StagedFrom now req start (session.relayInfo.scope.view node.db))
    (called : session.collectDelivered node now req = ⟨.ok result, next, after⟩) :
    next = session.delivered result.1 ∧ session.relayInfo.scope.OwnsKey after.db ∧
      DeliveredView now req start (session.relayInfo.scope.view after.db) := by
  unfold collectDelivered at called
  split at called
  · cases called
  rename_i outcome db collected
  cases called
  obtain ⟨_, shape, _⟩ := collectDeliveredBillingCharge_cases sends keyed owns collected
  refine ⟨rfl, ?_, deliveredView_of_collect staged shape⟩
  intro stored found
  generalize session.relayInfo.scope.view db = final at shape found
  cases shape with
  | kept => exact owns stored found
  | settled settles =>
    cases found
    exact (settles.carries sends owns).settled now
  | recharged located =>
    cases found
    exact (sends.carries_recharged (owns _ located)).settled now

section

variable (wallet : session.funding = .wallet funding) (keyed : session.relayInfo.requestId ≠ "")
include wallet keyed

theorem acceptDeliveredSettlement_wallet {result : Int × Bool}
    (owns : session.relayInfo.scope.OwnsKey node.db)
    (called : session.acceptDeliveredSettlement node now actual = ⟨.ok result, next, after⟩) :
    (session.settled = true ∧ next = session ∧ after = node) ∨
      session.settled = false ∧
        next = session.delivered result.1 ∧
        session.relayInfo.scope.OwnsKey after.db ∧
        DeliveredView now (session.billingAdjustmentRequest actual)
          (session.relayInfo.scope.view node.db)
          (session.relayInfo.scope.view after.db) := by
  have sends := sends_billingAdjustmentRequest wallet keyed actual
  have nonempty : (session.billingAdjustmentRequest actual).idempotencyKey ≠ "" := by
    rw [sends.key]
    exact billingAdjustmentKey_ne_empty session.relayInfo.requestId
  have enabled : session.idempotentEnabled = true := decide_eq_true keyed
  unfold acceptDeliveredSettlement at called
  split at called
  · rename_i settled
    cases called
    exact Or.inl ⟨settled, rfl, rfl⟩
  · rename_i unsettled
    refine Or.inr ⟨by simpa using unsettled, ?_⟩
    rw [if_neg (by simp [enabled])] at called
    split at called
    · cases called
    dsimp only at called
    rcases staging :
      stageDurableBillingAdjustment node now
        (session.billingAdjustmentRequest actual) with ⟨stage, mid⟩
    obtain ⟨ownsMid, staged⟩ :=
      (stagedFrom_kept sends).stageDurable nonempty ⟨owns, Or.inl rfl⟩ staging
    rw [staging] at called
    split at called
    · rename_i equal
      cases equal
      exact collectDelivered_wallet sends keyed ownsMid staged called
    · rename_i err _ equal
      cases equal
      split at called
      · cases called
      exact collectDelivered_wallet sends keyed ownsMid staged called

theorem returns_reservationRefund :
    session.relayInfo.scope.Returns session.reservationRefund := by
  refine ⟨if_neg keyed, rfl, rfl, rfl, ?_⟩
  change session.funding.source = .wallet
  rw [wallet]
  rfl

end

theorem refundBillingReservation_applied {after : Database}
    {req : BillingReservationRefund} {writes : List CacheWrite} {row : BillingAdjustment}
    (returns : scope.Returns req) (owns : scope.OwnsKey db)
    (found : (scope.view db).row = some row) (applied : row.status = .applied) :
    refundBillingReservation db now req ≠ .ok (writes, after) := by
  intro done
  obtain ⟨_, shape, _⟩ := refundBillingReservation_cases returns owns done
  generalize scope.view after = final at shape
  cases shape with
  | kept located rolledBack =>
    rw [found] at located
    cases located
    rw [applied] at rolledBack
    cases rolledBack
  | returned returned pending =>
    unfold ReturnsRow at returned
    rw [found] at returned
    rcases returned with same | ⟨missing, _⟩
    · cases same
      rw [applied] at pending
      cases pending
    · cases missing

theorem rollback_applied {row : BillingAdjustment} (wallet : session.funding = .wallet funding)
    (keyed : session.relayInfo.requestId ≠ "") (owns : session.relayInfo.scope.OwnsKey node.db)
    (ledger : session.ledgerActive = true)
    (found : (session.relayInfo.scope.view node.db).row = some row)
    (applied : row.status = .applied)
    (called : session.rollback node now actual = ⟨.ok (), next, after⟩) :
    ((actual ≤ 0 ∨ session.refunded = true) ∧ next = session ∧ after = node) ∨
      session.refunded = false ∧ next = session.emptied ∧
        session.relayInfo.scope.view after.db =
          { (session.relayInfo.scope.view node.db).returnCharge row with
            row := some (row.refunded now row.chargeQuota) } := by
  unfold rollback at called
  split at called
  · rename_i idle
    cases called
    exact Or.inl ⟨idle, rfl, rfl⟩
  · rename_i active
    push Not at active
    refine Or.inr ⟨by simpa using active.2, ?_⟩
    unfold rollbackIdempotent at called
    have key : session.key = session.relayInfo.scope.key := if_neg keyed
    rw [key] at called
    cases rolled : rollbackBillingAdjustment node.db now session.relayInfo.scope.key actual with
    | error err =>
      rw [rolled] at called
      cases err with
      | billingAdjustmentAbsent =>
        cases refunded : refundBillingReservation node.db now session.reservationRefund with
        | error err =>
          rw [refunded] at called
          cases called
        | ok result =>
          exact absurd refunded
              (refundBillingReservation_applied (returns_reservationRefund wallet keyed) owns found
                applied)
      | _ => cases called
    | ok result =>
      obtain ⟨writes, db⟩ := result
      rw [rolled] at called
      cases called
      refine ⟨rfl, ?_⟩
      obtain ⟨shape, _⟩ := rollbackBillingAdjustment_cases owns rolled
      generalize session.relayInfo.scope.view db = final at shape
      cases shape with
      | kept located rolledBack =>
        rw [found] at located
        cases located
        rw [applied] at rolledBack
        cases rolledBack
      | returned located pending =>
        rw [found] at located
        cases located
        rw [applied] at pending
        cases pending
      | reversed located =>
        rw [found] at located
        cases located
        rfl

end BillingSession

end NewApi.Billing
