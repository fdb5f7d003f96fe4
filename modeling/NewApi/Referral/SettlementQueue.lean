import Mathlib.Algebra.Order.Group.Int
import NewApi.Lib.BatchQueue
import NewApi.Referral.PaidOnce

/-!
# The settlement queue

A settlement run takes the first two hundred due commissions and leaves those
of an affiliate that does not settle.  So a run drains the queue as
`BatchQueue.drain` says; `RunSettlementBatchInline` gives up the whole run when
an affiliate of its batch is missing.
-/

namespace NewApi.Referral

open Transactions BatchQueue KeyedTable ReferralDatabase

/-! ## Lines of settled commissions -/

section Lines

variable {db later : ReferralDatabase} {now : Int}

/-- Only a settled commission has the ledger line of a settlement. -/
def SettleLinesUsed (db : ReferralDatabase) : Prop :=
  ∀ id line, db.ledger.lookup (.settle id) = some line →
    ∃ entry, db.owed id = some entry ∧ entry.settled = true

theorem SettleLinesUsed.frame (used : SettleLinesUsed db) (sameLedger : later.ledger = db.ledger)
    (sameOwed : later.owed = db.owed) :
    SettleLinesUsed later := by
  intro id line found
  rw [sameLedger] at found
  rw [sameOwed]
  exact used id line found

variable {line : ReferralCommissionLedger}

theorem SettleLinesUsed.posted (used : SettleLinesUsed db)
    (other : ∀ id, line.externalRefId ≠ .settle id) (posting : createLedgerTx db line = .ok later) :
    SettleLinesUsed later := by
  obtain ⟨ledger, created, rfl⟩ := createLedgerTx_cases posting
  intro id stored found
  rw [(lookup_create created).2, if_neg (other id)] at found
  exact used id stored found

theorem SettleLinesUsed.enter {entered : Int} {entry : Owed}
    (used : SettleLinesUsed db) (sameLedger : later.ledger = db.ledger)
    (free : ∀ entry, db.owed entered = some entry → entry.settled = false)
    (owed : ∀ other, later.owed other = if entered = other then some entry else db.owed other) :
    SettleLinesUsed later := by
  intro id line found
  rw [sameLedger] at found
  obtain ⟨old, oldFound, settled⟩ := used id line found
  have different : entered ≠ id := by
    rintro rfl
    rw [free old oldFound] at settled
    cases settled
  exact ⟨old, by rw [owed, if_neg different]; exact oldFound, settled⟩

theorem owed_of_sameDocuments (same : SameDocuments db later) : later.owed = db.owed := by
  funext id
  simp only [owed, same.1]

variable {affiliateId : Int}

theorem ledger_opened {userId : Int} {account : ReferralCommissionAccount}
    (opening : getOrCreateAccountTx db affiliateId userId = .ok (later, account)) :
    later.ledger = db.ledger := by
  obtain ⟨laterEq, _, _⟩ := getOrCreateAccountTx_cases opening
  rw [laterEq]

variable {guard : ReferralCommissionAccount → Bool}
  {update : ReferralCommissionAccount → ReferralCommissionAccount}

theorem ledger_updated (moved : updateAccount db affiliateId guard update = some later) :
    later.ledger = db.ledger := by
  obtain ⟨_, _, _, rfl⟩ := updateAccount_cases moved
  rfl

section

variable (used : SettleLinesUsed db)
include used

theorem SettleLinesUsed.updated (moved : updateAccount db affiliateId guard update = some later) :
    SettleLinesUsed later :=
  used.frame (ledger_updated moved) (owed_of_sameDocuments (sameDocuments_updated moved))

theorem SettleLinesUsed.withdrawals (withdrawals : KeyedTable ReferralWithdrawal.id) :
    SettleLinesUsed { db with withdrawals := withdrawals } :=
  used

theorem SettleLinesUsed.ended {withdrawal : ReferralWithdrawal} {updated itemed : ReferralDatabase}
    {withdrawalId : Int} {change : ReferralWithdrawalItem → ReferralWithdrawalItem}
    (moved : updateAccount (db.saveWithdrawal withdrawal) affiliateId guard update = some updated)
    (loop : (updated.frozenItems withdrawalId).foldlM (endItem now change) updated = .ok itemed)
    (other : ∀ id, line.externalRefId ≠ .settle id)
    (posting : createLedgerTx itemed line = .ok later) :
    SettleLinesUsed later := by
  have savedUsed : SettleLinesUsed (db.saveWithdrawal withdrawal) := used.withdrawals _
  have itemedUsed : SettleLinesUsed itemed :=
    (savedUsed.updated moved).frame (endItems_frame loop).ledger (owed_endItems loop)
  exact itemedUsed.posted other posting

theorem SettleLinesUsed.settled
    {row : ReferralCommission} {updated : ReferralDatabase} {userId : Int}
    (found : db.commissions.lookup row.id = some row) (pending : row.status = .pending)
    (moved :
      updateAccount { db with commissions := db.commissions.save (settledRow row now) }
        affiliateId guard update = some updated)
    (posting : createLedgerTx updated (settleLine row userId) = .ok later) :
    SettleLinesUsed later := by
  have entered : SettleLinesUsed updated := by
    have saved :
        SettleLinesUsed
          { db with
            commissions := db.commissions.save (settledRow row now) } := by
      refine used.enter ?_ (owed_pending found pending) (owed_settled found)
      rfl
    exact saved.updated moved
  have owedLater : later.owed row.id = some ⟨row.commissionAmount, true⟩ := by
    rw [owed_of_sameDocuments (sameDocuments_posted posting),
      owed_of_sameDocuments (sameDocuments_updated moved), owed_settled found, if_pos rfl]
  intro id line stored
  by_cases same : row.id = id
  · exact ⟨_, same ▸ owedLater, rfl⟩
  obtain ⟨ledger, created, laterEq⟩ := createLedgerTx_cases posting
  rw [laterEq] at stored ⊢
  have different : (settleLine row userId).externalRefId ≠ .settle id := by
    intro equal
    exact same (ExternalRef.settle.inj equal)
  rw [(lookup_create created).2, if_neg different] at stored
  exact entered id line stored

end

theorem SettleLinesUsed.transition {Amounts : Int → Prop} (transition : Transition Amounts db later)
    (used : SettleLinesUsed db) :
    SettleLinesUsed later := by
  cases transition with
  | jobs jobs => exact used.frame rfl rfl
  | opened opening =>
    exact used.frame (ledger_opened opening) (owed_of_sameDocuments (sameDocuments_opened opening))
  | @accrued opened updated _ commission commissions account userId created
      newId unique pending positive opening moved posting =>
      have entered : SettleLinesUsed { db with commissions := commissions } := by
        refine used.enter ?_ ?_ (owed_created created)
        · rfl
        · intro entry found
          simp [owed, (lookup_create created).1] at found
      have openedUsed : SettleLinesUsed opened :=
        entered.frame (ledger_opened opening) (owed_of_sameDocuments (sameDocuments_opened opening))
      exact (openedUsed.updated moved).posted (fun id same => by cases same) posting
  | settled now found pending allowed moved posting =>
    exact used.settled found pending moved posting
  | booked now newId owner pending positive booking =>
    obtain ⟨updated, withdrawals, itemed, moved, _, allocation, posting⟩ :=
      bookWithdrawalTx_cases booking
    have updatedUsed : SettleLinesUsed { updated with withdrawals := withdrawals } :=
      (used.updated moved).withdrawals withdrawals
    have itemedUsed : SettleLinesUsed itemed :=
      updatedUsed.frame (allocateWithdrawalItemsTx_frame allocation).ledger
        (owed_allocateWithdrawalItemsTx allocation)
    exact itemedUsed.posted (fun id same => by cases same) posting
  | @approved _ withdrawal review _ found pending lineAffiliate lineDelta lineReference
      posting =>
      have saved : SettleLinesUsed
          (db.saveWithdrawal { withdrawal with status := .approved, review := review }) :=
        used.withdrawals _
      exact saved.posted lineReference posting
  | released now found isOpen closed lineReference release =>
    obtain ⟨updated, update, release⟩ := bind_ok_iff.mp release
    obtain ⟨itemed, loop, posting⟩ := bind_ok_iff.mp release
    exact used.ended (requireRow_eq_ok.mp update) loop lineReference posting
  | paid now found approved payment =>
    obtain ⟨updated, update, payment⟩ := bind_ok_iff.mp payment
    obtain ⟨itemed, loop, posting⟩ := bind_ok_iff.mp payment
    exact used.ended (requireRow_eq_ok.mp update) loop (fun id same => by cases same) posting
  | adjusted lineAffiliate lineDelta lineReference posting moved =>
    exact (used.posted lineReference posting).updated moved

end Lines

/-! ## One commission -/

section Rows

variable {db later : ReferralDatabase} {now : Int}

structure Settleable (db : ReferralDatabase) : Prop where
  books : Books db
  used : SettleLinesUsed db

theorem Settleable.transition {Amounts : Int → Prop} (transition : Transition Amounts db later)
    (settleable : Settleable db) :
    Settleable later :=
  ⟨settleable.books.transition transition, settleable.used.transition transition⟩

theorem settleable_empty : Settleable empty := by
  refine ⟨books_empty, ?_⟩
  intro id line found
  cases found

theorem Settleable.execute (settleable : Settleable db) (calls : List ReferralCall) :
    Settleable (execute referralStep db calls) := by
  induction calls generalizing db with
  | nil => exact settleable
  | cons call rest ih =>
    apply ih
    exact referralStep_invariant (fun _ _ transition kept => kept.transition transition)
        (call.operation.settlesOnly_true db) settleable

variable {commission : ReferralCommission}

section

variable (settleable : Settleable db)
  (found : db.commissions.lookup commission.id = some commission)
  (pending : commission.status = .pending)
include settleable found pending

theorem Settleable.account :
    ∃ account, db.accounts.lookup commission.affiliateId = some account ∧
      commission.commissionAmount ≤ account.pendingAmount := by
  have listed : commission ∈ db.commissions.rows := (lookup_eq_some_iff.mp found).1
  have positive := settleable.books.commissionsPositive commission listed
  have covered : commission.commissionAmount ≤ db.pendingCommissions commission.affiliateId := by
    have nonnegative : ∀ row ∈ db.commissions.rows,
        (0 : Int) ≤
          if row.affiliateId = commission.affiliateId ∧ row.status = .pending
          then row.commissionAmount else 0 := by
      intro row rowListed
      have rowPositive := settleable.books.commissionsPositive row rowListed
      split <;> omega
    have single := db.commissions.le_total_of_mem nonnegative listed
    simp only [pending, and_self, if_true] at single
    exact single
  have documented := settleable.books.documented commission.affiliateId .pending nofun
  change db.balance commission.affiliateId .pending =
    db.pendingCommissions commission.affiliateId at documented
  cases stored : db.accounts.lookup commission.affiliateId with
  | none =>
    simp only [balance, stored, Option.map_none, Option.getD_none] at documented
    omega
  | some account =>
    rw [balance_of_lookup stored] at documented
    refine ⟨account, rfl, ?_⟩
    change account.pendingAmount = _ at documented
    omega

theorem Settleable.settleCommissionTx {affiliate : ReferralAffiliate}
    (owner : affiliate.id = commission.affiliateId) :
    ∃ later,
      Referral.settleCommissionTx now db affiliate commission = .ok (later, true) ∧
        later.commissions = db.commissions.save (settledRow commission now) ∧ Settleable later := by
  obtain ⟨account, stored, covered⟩ := settleable.account found pending
  have accountKey : account.affiliateId = commission.affiliateId := key_of_lookup stored
  have opening : getOrCreateAccountTx db affiliate.id affiliate.userId = .ok (db, account) := by
    rw [owner]
    simp only [getOrCreateAccountTx, stored]
  have unposted : db.ledger.lookup (.settle commission.id) = none := by
    cases line : db.ledger.lookup (.settle commission.id) with
    | none => rfl
    | some posted =>
      obtain ⟨entry, entryFound, settled⟩ := settleable.used _ _ line
      rw [owed_pending found pending entry entryFound] at settled
      cases settled
  have fresh : db.ledger.lookup
      (settleLine commission affiliate.userId).externalRefId = none := unposted
  obtain ⟨ledger, created⟩ := exists_create fresh
  have settles : Referral.settleCommissionTx now db affiliate commission =
        .ok
          ({ db with
              accounts := db.accounts.save (account.settle commission.commissionAmount)
              commissions := db.commissions.save (settledRow commission now)
              ledger := ledger },
            true) := by
    simp only [Referral.settleCommissionTx, opening, bind, Except.bind, found,
      pending, ne_eq, not_true_eq_false, if_false, updateAccount, accountKey,
      stored, covered, decide_true, if_true, requireRow, createLedgerTx, created]
    rfl
  refine ⟨_, settles, rfl, ?_⟩
  have owed : StillOwed [commission] db := by
    intro other listed row rowFound
    rw [List.mem_singleton.mp listed] at rowFound ⊢
    rw [found] at rowFound
    cases rowFound
    exact ⟨rfl, rfl⟩
  have changes : Changes (fun _ => True) db _ :=
    (settleCommissionTx_changes owed List.mem_cons_self owner trivial settles).1
  exact changes.invariant (fun _ _ transition kept => kept.transition transition) settleable

end

/-- The affiliate of the commission is approved with settlement enabled. -/
def eligible (affiliates : List ReferralAffiliate) (commission : ReferralCommission) :
    Bool :=
  match affiliates.find? (fun row => row.id = commission.affiliateId) with
  | none => false
  | some affiliate => affiliate.settles

def affiliateMissing (affiliates : List ReferralAffiliate) (commission : ReferralCommission) :
    Bool :=
  (affiliates.find? (fun row => row.id = commission.affiliateId)).isNone

variable {γ : Type} {affiliates : List ReferralAffiliate}
  {blocks : ReferralCommission → Bool}
  {row : ReferralDatabase × γ → ReferralCommission → Except ReferralError (ReferralDatabase × γ)}

/-- What both settlement runs do with a commission of their batch. -/
structure RowRule
    (affiliates : List ReferralAffiliate) (blocks : ReferralCommission → Bool) (now : Int)
    (row :
      ReferralDatabase × γ → ReferralCommission →
        Except ReferralError (ReferralDatabase × γ)) : Prop where
  fails : ∀ db count commission, blocks commission = true →
    ∃ err, row (db, count) commission = .error err
  settles : ∀ db count commission, Settleable db →
    db.commissions.lookup commission.id = some commission →
      commission.status = .pending → eligible affiliates commission = true →
        ∃ later counted, row (db, count) commission = .ok (later, counted) ∧
          later.commissions = db.commissions.save (settledRow commission now) ∧ Settleable later
  skips : ∀ db count commission, blocks commission = false →
    eligible affiliates commission = false →
      ∃ counted, row (db, count) commission = .ok (db, counted)

theorem rowRule_batch :
    RowRule affiliates (fun _ => false) now (runSettlementRow affiliates (fun _ => false) now) := by
  refine ⟨?_, ?_, ?_⟩
  · intro db count commission blocked
    cases blocked
  · intro db count commission settleable found pending settles
    unfold eligible at settles
    split at settles
    · cases settles
    rename_i affiliate looked
    have owner : affiliate.id = commission.affiliateId := by simpa using List.find?_some looked
    obtain ⟨later, done, saved, kept⟩ := settleable.settleCommissionTx found pending owner
    refine ⟨later, { count with settledCount := count.settledCount + 1 }, ?_⟩
    refine ⟨?_, saved, kept⟩
    simp only [runSettlementRow, looked, settles, done, bind, Except.bind,
      Bool.false_eq_true, if_false, Bool.not_true, if_true]
    rfl
  · intro db count commission _ skipped
    unfold eligible at skipped
    unfold runSettlementRow
    generalize affiliates.find? (fun row => row.id = commission.affiliateId) = looked at skipped
    cases looked with
    | none => exact ⟨_, rfl⟩
    | some affiliate =>
      have refused : affiliate.settles = false := skipped
      simp only [Bool.false_eq_true, if_false, refused, Bool.not_false, if_true]
      exact ⟨_, rfl⟩

theorem rowRule_inline :
    RowRule affiliates (affiliateMissing affiliates) now
      (runSettlementRowInline affiliates now) := by
  refine ⟨?_, ?_, ?_⟩
  · intro db count commission blocked
    have looked := Option.isNone_iff_eq_none.mp blocked
    simp only [runSettlementRowInline, looked]
    exact ⟨_, rfl⟩
  · intro db count commission settleable found pending settles
    unfold eligible at settles
    split at settles
    · cases settles
    rename_i affiliate looked
    have owner : affiliate.id = commission.affiliateId := by simpa using List.find?_some looked
    obtain ⟨later, done, saved, kept⟩ := settleable.settleCommissionTx found pending owner
    refine ⟨later, count + 1, ?_, saved, kept⟩
    simp only [runSettlementRowInline, looked, settles, done, bind,
      Except.bind, Bool.not_true, Bool.false_eq_true, if_false, if_true]
    rfl
  · intro db count commission present skipped
    unfold eligible at skipped
    unfold affiliateMissing at present
    unfold runSettlementRowInline
    generalize affiliates.find? (fun row => row.id = commission.affiliateId) = looked
      at skipped present
    cases looked with
    | none => cases present
    | some affiliate =>
      have refused : affiliate.settles = false := skipped
      simp only [refused, Bool.not_false, if_true]
      exact ⟨_, rfl⟩

end Rows

section Runs

variable {db later : ReferralDatabase} {now : Int} {γ : Type}
  {affiliates : List ReferralAffiliate} {blocks : ReferralCommission → Bool}
  {row : ReferralDatabase × γ → ReferralCommission → Except ReferralError (ReferralDatabase × γ)}

/-- The commissions of the batch whose affiliate settles have settled, and the
others are as they were. -/
structure SettledBatch (affiliates : List ReferralAffiliate) (now : Int)
    (batch : List ReferralCommission) (db later : ReferralDatabase) :
    Prop where
  settled : ∀ commission ∈ batch, eligible affiliates commission = true →
    later.commissions.lookup commission.id = some (settledRow commission now)
  others : ∀ id,
    (∀ commission ∈ batch, commission.id = id →
      eligible affiliates commission = false) →
      later.commissions.lookup id = db.commissions.lookup id

structure PendingBatch (batch : List ReferralCommission) (db : ReferralDatabase) : Prop where
  distinct : (batch.map ReferralCommission.id).Nodup
  stored : ∀ commission ∈ batch, db.commissions.lookup commission.id = some commission
  pending : ∀ commission ∈ batch, commission.status = .pending

variable {commission : ReferralCommission}

theorem RowRule.single (rule : RowRule affiliates blocks now row) (count : γ)
    (settleable : Settleable db) (stored : db.commissions.lookup commission.id = some commission)
    (pending : commission.status = .pending) (free : blocks commission = false) :
    ∃ later counted, row (db, count) commission = .ok (later, counted) ∧
      Settleable later ∧ SettledBatch affiliates now [commission] db later := by
  cases settles : eligible affiliates commission with
  | true =>
    obtain ⟨later, counted, done, saved, kept⟩ :=
      rule.settles db count commission settleable stored pending settles
    refine ⟨later, counted, done, kept, ?_, ?_⟩
    · intro other listed _
      rw [List.mem_singleton.mp listed, saved]
      have found : db.commissions.lookup (settledRow commission now).id = some commission := stored
      exact lookup_save_self found
    · intro id skipped
      rw [saved, lookup_save, if_neg]
      intro same
      have notEligible := skipped commission List.mem_cons_self same
      rw [settles] at notEligible
      cases notEligible
  | false =>
    obtain ⟨counted, done⟩ := rule.skips db count commission free settles
    refine ⟨db, counted, done, settleable, ?_, fun _ _ => rfl⟩
    intro other listed otherSettles
    rw [List.mem_singleton.mp listed, settles] at otherSettles
    cases otherSettles

variable {rest batch : List ReferralCommission}

theorem PendingBatch.tail (waiting : PendingBatch (commission :: rest) db)
    (settled : SettledBatch affiliates now [commission] db later) :
    PendingBatch rest later := by
  obtain ⟨absent, distinct⟩ := List.nodup_cons.mp waiting.distinct
  refine ⟨distinct, ?_, ?_⟩
  · intro other listed
    rw [settled.others, waiting.stored other (List.mem_cons_of_mem _ listed)]
    intro first firstListed same
    rw [List.mem_singleton.mp firstListed] at same
    exact absurd (same ▸ List.mem_map_of_mem listed) absent
  · intro other listed
    exact waiting.pending other (List.mem_cons_of_mem _ listed)

theorem SettledBatch.cons {middle : ReferralDatabase}
    (absent : commission.id ∉ rest.map ReferralCommission.id)
    (first : SettledBatch affiliates now [commission] db middle)
    (others : SettledBatch affiliates now rest middle later) :
    SettledBatch affiliates now (commission :: rest) db later := by
  refine ⟨?_, ?_⟩
  · intro other listed settles
    rcases List.mem_cons.mp listed with rfl | inRest
    · rw [others.others, first.settled other List.mem_cons_self settles]
      intro later laterListed same
      exact absurd (same ▸ List.mem_map_of_mem laterListed) absent
    · exact others.settled other inRest settles
  · intro id skipped
    rw [others.others id (fun other listed => skipped other (List.mem_cons_of_mem _ listed)),
      first.others id]
    intro other listed
    rw [List.mem_singleton.mp listed]
    exact skipped commission List.mem_cons_self

section

variable {count : γ} (rule : RowRule affiliates blocks now row) (settleable : Settleable db)
  (waiting : PendingBatch batch db)
include rule settleable waiting

theorem RowRule.error (blocked : batch.any blocks = true) :
    ∃ err, batch.foldlM row (db, count) = .error err := by
  induction batch generalizing db count with
  | nil => cases blocked
  | cons commission rest ih =>
    rw [List.foldlM_cons]
    cases fails : blocks commission with
    | true =>
      obtain ⟨err, failed⟩ := rule.fails db count commission fails
      exact ⟨err, by rw [failed]; rfl⟩
    | false =>
      obtain ⟨later, counted, done, kept, settled⟩ :=
        rule.single count settleable (waiting.stored commission List.mem_cons_self)
          (waiting.pending commission List.mem_cons_self) fails
      rw [List.any_cons, fails, Bool.false_or] at blocked
      obtain ⟨err, failed⟩ := ih kept (waiting.tail settled) blocked
      exact ⟨err, by rw [done]; exact failed⟩

theorem RowRule.ok (free : batch.any blocks = false) :
    ∃ later counted, batch.foldlM row (db, count) = .ok (later, counted) ∧
      Settleable later ∧ SettledBatch affiliates now batch db later := by
  induction batch generalizing db count with
  | nil =>
    refine ⟨db, count, rfl, settleable, ?_, fun _ _ => rfl⟩
    intro commission listed
    cases listed
  | cons commission rest ih =>
    rw [List.any_cons, Bool.or_eq_false_iff] at free
    obtain ⟨middle, counted, done, kept, settled⟩ :=
      rule.single count settleable (waiting.stored commission List.mem_cons_self)
        (waiting.pending commission List.mem_cons_self) free.1
    obtain ⟨later, total, restDone, restKept, restSettled⟩ := ih kept (waiting.tail settled) free.2
    refine ⟨later, total, ?_, restKept, ?_⟩
    · rw [List.foldlM_cons, done]
      exact restDone
    · have absent := (List.nodup_cons.mp waiting.distinct).1
      exact settled.cons absent restSettled

end

def Earlier (left right : ReferralCommission) : Prop :=
  left.settleAt < right.settleAt ∨ left.settleAt = right.settleAt ∧ left.id < right.id

instance : Std.Irrefl Earlier where
  irrefl commission := by
    unfold Earlier
    omega

instance : Std.Antisymm Earlier where
  antisymm left right := by
    unfold Earlier
    omega

theorem mem_dueCommissions : commission ∈ db.dueCommissions now ↔
      db.commissions.lookup commission.id = some commission ∧
        commission.status = .pending ∧ 0 < commission.settleAt ∧ commission.settleAt ≤ now := by
  rw [dueCommissions, List.mem_insertionSort, List.mem_filter, lookup_eq_some_iff]
  simp only [Bool.and_eq_true, decide_eq_true_eq, and_true, and_assoc]

theorem dueCommissions_ids_nodup (db : ReferralDatabase) (now : Int) :
    ((db.dueCommissions now).map ReferralCommission.id).Nodup := by
  have rows : ((db.commissions.rows.filter (fun commission =>
      commission.status = .pending && decide (0 < commission.settleAt) &&
        decide (commission.settleAt ≤ now))).map ReferralCommission.id).Nodup :=
    (List.filter_sublist.map _).nodup db.commissions.unique
  exact ((List.perm_insertionSort _ _).map _).nodup_iff.mpr rows

theorem dueCommissions_sorted (db : ReferralDatabase) (now : Int) :
    (db.dueCommissions now).Pairwise Earlier := by
  let order : ReferralCommission → ReferralCommission → Prop :=
    fun left right =>
      left.settleAt < right.settleAt ∨ left.settleAt = right.settleAt ∧ left.id ≤ right.id
  have : Std.Total order := ⟨fun left right => by simp only [order]; omega⟩
  have : IsTrans ReferralCommission order := ⟨fun left middle right => by simp only [order]; omega⟩
  have sorted : (db.dueCommissions now).Pairwise order := List.pairwise_insertionSort order _
  have distinct : (db.dueCommissions now).Pairwise (fun left right => left.id ≠ right.id) :=
    List.pairwise_map.mp (dueCommissions_ids_nodup db now)
  refine (sorted.and distinct).imp ?_
  rintro left right ⟨before, different⟩
  unfold Earlier
  omega

theorem dueCommissions_nodup (db : ReferralDatabase) (now : Int) : (db.dueCommissions now).Nodup :=
  (dueCommissions_ids_nodup db now).of_map _

theorem pendingBatch_due (db : ReferralDatabase) (now : Int) (limit : Nat) :
    PendingBatch ((db.dueCommissions now).take limit) db := by
  refine ⟨?_, ?_, ?_⟩
  · rw [List.map_take]
    exact (List.take_sublist _ _).nodup (dueCommissions_ids_nodup db now)
  · intro commission listed
    exact (mem_dueCommissions.mp (List.mem_of_mem_take listed)).1
  · intro commission listed
    exact (mem_dueCommissions.mp (List.mem_of_mem_take listed)).2.1

def ineligible (affiliates : List ReferralAffiliate) (commission : ReferralCommission) :
    Bool :=
  !eligible affiliates commission

theorem SettledBatch.dueCommissions {limit : Nat} {time : Int}
    (settled : SettledBatch affiliates now ((db.dueCommissions time).take limit) db later) :
    later.dueCommissions time = drain (ineligible affiliates) limit (db.dueCommissions time) := by
  have sublist :
      (drain (ineligible affiliates) limit (db.dueCommissions time)).Sublist
        (db.dueCommissions time) := by
    conv_rhs => rw [← List.take_append_drop limit (db.dueCommissions time)]
    exact List.filter_sublist.append (List.Sublist.refl _)
  refine (dueCommissions_sorted later _).eq_of_mem_iff
      ((dueCommissions_sorted db time).sublist sublist) ?_
  intro commission
  rw [mem_drain (dueCommissions_nodup db time), mem_dueCommissions, mem_dueCommissions]
  by_cases inBatch : ∃ other ∈ (db.dueCommissions time).take limit,
      other.id = commission.id ∧ eligible affiliates other = true
  · obtain ⟨other, listed, sameId, settles⟩ := inBatch
    have gone := settled.settled other listed settles
    rw [sameId] at gone
    rw [gone]
    constructor
    · rintro ⟨same, pending, _⟩
      cases same
      cases pending
    · rintro ⟨⟨stored, _⟩, fails⟩
      have otherStored := (mem_dueCommissions.mp (List.mem_of_mem_take listed)).1
      rw [sameId, stored] at otherStored
      cases otherStored
      have stuckEntry := fails listed
      simp [ineligible, settles] at stuckEntry
  · have untouched :
        later.commissions.lookup commission.id = db.commissions.lookup commission.id := by
      apply settled.others
      intro other listed same
      by_contra settles
      exact inBatch ⟨other, listed, same, by simpa using settles⟩
    rw [untouched]
    constructor
    · intro due
      refine ⟨due, ?_⟩
      intro listed
      by_contra settles
      exact inBatch ⟨commission, listed, rfl, by simpa [ineligible] using settles⟩
    · rintro ⟨due, _⟩
      exact due

end Runs

end NewApi.Referral
