import NewApi.Referral.Allocation

/-!
# No commission is paid out twice

The allocation and the statuses of the commissions, over every run.  A settlement
ignores the tolerance of `deriveCommissionStatusTx`, which takes a commission of
one unit for paid.
-/

namespace NewApi.Referral

open Transactions ReferralDatabase KeyedTable WithdrawalStatus StatusDerivedApart

section Statuses

variable {db later : ReferralDatabase} {now : Int}

theorem owed_of_mem {commission : ReferralCommission} (listed : commission ∈ db.commissions.rows) :
    db.owed commission.id = some commission.owed := by
  have found : db.commissions.lookup commission.id = some commission :=
    lookup_eq_some_iff.mpr ⟨listed, rfl⟩
  simp [owed, found]

theorem StatusDerivedApart.all {id : Int} (apart : StatusDerivedApart db id) (none : id ≤ 0)
    (positive : ∀ id entry, db.owed id = some entry → 0 < id) :
    StatusDerived db := by
  intro commission listed settled
  have listedPositive := positive _ _ (owed_of_mem listed)
  exact apart commission listed (by omega) settled

variable {withdrawalId : Int}

theorem statusDerived_createItem {commissionId amount : Int} (derived : StatusDerived db)
    (done : createItem db withdrawalId commissionId amount = .ok later) :
    StatusDerivedApart later commissionId := by
  obtain ⟨item, items, _, owner, _, _, created, rfl⟩ := createItem_cases done
  refine congr derived ?_ ?_
  · rfl
  intro status other different
  simp only [allocated]
  rw [total_create _ created]
  simp [owner, different.symm]

variable {change : ReferralWithdrawalItem → ReferralWithdrawalItem}

section

variable {target : ItemStatus} (ends : EndsItem target change) (derived : StatusDerived db)
  (positive : ∀ id entry, db.owed id = some entry → 0 < id)
include ends derived positive

theorem statusDerived_endItem {item : ReferralWithdrawalItem}
    (stored : db.items.lookup item.id = some item) (done : endItem now change db item = .ok later) :
    StatusDerived later := by
  have found : db.items.lookup (change item).id = some item := by
    rw [ends.id]
    exact stored
  have apart :
      StatusDerivedApart { db with items := db.items.save (change item) } item.commissionId := by
    refine congr derived ?_ ?_
    · rfl
    intro status other different
    simp only [allocated]
    rw [total_save _ _ found]
    simp [ends.commissionId, different.symm]
  rcases endItem_cases done with ⟨none, rfl⟩ | sync
  · exact apart.all none positive
  · exact statusDerived_syncCommissionStatusTx apart sync

theorem statusDerived_endItems
    (done : (db.frozenItems withdrawalId).foldlM (endItem now change) db = .ok later) :
    StatusDerived later := by
  have last :=
    endItems_rule (fun _ state => StatusDerived state ∧ state.owed = db.owed) ends.id
      (by
        rintro state item rest next stored step ⟨before, sameOwed⟩
        refine ⟨?_, (endItem_tables step).1.trans sameOwed⟩
        exact statusDerived_endItem ends before (by rw [sameOwed]; exact positive) stored step)
      done ⟨derived, rfl⟩
  exact last.1

end

variable {affiliateId : Int}

theorem statusDerived_allocateWithdrawalItemsTx {amount : Int}
    (derived : StatusDerived db) (positive : ∀ id entry, db.owed id = some entry → 0 < id)
    (done : allocateWithdrawalItemsTx now db affiliateId withdrawalId amount = .ok later) :
    StatusDerived later := by
  have sameOwed := owed_allocateWithdrawalItemsTx done
  obtain ⟨⟨walked, left⟩, walk, done⟩ := bind_ok_iff.mp done
  have walkedDerived : StatusDerived walked :=
    foldlM_invariant (fun progress : ReferralDatabase × Int => StatusDerived progress.1)
      (by
        rintro ⟨state, remaining⟩ commission ⟨next, less⟩ _ step before
        rcases allocateFromCommission_cases step with ⟨rfl, _⟩ |
          ⟨itemed, amount, _, _, _, creation, sync, _⟩
        · exact before
        · exact
            statusDerived_syncCommissionStatusTx (statusDerived_createItem before creation) sync)
      walk derived
  simp only at done
  by_cases short : 1 < left
  · rw [if_pos short] at done
    apply (statusDerived_createItem walkedDerived done).all (le_refl 0)
    intro id entry found
    exact positive id entry (sameOwed ▸ found)
  · rw [if_neg short] at done
    cases done
    exact walkedDerived

theorem StatusDerived.frame (derived : StatusDerived db)
    (sameCommissions : later.commissions = db.commissions) (sameItems : later.items = db.items) :
    StatusDerived later := by
  intro commission listed settled
  rw [sameCommissions] at listed
  rw [derived commission listed settled]
  apply deriveCommissionStatusTx_congr
  intro status
  simp only [allocated, sameItems]

/-- The tables besides the accounts and the ledger are those of `db`. -/
def SameDocuments (db later : ReferralDatabase) : Prop :=
  later.commissions = db.commissions ∧ later.items = db.items ∧ later.withdrawals = db.withdrawals

theorem SameDocuments.trans {first second third : ReferralDatabase}
    (left : SameDocuments first second) (right : SameDocuments second third) :
    SameDocuments first third :=
  ⟨right.1.trans left.1, right.2.1.trans left.2.1, right.2.2.trans left.2.2⟩

theorem sameDocuments_opened {userId : Int} {account : ReferralCommissionAccount}
    (opening : getOrCreateAccountTx db affiliateId userId = .ok (later, account)) :
    SameDocuments db later := by
  obtain ⟨laterEq, _, _⟩ := getOrCreateAccountTx_cases opening
  rw [laterEq]
  exact ⟨rfl, rfl, rfl⟩

theorem sameDocuments_updated {guard : ReferralCommissionAccount → Bool}
    {update : ReferralCommissionAccount → ReferralCommissionAccount}
    (moved : updateAccount db affiliateId guard update = some later) :
    SameDocuments db later := by
  obtain ⟨_, _, _, rfl⟩ := updateAccount_cases moved
  exact ⟨rfl, rfl, rfl⟩

theorem sameDocuments_posted {line : ReferralCommissionLedger}
    (posting : createLedgerTx db line = .ok later) :
    SameDocuments db later := by
  obtain ⟨_, _, rfl⟩ := createLedgerTx_cases posting
  exact ⟨rfl, rfl, rfl⟩

theorem Allocated.frame (allocated : Allocated db) (same : SameDocuments db later) :
    Allocated later := by
  obtain ⟨sameCommissions, sameItems, sameWithdrawals⟩ := same
  have sameOwed : later.owed = db.owed := by
    funext id
    simp only [owed, sameCommissions]
  refine ⟨?_, ?_, ?_⟩
  · rw [sameOwed, sameItems]
    exact allocated.backing
  · rw [sameWithdrawals, sameItems]
    exact allocated.known
  · rw [sameWithdrawals, sameItems]
    exact allocated.filled

end Statuses

/-! ## Transitions -/

section Transitions

variable {db later : ReferralDatabase} {now : Int}

variable {id : Int}

/-- Two functions that agree away from an id where nothing is held yet. -/
theorem Backing.enter
    {owed : Int → Option Owed} {items : KeyedTable ReferralWithdrawalItem.id} {entry : Owed}
    (backing : Backing owed items) (positive : 0 < id) (nonnegative : 0 ≤ entry.amount)
    (free : ∀ entry, owed id = some entry → entry.settled = false) :
    Backing (fun other => if id = other then some entry else owed other) items := by
  refine ⟨?_, backing.nonnegative, ?_, ?_⟩
  · intro other otherEntry found
    by_cases same : id = other
    · exact same ▸ positive
    · rw [if_neg same] at found
      exact backing.commissionIds other otherEntry found
  · intro item listed
    rcases backing.backed item listed with none | ⟨held, found, settled⟩
    · exact Or.inl none
    right
    by_cases same : id = item.commissionId
    · have notSettled := free held (same ▸ found)
      rw [notSettled] at settled
      cases settled
    · exact ⟨held, by rw [if_neg same]; exact found, settled⟩
  · intro other otherEntry found
    by_cases same : id = other
    · rw [if_pos same] at found
      cases found
      rw [← same, backing.held_eq_zero positive free]
      exact nonnegative
    · rw [if_neg same] at found
      exact backing.bounded other otherEntry found

theorem Allocated.enter (entry : Owed) (allocated : Allocated db) (positive : 0 < id)
    (nonnegative : 0 ≤ entry.amount)
    (free : ∀ entry, db.owed id = some entry → entry.settled = false)
    (entered : ∀ other, later.owed other = if id = other then some entry else db.owed other)
    (sameItems : later.items = db.items) (sameWithdrawals : later.withdrawals = db.withdrawals) :
    Allocated later := by
  refine ⟨?_, ?_, ?_⟩
  · rw [funext entered, sameItems]
    exact allocated.backing.enter positive nonnegative free
  · rw [sameWithdrawals, sameItems]
    exact allocated.known
  · rw [sameWithdrawals, sameItems]
    exact allocated.filled

theorem Allocated.pending_untouched (allocated : Allocated db) (positive : 0 < id)
    (free : ∀ entry, db.owed id = some entry → entry.settled = false) (status : ItemStatus) :
    db.allocated status id = 0 := by
  apply total_eq_zero
  intro item listed
  rw [if_neg]
  rintro ⟨same, _⟩
  rcases allocated.backing.backed item listed with none | ⟨entry, found, settled⟩
  · omega
  · rw [same] at found
    rw [free entry found] at settled
    cases settled

variable {commission : ReferralCommission} {commissions : KeyedTable ReferralCommission.id}

theorem owed_created (created : db.commissions.create commission = some commissions) (other : Int) :
    ({ db with commissions := commissions } : ReferralDatabase).owed other =
      if commission.id = other then some commission.owed else db.owed other := by
  simp only [owed, (lookup_create created).2]
  split <;> rfl

theorem Allocated.created (allocated : Allocated db)
    (created : db.commissions.create commission = some commissions)
    (positiveId : 0 < commission.id) (positive : 0 < commission.commissionAmount) :
    Allocated { db with commissions := commissions } := by
  refine
    allocated.enter commission.owed positiveId (le_of_lt positive) ?_ (owed_created created) ?_ ?_
  · intro entry found
    simp [owed, (lookup_create created).1] at found
  · rfl
  · rfl

theorem StatusDerived.created (derived : StatusDerived db)
    (created : db.commissions.create commission = some commissions)
    (pending : commission.status = .pending) :
    StatusDerived { db with commissions := commissions } := by
  intro row listed settled
  rw [rows_create created] at listed
  rcases List.mem_append.mp listed with old | new
  · exact derived row old settled
  · rw [List.mem_singleton.mp new] at settled
    exact absurd pending settled

def settledRow (row : ReferralCommission) (now : Int) : ReferralCommission :=
  { row with status := .available, availableAt := now }

variable {row : ReferralCommission}

theorem owed_pending (found : db.commissions.lookup row.id = some row)
    (pending : row.status = .pending) :
    ∀ entry, db.owed row.id = some entry → entry.settled = false := by
  intro entry stored
  simp only [owed, found, Option.map_some, Option.some.injEq] at stored
  rw [← stored]
  simp [ReferralCommission.owed, pending]

theorem owed_settled (found : db.commissions.lookup row.id = some row) (other : Int) :
    ({ db with commissions := db.commissions.save (settledRow row now) } :
        ReferralDatabase).owed other =
      if row.id = other then some ⟨row.commissionAmount, true⟩
      else db.owed other := by
  simp only [owed, lookup_save, settledRow]
  by_cases same : row.id = other
  · rw [if_pos same, if_pos same, ← same, found]
    simp [ReferralCommission.owed]
  · rw [if_neg same, if_neg same]

theorem Allocated.settled (allocated : Allocated db)
    (found : db.commissions.lookup row.id = some row)
    (pending : row.status = .pending) (positive : 0 < row.commissionAmount) :
    Allocated { db with commissions := db.commissions.save (settledRow row now) } := by
  have positiveId : 0 < row.id :=
    allocated.backing.commissionIds _ _ (owed_of_mem (lookup_eq_some_iff.mp found).1)
  refine allocated.enter ⟨row.commissionAmount, true⟩ positiveId (le_of_lt positive)
      (owed_pending found pending) (owed_settled found) ?_ ?_
  · rfl
  · rfl

theorem StatusDerived.settled (derived : StatusDerived db) (allocated : Allocated db)
    (found : db.commissions.lookup row.id = some row) (pending : row.status = .pending)
    (positive : 0 < row.commissionAmount) (notUnit : row.commissionAmount ≠ 1) :
    StatusDerived { db with commissions := db.commissions.save (settledRow row now) } := by
  have positiveId : 0 < row.id :=
    allocated.backing.commissionIds _ _ (owed_of_mem (lookup_eq_some_iff.mp found).1)
  intro other listed settled
  rcases mem_rows_save listed with rfl | old
  · have untouched := allocated.pending_untouched positiveId (owed_pending found pending)
    change CommissionStatus.available = deriveCommissionStatusTx db row.id row.commissionAmount
    unfold deriveCommissionStatusTx
    rw [untouched, untouched, if_neg (lt_irrefl 0), if_neg (by omega)]
  · exact derived other old settled

variable {withdrawal : ReferralWithdrawal}

variable {affiliate : ReferralAffiliate} {change : ReferralWithdrawalItem → ReferralWithdrawalItem}

theorem Allocated.bookWithdrawalTx (allocated : Allocated db)
    (pending : withdrawal.status = .pending) (positive : 0 < withdrawal.amount)
    (done : Referral.bookWithdrawalTx now db affiliate withdrawal = .ok later) :
    Allocated later := by
  obtain ⟨updated, withdrawals, itemed, moved, created, allocation, posting⟩ :=
    bookWithdrawalTx_cases done
  obtain ⟨sameCommissions, sameItems, _⟩ := sameDocuments_updated moved
  obtain ⟨absent, lookup⟩ := lookup_create created
  have unused : ∀ item ∈ db.items.rows, item.withdrawalId ≠ withdrawal.id := by
    intro item listed same
    obtain ⟨owner, ownerFound⟩ := allocated.known item listed
    rw [same, absent] at ownerFound
    cases ownerFound
  have sameOwed : updated.owed = db.owed := by
    funext id
    simp only [owed, sameCommissions]
  have start :
      Allocating updated.owed withdrawal
        { updated with withdrawals := withdrawals } withdrawal.amount := by
    refine ⟨rfl, ?_, ?_, ?_, ?_, ?_, ?_, le_of_lt positive⟩
    · simp [lookup]
    · change Backing updated.owed updated.items
      rw [sameOwed, sameItems]
      exact allocated.backing
    · intro item listed
      rw [sameItems] at listed
      obtain ⟨owner, ownerFound⟩ := allocated.known item listed
      refine ⟨owner, ?_⟩
      rw [lookup, if_neg (unused item listed).symm]
      exact ownerFound
    · intro other listed different
      rw [rows_create created] at listed
      rw [sameItems]
      rcases List.mem_append.mp listed with old | new
      · exact allocated.filled other old
      · exact absurd (congrArg _ (List.mem_singleton.mp new)) different
    · intro item listed same
      rw [sameItems] at listed
      exact absurd same (unused item listed)
    · rw [sameItems, total_eq_zero]
      · omega
      · intro item listed
        exact if_neg (unused item listed)
  exact (start.allocateWithdrawalItemsTx pending allocation).frame (sameDocuments_posted posting)

theorem StatusDerived.bookWithdrawalTx (derived : StatusDerived db) (allocated : Allocated db)
    (done : Referral.bookWithdrawalTx now db affiliate withdrawal = .ok later) :
    StatusDerived later := by
  obtain ⟨updated, withdrawals, itemed, moved, created, allocation, posting⟩ :=
    bookWithdrawalTx_cases done
  obtain ⟨sameCommissions, sameItems, _⟩ := sameDocuments_updated moved
  have start : StatusDerived { updated with withdrawals := withdrawals } :=
    derived.frame sameCommissions sameItems
  have positive : ∀ id entry, updated.owed id = some entry → 0 < id := by
    intro id entry found
    simp only [owed, sameCommissions] at found
    exact allocated.backing.commissionIds id entry found
  have booked := statusDerived_allocateWithdrawalItemsTx start positive allocation
  obtain ⟨postedCommissions, postedItems, _⟩ := sameDocuments_posted posting
  exact booked.frame postedCommissions postedItems

theorem Allocated.approved (allocated : Allocated db) {review : WithdrawalReview}
    (found : db.withdrawals.lookup withdrawal.id = some withdrawal)
    (pending : withdrawal.status = .pending) :
    Allocated (db.saveWithdrawal { withdrawal with status := .approved, review := review }) := by
  refine ⟨allocated.backing, ?_, ?_⟩
  · intro item listed
    obtain ⟨owner, ownerFound⟩ := allocated.known item listed
    simp only [saveWithdrawal, lookup_save]
    split
    · exact ⟨_, by rw [ownerFound]; rfl⟩
    · exact ⟨owner, ownerFound⟩
  · intro other listed
    rcases mem_rows_save listed with rfl | old
    · have filled := allocated.filled withdrawal (lookup_eq_some_iff.mp found).1
      have sameStatus : WithdrawalStatus.approved.itemStatus = withdrawal.status.itemStatus := by
        rw [pending]
        rfl
      refine ⟨?_, ?_, ?_⟩
      · intro item itemListed owner
        exact (filled.status item itemListed owner).trans sameStatus.symm
      · intro kept
        exact filled.atMost (sameStatus ▸ kept)
      · intro kept
        exact filled.atLeast (sameStatus ▸ kept)
    · exact allocated.filled other old

theorem releaseFrozenTx_cases {type : LedgerType} {reference : ExternalRef} {remark : String}
    (done : releaseFrozenTx now db withdrawal type reference remark = .ok later) :
    ∃ updated itemed,
      SameDocuments db updated ∧
        releaseWithdrawalItemsTx now updated withdrawal.id = .ok itemed ∧
          SameDocuments itemed later := by
  obtain ⟨updated, update, done⟩ := bind_ok_iff.mp done
  obtain ⟨itemed, release, posting⟩ := bind_ok_iff.mp done
  exact ⟨updated, itemed, sameDocuments_updated (requireRow_eq_ok.mp update),
      release, sameDocuments_posted posting⟩

theorem payFrozenTx_cases {remark : String}
    (done : payFrozenTx now db withdrawal remark = .ok later) :
    ∃ updated itemed,
      SameDocuments db updated ∧
        markWithdrawalItemsPaidTx now updated withdrawal.id = .ok itemed ∧
          SameDocuments itemed later := by
  obtain ⟨updated, update, done⟩ := bind_ok_iff.mp done
  obtain ⟨itemed, payment, posting⟩ := bind_ok_iff.mp done
  exact ⟨updated, itemed, sameDocuments_updated (requireRow_eq_ok.mp update),
      payment, sameDocuments_posted posting⟩

theorem Allocated.ended {updated itemed : ReferralDatabase} (status : WithdrawalStatus)
    {review : WithdrawalReview}
    (ends : EndsItem status.itemStatus change) (allocated : Allocated db)
    (found : db.withdrawals.lookup withdrawal.id = some withdrawal)
    (isOpen : withdrawal.status.itemStatus = .frozen)
    (same : SameDocuments
      (db.saveWithdrawal { withdrawal with status := status, review := review }) updated)
    (loop : (updated.frozenItems withdrawal.id).foldlM (endItem now change) updated = .ok itemed) :
    Allocated itemed := by
  obtain ⟨sameCommissions, sameItems, sameWithdrawals⟩ := same
  have sameOwed : updated.owed = db.owed := by
    funext id
    simp only [owed, sameCommissions, saveWithdrawal]
  exact allocated.endItems status ends found isOpen sameOwed sameItems sameWithdrawals loop

theorem StatusDerived.ended {updated itemed : ReferralDatabase} {target : ItemStatus}
    (ends : EndsItem target change) (derived : StatusDerived db) (allocated : Allocated db)
    (same : SameDocuments (db.saveWithdrawal withdrawal) updated)
    (loop : (updated.frozenItems withdrawal.id).foldlM (endItem now change) updated = .ok itemed) :
    StatusDerived itemed := by
  obtain ⟨sameCommissions, sameItems, _⟩ := same
  apply statusDerived_endItems ends (derived.frame sameCommissions sameItems)
  · intro id entry found
    simp only [owed, sameCommissions, saveWithdrawal] at found
    exact allocated.backing.commissionIds id entry found
  · exact loop

theorem Allocated.transition {Amounts : Int → Prop} (transition : Transition Amounts db later)
    (books : Books db) (allocated : Allocated db) :
    Allocated later := by
  cases transition with
  | jobs jobs => exact allocated.frame ⟨rfl, rfl, rfl⟩
  | opened opening => exact allocated.frame (sameDocuments_opened opening)
  | accrued created newId unique pending positive opening moved posting =>
    have positiveId := newId ▸ nextId_pos _
    exact (allocated.created created positiveId positive).frame
        (((sameDocuments_opened opening).trans
          (sameDocuments_updated moved)).trans (sameDocuments_posted posting))
  | settled now found pending allowed moved posting =>
    have positive := books.commissionsPositive _ (lookup_eq_some_iff.mp found).1
    exact (allocated.settled found pending positive).frame
        ((sameDocuments_updated moved).trans (sameDocuments_posted posting))
  | booked now newId owner pending positive booking =>
    exact allocated.bookWithdrawalTx pending positive booking
  | approved found pending lineAffiliate lineDelta lineReference posting =>
    exact (allocated.approved found pending).frame (sameDocuments_posted posting)
  | released now found isOpen closed lineReference release =>
    obtain ⟨updated, itemed, same, loop, posted⟩ := releaseFrozenTx_cases release
    have frozen := isOpen.elim (congrArg itemStatus)
      (congrArg itemStatus)
    refine (Allocated.ended _ ?_ allocated found frozen same loop).frame posted
    rcases closed with rfl | rfl
    · exact endsItem_release
    · exact endsItem_release
  | paid now found approved payment =>
    obtain ⟨updated, itemed, same, loop, posted⟩ := payFrozenTx_cases payment
    exact (allocated.ended .paid endsItem_pay found
        (congrArg itemStatus approved) same loop).frame posted
  | adjusted lineAffiliate lineDelta lineReference posting moved =>
    exact allocated.frame ((sameDocuments_posted posting).trans (sameDocuments_updated moved))

theorem StatusDerived.transition (transition : Transition (fun amount => amount ≠ 1) db later)
    (books : Books db) (allocated : Allocated db) (derived : StatusDerived db) :
    StatusDerived later := by
  have framed : ∀ {first second : ReferralDatabase}, StatusDerived first →
      SameDocuments first second → StatusDerived second :=
    fun before same => before.frame same.1 same.2.1
  cases transition with
  | jobs jobs => exact framed derived ⟨rfl, rfl, rfl⟩
  | opened opening => exact framed derived (sameDocuments_opened opening)
  | accrued created newId unique pending positive opening moved posting =>
    exact framed (derived.created created pending)
        (((sameDocuments_opened opening).trans
          (sameDocuments_updated moved)).trans (sameDocuments_posted posting))
  | settled now found pending allowed moved posting =>
    have positive := books.commissionsPositive _ (lookup_eq_some_iff.mp found).1
    exact framed (derived.settled allocated found pending positive allowed)
        ((sameDocuments_updated moved).trans (sameDocuments_posted posting))
  | booked now newId owner pending positive booking =>
    exact derived.bookWithdrawalTx allocated booking
  | approved found pending lineAffiliate lineDelta lineReference posting =>
    obtain ⟨sameCommissions, sameItems, _⟩ := sameDocuments_posted posting
    exact derived.frame sameCommissions sameItems
  | released now found isOpen closed lineReference release =>
    obtain ⟨updated, itemed, same, loop, posted⟩ := releaseFrozenTx_cases release
    exact framed (StatusDerived.ended endsItem_release derived allocated same loop) posted
  | paid now found approved payment =>
    obtain ⟨updated, itemed, same, loop, posted⟩ := payFrozenTx_cases payment
    exact framed (StatusDerived.ended endsItem_pay derived allocated same loop) posted
  | adjusted lineAffiliate lineDelta lineReference posting moved =>
    exact framed derived ((sameDocuments_posted posting).trans (sameDocuments_updated moved))

end Transitions

theorem allocated_empty : Allocated empty := by
  refine ⟨⟨?_, ?_, ?_, ?_⟩, ?_, ?_⟩
  · intro id entry found
    cases found
  · intro item listed
    cases listed
  · intro item listed
    cases listed
  · intro id entry found
    cases found
  · intro item listed
    cases listed
  · intro withdrawal listed
    cases listed

theorem statusDerived_empty : StatusDerived empty := by
  intro commission listed
  cases listed

/-- The items of every commission and of every withdrawal that is not given
up. -/
structure PaidOnce (db : ReferralDatabase) : Prop where
  commission : ∀ commission ∈ db.commissions.rows,
    db.allocated .frozen commission.id +
        db.allocated .withdrawn commission.id ≤
      commission.commissionAmount
  openItems : ∀ withdrawal ∈ db.withdrawals.rows,
    withdrawal.status ∈ [.pending, .approved] →
      ∀ item ∈ db.items.rows, item.withdrawalId = withdrawal.id → item.status = .frozen
  paidItems : ∀ withdrawal ∈ db.withdrawals.rows,
    withdrawal.status = .paid →
      ∀ item ∈ db.items.rows, item.withdrawalId = withdrawal.id → item.status = .withdrawn
  amount : ∀ withdrawal ∈ db.withdrawals.rows,
    withdrawal.status ∈ [.pending, .approved, .paid] →
      withdrawal.amount - 1 ≤ db.items.total (·.partOf withdrawal.id) ∧
        db.items.total (·.partOf withdrawal.id) ≤ withdrawal.amount

variable {db : ReferralDatabase}

theorem Allocated.paidOnce (allocated : Allocated db) : PaidOnce db := by
  refine ⟨?_, ?_, ?_, ?_⟩
  · intro commission listed
    rw [allocated_add]
    exact allocated.backing.bounded _ _ (owed_of_mem listed)
  · intro withdrawal listed isOpen item itemListed owner
    rw [(allocated.filled withdrawal listed).status item itemListed owner]
    rcases List.mem_pair.mp isOpen with pending | approved
    · rw [pending]
      rfl
    · rw [approved]
      rfl
  · intro withdrawal listed paid item itemListed owner
    rw [(allocated.filled withdrawal listed).status item itemListed owner, paid]
    rfl
  · intro withdrawal listed kept
    have notReleased : withdrawal.status.itemStatus ≠ .released := by
      cases status : withdrawal.status <;> simp [status, itemStatus] at kept ⊢
    have filled := allocated.filled withdrawal listed
    exact ⟨filled.atLeast notReleased, filled.atMost notReleased⟩

/-- The statement that no settlement of the call makes a commission of exactly
one unit available. -/
def SettlesNoUnit (db : ReferralDatabase) (call : ReferralCall) : Prop :=
  call.operation.SettlesOnly (fun amount => amount ≠ 1) db

structure Accounted (db : ReferralDatabase) : Prop where
  books : Books db
  allocated : Allocated db

/-- The invariants of a run in which no commission of one unit settles. -/
structure Accounted.WithStatuses (db : ReferralDatabase) : Prop where
  accounted : Accounted db
  derived : StatusDerived db

theorem Accounted.transition {Amounts : Int → Prop} {later : ReferralDatabase}
    (transition : Transition Amounts db later) (accounted : Accounted db) :
    Accounted later :=
  ⟨accounted.books.transition transition, accounted.allocated.transition transition accounted.books⟩

theorem accounted_empty : Accounted empty := ⟨books_empty, allocated_empty⟩

theorem Accounted.execute (accounted : Accounted db) (calls : List ReferralCall) :
    Accounted (execute referralStep db calls) := by
  induction calls generalizing db with
  | nil => exact accounted
  | cons call rest ih =>
    apply ih
    exact referralStep_invariant (fun _ _ transition kept => kept.transition transition)
        (call.operation.settlesOnly_true db) accounted

theorem Accounted.WithStatuses.step (db : ReferralDatabase) (call : ReferralCall)
    (allowed : SettlesNoUnit db call) (kept : Accounted.WithStatuses db) :
    Accounted.WithStatuses (referralStep db call) := by
  refine referralStep_invariant ?_ allowed kept
  intro first second transition before
  exact ⟨before.accounted.transition transition,
      before.derived.transition transition before.accounted.books before.accounted.allocated⟩

/-- No run pays a commission out twice, and the stored statuses are derived as
long as no settlement makes a commission of one unit available. -/
theorem commissions_paid_once (calls : List ReferralCall) :
    PaidOnce (execute referralStep ReferralDatabase.empty calls) ∧
      (GuardedRun referralStep SettlesNoUnit ReferralDatabase.empty calls →
        StatusDerived (execute referralStep ReferralDatabase.empty calls)) := by
  refine ⟨(accounted_empty.execute calls).allocated.paidOnce, ?_⟩
  intro run
  have kept := run.invariant Accounted.WithStatuses.step ⟨accounted_empty, statusDerived_empty⟩
  exact kept.derived

theorem commissions_paid_once_when_withdrawing :
    PaidOnce (execute referralStep ReferralDatabase.empty withdrawingRun) ∧
      StatusDerived (execute referralStep ReferralDatabase.empty withdrawingRun) := by
  have amounts : ∀ commission ∈
      (execute referralStep ReferralDatabase.empty (withdrawingRun.take 1)).dueCommissions 200,
      commission.commissionAmount ≠ 1 := by
    decide +kernel
  have guarded : GuardedRun referralStep SettlesNoUnit ReferralDatabase.empty withdrawingRun := by
    refine ⟨trivial, ?_, trivial, trivial⟩
    intro commission listed _ _ _
    exact amounts commission (List.mem_of_mem_take listed)
  have paid := commissions_paid_once withdrawingRun
  exact ⟨paid.1, paid.2 guarded⟩

/-- The commission of an order of one cent, at a rate of 0.0001 per cent, is
one unit.  It settles as available, but one unit is the tolerance under which
a commission counts as paid. -/
def unitRun : List ReferralCall :=
  [ ⟨.processCommission plainSettings [plainAffiliate] {} 100
      { plainOrder "order" 1000000 with rate := 10000 }, false⟩,
    ⟨.runSettlementBatch [plainAffiliate] (fun _ => false) 200, false⟩ ]

theorem unit_commission_status_not_derived :
    ¬(PaidOnce (execute referralStep ReferralDatabase.empty unitRun) ∧
      StatusDerived (execute referralStep ReferralDatabase.empty unitRun)) := by
  rintro ⟨_, derived⟩
  have statuses :
      ¬∀ commission ∈ (execute referralStep ReferralDatabase.empty unitRun).commissions.rows,
        commission.status ≠ .pending →
          commission.status =
            deriveCommissionStatusTx (execute referralStep ReferralDatabase.empty unitRun)
              commission.id commission.commissionAmount := by
    decide +kernel
  exact statuses derived

end NewApi.Referral
