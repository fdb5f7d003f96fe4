import NewApi.Referral.AccountRuns

/-!
# What the items of a withdrawal hold

An item ties a part of a withdrawal to a commission.  The items of a commission
never hold more than its amount, and the items of a withdrawal have its status
and its amount, up to one unit.
-/

namespace NewApi.Referral

open Transactions KeyedTable ReferralWithdrawalItem ReferralDatabase Referral

def WithdrawalStatus.itemStatus : WithdrawalStatus → ItemStatus
  | .pending | .approved => .frozen
  | .paid => .withdrawn
  | .rejected | .canceled => .released

/-- What an item may be drawn from: the amount of a commission, and whether it
has been settled. -/
structure Owed where
  amount : Int
  settled : Bool
  deriving DecidableEq, Repr

def ReferralCommission.owed (commission : ReferralCommission) : Owed where
  amount := commission.commissionAmount
  settled := decide (commission.status ≠ .pending)

def ReferralDatabase.owed (db : ReferralDatabase) (commissionId : Int) :
    Option Owed :=
  (db.commissions.lookup commissionId).map ReferralCommission.owed

def ReferralWithdrawalItem.heldOf (commissionId : Int) (item : ReferralWithdrawalItem) : Int :=
  if item.commissionId = commissionId ∧ item.status ≠ .released then item.allocatedAmount
  else 0

def ReferralWithdrawalItem.partOf (withdrawalId : Int) (item : ReferralWithdrawalItem) : Int :=
  if item.withdrawalId = withdrawalId then item.allocatedAmount else 0

structure Backing (owed : Int → Option Owed) (items : KeyedTable ReferralWithdrawalItem.id) :
    Prop where
  commissionIds : ∀ id entry, owed id = some entry → 0 < id
  nonnegative : ∀ item ∈ items.rows, 0 ≤ item.allocatedAmount
  backed : ∀ item ∈ items.rows,
    item.commissionId = 0 ∨ ∃ entry, owed item.commissionId = some entry ∧ entry.settled = true
  bounded : ∀ id entry, owed id = some entry → items.total (·.heldOf id) ≤ entry.amount

/-- The items of a withdrawal have its status and make up its amount, but for
one unit. -/
structure FilledBy (items : KeyedTable ReferralWithdrawalItem.id)
    (withdrawal : ReferralWithdrawal) : Prop where
  status : ∀ item ∈ items.rows, item.withdrawalId = withdrawal.id →
    item.status = withdrawal.status.itemStatus
  atMost : withdrawal.status.itemStatus ≠ .released →
    items.total (·.partOf withdrawal.id) ≤ withdrawal.amount
  atLeast : withdrawal.status.itemStatus ≠ .released →
    withdrawal.amount - 1 ≤ items.total (·.partOf withdrawal.id)

def ItemsKnown (withdrawals : KeyedTable ReferralWithdrawal.id)
    (items : KeyedTable ReferralWithdrawalItem.id) : Prop :=
  ∀ item ∈ items.rows, ∃ withdrawal, withdrawals.lookup item.withdrawalId = some withdrawal

def FilledApart (withdrawals : KeyedTable ReferralWithdrawal.id)
    (items : KeyedTable ReferralWithdrawalItem.id) (id : Int) : Prop :=
  ∀ withdrawal ∈ withdrawals.rows, withdrawal.id ≠ id → FilledBy items withdrawal

/-- The allocation of all withdrawals over all commissions. -/
structure Allocated (db : ReferralDatabase) : Prop where
  backing : Backing db.owed db.items
  known : ItemsKnown db.withdrawals db.items
  filled : ∀ withdrawal ∈ db.withdrawals.rows, FilledBy db.items withdrawal

/-- Settled commissions other than one have the status that their items
give. -/
def StatusDerivedApart (db : ReferralDatabase) (id : Int) : Prop :=
  ∀ commission ∈ db.commissions.rows, commission.id ≠ id →
    commission.status ≠ .pending →
      commission.status = deriveCommissionStatusTx db commission.id commission.commissionAmount

def StatusDerived (db : ReferralDatabase) : Prop :=
  ∀ commission ∈ db.commissions.rows, commission.status ≠ .pending →
    commission.status = deriveCommissionStatusTx db commission.id commission.commissionAmount

section Items

variable {owed : Int → Option Owed}
  {items later : KeyedTable ReferralWithdrawalItem.id}
  {item : ReferralWithdrawalItem}

theorem Backing.create (backing : Backing owed items) (created : items.create item = some later)
    (nonnegative : 0 ≤ item.allocatedAmount)
    (backed : item.commissionId = 0 ∨
      ∃ entry, owed item.commissionId = some entry ∧ entry.settled = true ∧
        items.total (·.heldOf item.commissionId) + item.allocatedAmount ≤ entry.amount) :
    Backing owed later := by
  have rows := rows_create created
  refine ⟨backing.commissionIds, ?_, ?_, ?_⟩
  · intro other listed
    rw [rows] at listed
    rcases List.mem_append.mp listed with old | new
    · exact backing.nonnegative other old
    · rw [List.mem_singleton.mp new]
      exact nonnegative
  · intro other listed
    rw [rows] at listed
    rcases List.mem_append.mp listed with old | new
    · exact backing.backed other old
    · rw [List.mem_singleton.mp new]
      rcases backed with none | ⟨entry, found, settled, _⟩
      · exact Or.inl none
      · exact Or.inr ⟨entry, found, settled⟩
  · intro id entry found
    rw [total_create _ created]
    have before := backing.bounded id entry found
    by_cases same : item.commissionId = id
    · have positive := backing.commissionIds id entry found
      rcases backed with none | ⟨other, otherFound, _, enough⟩
      · omega
      rw [same, found] at otherFound
      cases otherFound
      rw [same] at enough
      unfold heldOf at enough ⊢
      split
      · exact enough
      · omega
    · have none : item.heldOf id = 0 := by
        unfold heldOf
        rw [if_neg (fun both => same both.1)]
      rw [none, add_zero]
      exact before

variable {changed : ReferralWithdrawalItem}

theorem Backing.save (backing : Backing owed items) (found : items.lookup changed.id = some item)
    (sameCommission : changed.commissionId = item.commissionId)
    (nonnegative : 0 ≤ changed.allocatedAmount) (less : ∀ id, changed.heldOf id ≤ item.heldOf id) :
    Backing owed (items.save changed) := by
  have listedBefore : item ∈ items.rows := (lookup_eq_some_iff.mp found).1
  refine ⟨backing.commissionIds, ?_, ?_, ?_⟩
  · intro other listed
    rcases mem_rows_save listed with rfl | old
    · exact nonnegative
    · exact backing.nonnegative other old
  · intro other listed
    rcases mem_rows_save listed with rfl | old
    · rw [sameCommission]
      exact backing.backed item listedBefore
    · exact backing.backed other old
  · intro id entry entryFound
    rw [total_save _ _ found]
    have before := backing.bounded id entry entryFound
    have notMore := less id
    omega

variable {withdrawal : ReferralWithdrawal}

theorem FilledBy.create_other (filled : FilledBy items withdrawal)
    (created : items.create item = some later) (other : item.withdrawalId ≠ withdrawal.id) :
    FilledBy later withdrawal := by
  have total : later.total (·.partOf withdrawal.id) = items.total (·.partOf withdrawal.id) := by
    rw [total_create _ created]
    simp [partOf, other]
  refine ⟨?_, ?_, ?_⟩
  · intro row listed owner
    rw [rows_create created] at listed
    rcases List.mem_append.mp listed with old | new
    · exact filled.status row old owner
    · rw [List.mem_singleton.mp new] at owner
      exact absurd owner other
  · rw [total]
    exact filled.atMost
  · rw [total]
    exact filled.atLeast

theorem FilledBy.save_other (filled : FilledBy items withdrawal)
    (found : items.lookup changed.id = some item)
    (sameWithdrawal : changed.withdrawalId = item.withdrawalId)
    (other : item.withdrawalId ≠ withdrawal.id) :
    FilledBy (items.save changed) withdrawal := by
  have total : (items.save changed).total (·.partOf withdrawal.id) =
      items.total (·.partOf withdrawal.id) := by
    rw [total_save _ _ found]
    simp [partOf, sameWithdrawal, other]
  refine ⟨?_, ?_, ?_⟩
  · intro row listed owner
    rcases mem_rows_save listed with rfl | old
    · exact absurd (sameWithdrawal ▸ owner) other
    · exact filled.status row old owner
  · rw [total]
    exact filled.atMost
  · rw [total]
    exact filled.atLeast

variable {withdrawals : KeyedTable ReferralWithdrawal.id}

theorem ItemsKnown.create (known : ItemsKnown withdrawals items)
    (created : items.create item = some later)
    (found : withdrawals.lookup item.withdrawalId = some withdrawal) :
    ItemsKnown withdrawals later := by
  intro row listed
  rw [rows_create created] at listed
  rcases List.mem_append.mp listed with old | new
  · exact known row old
  · rw [List.mem_singleton.mp new]
    exact ⟨withdrawal, found⟩

theorem ItemsKnown.save (known : ItemsKnown withdrawals items)
    (found : items.lookup changed.id = some item)
    (sameWithdrawal : changed.withdrawalId = item.withdrawalId) :
    ItemsKnown withdrawals (items.save changed) := by
  intro row listed
  rcases mem_rows_save listed with rfl | old
  · rw [sameWithdrawal]
    exact known item (lookup_eq_some_iff.mp found).1
  · exact known row old

theorem Backing.held_eq_zero (backing : Backing owed items) {id : Int} (positive : 0 < id)
    (free : ∀ entry, owed id = some entry → entry.settled = false) :
    items.total (·.heldOf id) = 0 := by
  apply total_eq_zero
  intro item listed
  unfold heldOf
  rw [if_neg]
  rintro ⟨same, _⟩
  rcases backing.backed item listed with none | ⟨entry, found, settled⟩
  · omega
  · rw [same] at found
    rw [free entry found] at settled
    cases settled

end Items

section Statements

variable {db later : ReferralDatabase} {now : Int}

variable {commissionId : Int}

theorem createItem_cases {withdrawalId amount : Int}
    (done : createItem db withdrawalId commissionId amount = .ok later) :
    ∃ item items,
      item.withdrawalId = withdrawalId ∧ item.commissionId = commissionId ∧
        item.allocatedAmount = amount ∧ item.status = .frozen ∧
          db.items.create item = some items ∧ later = { db with items := items } := by
  unfold createItem at done
  split at done
  · rename_i items created
    cases done
    exact ⟨_, items, rfl, rfl, rfl, rfl, created, rfl⟩
  · cases done

/-- The status of a commission follows its items. -/
theorem syncCommissionStatusTx_cases
    (done : syncCommissionStatusTx now db commissionId = .ok later) :
    ∃ commission, db.commissions.lookup commissionId = some commission ∧
      (commission.status = .pending ∧ later = db ∨
        commission.status ≠ .pending ∧ ∃ frozenAt,
          later =
            { db with
              commissions :=
                db.commissions.save
                  { commission with
                    status := deriveCommissionStatusTx db commissionId commission.commissionAmount
                    frozenAt := frozenAt } }) := by
  unfold syncCommissionStatusTx at done
  split at done
  · cases done
  rename_i commission found
  refine ⟨commission, found, ?_⟩
  by_cases pending : commission.status = .pending
  · rw [if_pos pending] at done
    cases done
    exact Or.inl ⟨pending, rfl⟩
  · rw [if_neg pending] at done
    cases done
    exact Or.inr ⟨pending, _, rfl⟩

theorem deriveCommissionStatusTx_ne_pending (db : ReferralDatabase) (commissionId amount : Int) :
    deriveCommissionStatusTx db commissionId amount ≠ .pending := by
  unfold deriveCommissionStatusTx
  split
  · nofun
  · split <;> nofun

theorem deriveCommissionStatusTx_congr {first second : ReferralDatabase}
    (same : ∀ status, first.allocated status commissionId = second.allocated status commissionId)
    (amount : Int) :
    deriveCommissionStatusTx first commissionId amount =
      deriveCommissionStatusTx second commissionId amount := by
  simp only [deriveCommissionStatusTx, same]

theorem owed_syncCommissionStatusTx
    (done : syncCommissionStatusTx now db commissionId = .ok later) :
    later.owed = db.owed ∧ later.items = db.items ∧ later.withdrawals = db.withdrawals := by
  obtain ⟨commission, found, outcome⟩ := syncCommissionStatusTx_cases done
  have key : commission.id = commissionId := key_of_lookup found
  rcases outcome with ⟨_, rfl⟩ | ⟨settled, frozenAt, rfl⟩
  · exact ⟨rfl, rfl, rfl⟩
  refine ⟨?_, rfl, rfl⟩
  funext id
  simp only [owed, lookup_save]
  by_cases same : commission.id = id
  · rw [if_pos same, ← same, key, found]
    simp only [Option.map_some, ReferralCommission.owed, Option.some.injEq,
      Owed.mk.injEq, true_and, decide_eq_decide]
    exact iff_of_true (deriveCommissionStatusTx_ne_pending _ _ _) settled
  · rw [if_neg same]

theorem statusDerived_syncCommissionStatusTx (apart : StatusDerivedApart db commissionId)
    (done : syncCommissionStatusTx now db commissionId = .ok later) :
    StatusDerived later := by
  obtain ⟨commission, found, outcome⟩ := syncCommissionStatusTx_cases done
  have key : commission.id = commissionId := key_of_lookup found
  intro row listed settled
  rcases outcome with ⟨pending, rfl⟩ | ⟨_, frozenAt, rfl⟩
  · apply apart row listed _ settled
    intro same
    have stored : later.commissions.lookup commissionId = some row :=
      lookup_eq_some_iff.mpr ⟨listed, same⟩
    rw [found] at stored
    cases stored
    exact settled pending
  · have stored := lookup_eq_some_iff.mpr ⟨listed, (rfl : row.id = row.id)⟩
    rw [lookup_save] at stored
    by_cases same : commission.id = row.id
    · rw [if_pos same, ← same, key, found] at stored
      cases stored
      rfl
    · rw [if_neg same] at stored
      have old := (lookup_eq_some_iff.mp stored).1
      exact apart row old (fun other => same (key.trans other.symm)) settled

theorem StatusDerivedApart.congr {id : Int} (derived : StatusDerived db)
    (sameCommissions : later.commissions = db.commissions)
    (sameItems : ∀ status other, other ≠ id →
      later.allocated status other = db.allocated status other) :
    StatusDerivedApart later id := by
  intro commission listed different settled
  rw [sameCommissions] at listed
  rw [derived commission listed settled]
  exact
    deriveCommissionStatusTx_congr (fun status => (sameItems status commission.id different).symm) _

theorem allocated_add (db : ReferralDatabase) (commissionId : Int) :
    db.allocated .frozen commissionId + db.allocated .withdrawn commissionId =
      db.items.total (·.heldOf commissionId) := by
  simp only [allocated]
  rw [← total_add]
  apply total_congr
  intro item _
  unfold heldOf
  by_cases same : item.commissionId = commissionId
  · cases status : item.status <;> simp [same]
  · simp [same]

end Statements

/-! ## Booking -/

section Booking

variable {owed : Int → Option Owed} {withdrawal : ReferralWithdrawal}
  {db later : ReferralDatabase} {now remaining left : Int}

/-- A withdrawal whose items are being written, with what is left of it. -/
structure Allocating (owed : Int → Option Owed) (withdrawal : ReferralWithdrawal)
    (db : ReferralDatabase) (remaining : Int) : Prop where
  sameOwed : db.owed = owed
  found : db.withdrawals.lookup withdrawal.id = some withdrawal
  backing : Backing db.owed db.items
  known : ItemsKnown db.withdrawals db.items
  apart : FilledApart db.withdrawals db.items withdrawal.id
  frozen : ∀ item ∈ db.items.rows, item.withdrawalId = withdrawal.id → item.status = .frozen
  total : db.items.total (·.partOf withdrawal.id) + remaining = withdrawal.amount
  nonnegative : 0 ≤ remaining

theorem Allocating.createItem {commissionId amount : Int}
    (allocating : Allocating owed withdrawal db remaining)
    (positive : 0 ≤ amount) (enough : amount ≤ remaining)
    (backed : commissionId = 0 ∨
      ∃ entry, owed commissionId = some entry ∧ entry.settled = true ∧
        db.items.total (·.heldOf commissionId) + amount ≤ entry.amount)
    (done : createItem db withdrawal.id commissionId amount = .ok later) :
    Allocating owed withdrawal later (remaining - amount) := by
  obtain ⟨item, items, owner, commission, size, status, created, rfl⟩ := createItem_cases done
  have ownerFound : db.withdrawals.lookup item.withdrawalId = some withdrawal :=
    owner ▸ allocating.found
  refine ⟨allocating.sameOwed, allocating.found, ?_,
      allocating.known.create created ownerFound, ?_, ?_, ?_, ?_⟩
  · apply allocating.backing.create created
    · rw [size]
      exact positive
    · rw [commission, size, allocating.sameOwed]
      exact backed
  · intro other listed different
    apply (allocating.apart other listed different).create_other created
    rw [owner]
    exact different.symm
  · intro row listed rowOwner
    rw [rows_create created] at listed
    rcases List.mem_append.mp listed with old | new
    · exact allocating.frozen row old rowOwner
    · rw [List.mem_singleton.mp new]
      exact status
  · have before := allocating.total
    rw [total_create _ created]
    simp only [partOf] at before ⊢
    omega
  · omega

theorem Allocating.syncCommissionStatusTx {commissionId : Int}
    (allocating : Allocating owed withdrawal db remaining)
    (done : syncCommissionStatusTx now db commissionId = .ok later) :
    Allocating owed withdrawal later remaining := by
  obtain ⟨sameOwed, sameItems, sameWithdrawals⟩ := owed_syncCommissionStatusTx done
  refine ⟨?_, ?_, ?_, ?_, ?_, ?_, ?_, allocating.nonnegative⟩
  · rw [sameOwed]
    exact allocating.sameOwed
  · rw [sameWithdrawals]
    exact allocating.found
  · rw [sameOwed, sameItems]
    exact allocating.backing
  · rw [sameWithdrawals, sameItems]
    exact allocating.known
  · rw [sameWithdrawals, sameItems]
    exact allocating.apart
  · rw [sameItems]
    exact allocating.frozen
  · rw [sameItems]
    exact allocating.total

variable {withdrawalId : Int} {commission : ReferralCommission}

section

variable
  (done : allocateFromCommission now withdrawalId (db, remaining) commission = .ok (later, left))
include done

/-- A commission gives what it has left, up to what is asked. -/
theorem allocateFromCommission_cases :
    later = db ∧ left = remaining ∨
      ∃ itemed amount, 0 ≤ amount ∧ amount ≤ remaining ∧
        db.items.total (·.heldOf commission.id) + amount ≤ commission.commissionAmount ∧
        createItem db withdrawalId commission.id amount = .ok itemed ∧
        syncCommissionStatusTx now itemed commission.id = .ok later ∧
        left = remaining - amount := by
  simp only [allocateFromCommission] at done
  by_cases finished : remaining ≤ 0
  · rw [if_pos finished] at done
    cases done
    exact Or.inl ⟨rfl, rfl⟩
  rw [if_neg finished] at done
  by_cases exhausted :
      commission.commissionAmount - db.allocated .frozen commission.id -
        db.allocated .withdrawn commission.id ≤ 0
  · rw [if_pos exhausted] at done
    cases done
    exact Or.inl ⟨rfl, rfl⟩
  rw [if_neg exhausted] at done
  obtain ⟨itemed, creation, done⟩ := bind_ok_iff.mp done
  obtain ⟨synced, sync, done⟩ := bind_ok_iff.mp done
  cases done
  have held := allocated_add db commission.id
  exact Or.inr ⟨itemed, _, by omega, by omega, by omega, creation, sync, rfl⟩

theorem owed_allocateFromCommission :
    later.owed = db.owed := by
  rcases allocateFromCommission_cases done with ⟨rfl, _⟩ |
    ⟨itemed, amount, _, _, _, creation, sync, _⟩
  · rfl
  · obtain ⟨item, items, _, _, _, _, _, rfl⟩ := createItem_cases creation
    exact (owed_syncCommissionStatusTx sync).1

end

variable {affiliateId : Int}

theorem owed_allocateWithdrawalItemsTx {amount : Int}
    (done : allocateWithdrawalItemsTx now db affiliateId withdrawalId amount = .ok later) :
    later.owed = db.owed := by
  obtain ⟨⟨walked, left⟩, walk, done⟩ := bind_ok_iff.mp done
  have walkedOwed : walked.owed = db.owed :=
    foldlM_invariant (fun progress : ReferralDatabase × Int => progress.1.owed = db.owed)
      (fun _ _ _ _ step same => (owed_allocateFromCommission step).trans same)
      walk rfl
  simp only at done
  split at done
  · obtain ⟨item, items, _, _, _, _, _, rfl⟩ := createItem_cases done
    exact walkedOwed
  · cases done
    exact walkedOwed

theorem Allocating.allocateFromCommission (allocating : Allocating owed withdrawal db remaining)
    (settled : owed commission.id = some ⟨commission.commissionAmount, true⟩)
    (done :
      allocateFromCommission now withdrawal.id (db, remaining)
        commission = .ok (later, left)) :
    Allocating owed withdrawal later left := by
  rcases allocateFromCommission_cases done with ⟨rfl, rfl⟩ |
    ⟨itemed, amount, nonnegative, enough, room, creation, sync, rfl⟩
  · exact allocating
  · have created :=
      allocating.createItem nonnegative enough (Or.inr ⟨_, settled, rfl, room⟩) creation
    exact created.syncCommissionStatusTx sync

theorem owed_of_mem_settledCommissions (listed : commission ∈ db.settledCommissions affiliateId) :
    db.owed commission.id = some ⟨commission.commissionAmount, true⟩ := by
  rw [settledCommissions, List.mem_insertionSort] at listed
  obtain ⟨stored, passes⟩ := List.mem_filter.mp listed
  have found : db.commissions.lookup commission.id = some commission :=
    lookup_eq_some_iff.mpr ⟨stored, rfl⟩
  have settled : commission.status ≠ .pending := by
    simp only [Bool.and_eq_true, decide_eq_true_eq] at passes
    exact passes.2
  simp [owed, found, ReferralCommission.owed, settled]

theorem Allocating.allocateWithdrawalItemsTx
    (allocating : Allocating db.owed withdrawal db withdrawal.amount)
    (pending : withdrawal.status = .pending)
    (done :
      allocateWithdrawalItemsTx now db affiliateId withdrawal.id
        withdrawal.amount = .ok later) :
    Allocated later := by
  obtain ⟨⟨walked, left⟩, walk, done⟩ := bind_ok_iff.mp done
  have walkedAllocating : Allocating db.owed withdrawal walked left :=
    foldlM_invariant
      (fun progress : ReferralDatabase × Int => Allocating db.owed withdrawal progress.1 progress.2)
      (by
        rintro ⟨state, remaining⟩ commission ⟨next, less⟩ member step before
        exact before.allocateFromCommission (owed_of_mem_settledCommissions member) step)
      walk allocating
  simp only at done
  have finished : ∃ rest, Allocating db.owed withdrawal later rest ∧ rest ≤ 1 := by
    by_cases short : 1 < left
    · rw [if_pos short] at done
      refine ⟨left - left, ?_, by omega⟩
      exact
        walkedAllocating.createItem walkedAllocating.nonnegative (le_refl left) (Or.inl rfl) done
    · rw [if_neg short] at done
      cases done
      exact ⟨left, walkedAllocating, not_lt.mp short⟩
  obtain ⟨rest, last, small⟩ := finished
  refine ⟨last.backing, last.known, ?_⟩
  intro other listed
  by_cases same : other.id = withdrawal.id
  · have stored : later.withdrawals.lookup withdrawal.id = some other :=
      lookup_eq_some_iff.mpr ⟨listed, same⟩
    rw [last.found] at stored
    cases stored
    have total := last.total
    have nonnegative := last.nonnegative
    refine ⟨?_, ?_, ?_⟩
    · rw [pending]
      exact last.frozen
    · intro _
      omega
    · intro _
      omega
  · exact last.apart other listed same

end Booking

/-! ## The end of a withdrawal -/

section Ending

variable {withdrawal : ReferralWithdrawal} {db later : ReferralDatabase}
  {now : Int} {target : ItemStatus}
  {change : ReferralWithdrawalItem → ReferralWithdrawalItem}

structure EndsItem (target : ItemStatus)
    (change : ReferralWithdrawalItem → ReferralWithdrawalItem) : Prop where
  id : ∀ item, (change item).id = item.id
  withdrawalId : ∀ item, (change item).withdrawalId = item.withdrawalId
  commissionId : ∀ item, (change item).commissionId = item.commissionId
  status : ∀ item, (change item).status = target
  nonnegative : ∀ item, 0 ≤ item.allocatedAmount → 0 ≤ (change item).allocatedAmount
  keeps : target ≠ .released → ∀ item, (change item).allocatedAmount = item.allocatedAmount
  holdsLess : ∀ item id, item.status = .frozen → 0 ≤ item.allocatedAmount →
    (change item).heldOf id ≤ item.heldOf id

theorem endsItem_release : EndsItem .released (fun item =>
      { item with status := .released, allocatedAmount := 0 }) := by
  refine ⟨fun _ => rfl, fun _ => rfl, fun _ => rfl, fun _ => rfl, fun _ _ => le_refl 0, ?_, ?_⟩
  · intro kept
    exact absurd rfl kept
  · intro item id _ nonnegative
    simp only [heldOf, ne_eq, not_true_eq_false, and_false, if_false]
    split
    · exact nonnegative
    · exact le_refl 0

theorem endsItem_pay : EndsItem .withdrawn (fun item => { item with status := .withdrawn }) := by
  refine ⟨fun _ => rfl, fun _ => rfl, fun _ => rfl, fun _ => rfl,
      fun _ nonnegative => nonnegative, fun _ _ => rfl, ?_⟩
  intro item id frozen _
  simp [heldOf, frozen]

variable {item : ReferralWithdrawalItem}

theorem endItem_cases (done : endItem now change db item = .ok later) :
    item.commissionId ≤ 0 ∧ later = { db with items := db.items.save (change item) } ∨
      syncCommissionStatusTx now
          { db with items := db.items.save (change item) } item.commissionId =
        .ok later := by
  simp only [endItem] at done
  by_cases none : item.commissionId ≤ 0
  · rw [if_pos none] at done
    cases done
    exact Or.inl ⟨none, rfl⟩
  · rw [if_neg none] at done
    exact Or.inr done

theorem endItem_tables (done : endItem now change db item = .ok later) :
    later.owed = db.owed ∧ later.items = db.items.save (change item) ∧
      later.withdrawals = db.withdrawals := by
  rcases endItem_cases done with ⟨_, rfl⟩ | sync
  · exact ⟨rfl, rfl, rfl⟩
  · exact owed_syncCommissionStatusTx sync

theorem owed_endItems {items : List ReferralWithdrawalItem}
    (done : items.foldlM (endItem now change) db = .ok later) :
    later.owed = db.owed :=
  foldlM_invariant (fun state : ReferralDatabase => state.owed = db.owed)
    (fun _ _ _ _ step same => (endItem_tables step).1.trans same) done rfl

theorem endItems_rule {withdrawalId : Int}
    (holds : List ReferralWithdrawalItem → ReferralDatabase → Prop)
    (sameId : ∀ item, (change item).id = item.id)
    (preserved : ∀ state item rest next,
      state.items.lookup item.id = some item →
        endItem now change state item = .ok next → holds (item :: rest) state → holds rest next)
    (done : (db.frozenItems withdrawalId).foldlM (endItem now change) db = .ok later)
    (initially : holds (db.frozenItems withdrawalId) db) :
    holds [] later := by
  have rule :=
    foldlM_remaining_invariant
      (fun remaining state =>
        (remaining.map ReferralWithdrawalItem.id).Nodup ∧
          (∀ item ∈ remaining, state.items.lookup item.id = some item) ∧ holds remaining state)
      (by
        rintro state item rest next step ⟨nodup, stored, before⟩
        rw [List.map_cons, List.nodup_cons] at nodup
        refine ⟨nodup.2, ?_, ?_⟩
        · intro other listed
          have different : item.id ≠ other.id := by
            intro same
            exact nodup.1 (same ▸ List.mem_map_of_mem listed)
          rw [(endItem_tables step).2.1, lookup_save, sameId, if_neg different]
          exact stored other (List.mem_cons_of_mem item listed)
        · exact preserved state item rest next (stored item List.mem_cons_self) step before)
      done
  refine (rule ⟨?_, ?_, initially⟩).2.2
  · exact (List.filter_sublist.map _).nodup db.items.unique
  · intro item listed
    exact lookup_eq_some_iff.mpr ⟨(List.mem_filter.mp listed).1, rfl⟩

/-- A withdrawal that has ended while some of its items have not. -/
structure Ending (withdrawal : ReferralWithdrawal) (target : ItemStatus) (total : Int)
    (withdrawals : KeyedTable ReferralWithdrawal.id)
    (remaining : List ReferralWithdrawalItem) (db : ReferralDatabase) :
    Prop where
  sameWithdrawals : db.withdrawals = withdrawals
  backing : Backing db.owed db.items
  known : ItemsKnown db.withdrawals db.items
  apart : FilledApart db.withdrawals db.items withdrawal.id
  frozen : ∀ item ∈ remaining, item.withdrawalId = withdrawal.id ∧ item.status = .frozen
  ended : ∀ item ∈ db.items.rows, item.withdrawalId = withdrawal.id →
    item.status = target ∨ item ∈ remaining
  total : target ≠ .released → db.items.total (·.partOf withdrawal.id) = total

theorem Ending.endItem {total : Int} {withdrawals : KeyedTable ReferralWithdrawal.id}
    {rest : List ReferralWithdrawalItem} (ends : EndsItem target change)
    (ending : Ending withdrawal target total withdrawals (item :: rest) db)
    (stored : db.items.lookup item.id = some item) (done : endItem now change db item = .ok later) :
    Ending withdrawal target total withdrawals rest later := by
  obtain ⟨sameOwed, sameItems, sameWithdrawals⟩ := endItem_tables done
  obtain ⟨owner, frozen⟩ := ending.frozen item List.mem_cons_self
  have listed : item ∈ db.items.rows := (lookup_eq_some_iff.mp stored).1
  have nonnegative := ending.backing.nonnegative item listed
  have found : db.items.lookup (change item).id = some item := by
    rw [ends.id]
    exact stored
  refine ⟨?_, ?_, ?_, ?_, ?_, ?_, ?_⟩
  · rw [sameWithdrawals]
    exact ending.sameWithdrawals
  · rw [sameOwed, sameItems]
    exact ending.backing.save found (ends.commissionId item) (ends.nonnegative item nonnegative)
        (fun id => ends.holdsLess item id frozen nonnegative)
  · rw [sameWithdrawals, sameItems]
    exact ending.known.save found (ends.withdrawalId item)
  · rw [sameWithdrawals, sameItems]
    intro other otherListed different
    apply (ending.apart other otherListed different).save_other found (ends.withdrawalId item)
    rw [owner]
    exact different.symm
  · intro other otherListed
    exact ending.frozen other (List.mem_cons_of_mem item otherListed)
  · intro row rowListed rowOwner
    rw [sameItems] at rowListed
    have rowStored := lookup_eq_some_iff.mpr ⟨rowListed, (rfl : row.id = row.id)⟩
    rw [lookup_save, ends.id] at rowStored
    by_cases same : item.id = row.id
    · rw [if_pos same, ← same, stored] at rowStored
      cases rowStored
      exact Or.inl (ends.status item)
    · rw [if_neg same] at rowStored
      have old := (lookup_eq_some_iff.mp rowStored).1
      rcases ending.ended row old rowOwner with isEnded | waiting
      · exact Or.inl isEnded
      · rcases List.mem_cons.mp waiting with rfl | later
        · exact absurd rfl same
        · exact Or.inr later
  · intro kept
    rw [sameItems, total_save _ _ found]
    simp only [partOf, ends.withdrawalId, ends.keeps kept, sub_self, add_zero]
    exact ending.total kept

theorem Allocated.endItems (status : WithdrawalStatus) {review : WithdrawalReview}
    (ends : EndsItem status.itemStatus change)
    (allocated : Allocated db) (found : db.withdrawals.lookup withdrawal.id = some withdrawal)
    (isOpen : withdrawal.status.itemStatus = .frozen)
    {saved : ReferralDatabase} (sameOwed : saved.owed = db.owed)
    (sameItems : saved.items = db.items)
    (sameWithdrawals : saved.withdrawals =
      db.withdrawals.save { withdrawal with status := status, review := review })
    (done : (saved.frozenItems withdrawal.id).foldlM (endItem now change) saved = .ok later) :
    Allocated later := by
  have listed : withdrawal ∈ db.withdrawals.rows := (lookup_eq_some_iff.mp found).1
  have filledBefore := allocated.filled withdrawal listed
  have savedLookup : ∀ id, saved.withdrawals.lookup id =
      if withdrawal.id = id then some { withdrawal with status := status, review := review }
      else db.withdrawals.lookup id := by
    intro id
    rw [sameWithdrawals, lookup_save]
    by_cases same : withdrawal.id = id
    · rw [if_pos same, if_pos same, ← same, found]
      rfl
    · rw [if_neg same, if_neg same]
  have startEnding :
      Ending withdrawal status.itemStatus
        (db.items.total (·.partOf withdrawal.id)) saved.withdrawals
        (saved.frozenItems withdrawal.id) saved := by
    refine ⟨rfl, ?_, ?_, ?_, ?_, ?_, ?_⟩
    · rw [sameOwed, sameItems]
      exact allocated.backing
    · intro item itemListed
      rw [sameItems] at itemListed
      obtain ⟨owner, ownerFound⟩ := allocated.known item itemListed
      rw [savedLookup]
      split
      · exact ⟨_, rfl⟩
      · exact ⟨owner, ownerFound⟩
    · intro other otherListed different
      rw [sameItems]
      rw [sameWithdrawals] at otherListed
      rcases mem_rows_save otherListed with rfl | old
      · exact absurd rfl different
      · exact allocated.filled other old
    · intro item itemListed
      have passes := (List.mem_filter.mp itemListed).2
      simpa using passes
    · intro item itemListed owner
      rw [sameItems] at itemListed
      have frozen := filledBefore.status item itemListed owner
      right
      apply List.mem_filter.mpr
      rw [sameItems]
      refine ⟨itemListed, ?_⟩
      rw [isOpen] at frozen
      simp [owner, frozen]
    · intro _
      rw [sameItems]
  have last :=
    endItems_rule
      (Ending withdrawal status.itemStatus
        (db.items.total (·.partOf withdrawal.id)) saved.withdrawals)
      ends.id
      (fun _ _ _ _ stored step before => before.endItem ends stored step)
      done startEnding
  have notReleased : withdrawal.status.itemStatus ≠ .released := by
    rw [isOpen]
    rintro ⟨⟩
  refine ⟨last.backing, last.known, ?_⟩
  intro other otherListed
  by_cases same : other.id = withdrawal.id
  · have stored : later.withdrawals.lookup withdrawal.id = some other :=
      lookup_eq_some_iff.mpr ⟨otherListed, same⟩
    rw [last.sameWithdrawals, savedLookup, if_pos rfl] at stored
    cases stored
    refine ⟨?_, ?_, ?_⟩
    · intro item itemListed owner
      rcases last.ended item itemListed owner with ended | waiting
      · exact ended
      · cases waiting
    · intro kept
      rw [last.total kept]
      exact filledBefore.atMost notReleased
    · intro kept
      rw [last.total kept]
      exact filledBefore.atLeast notReleased
  · exact last.apart other otherListed same

end Ending

end NewApi.Referral
