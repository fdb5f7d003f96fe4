import Mathlib.Data.List.Dedup
import Mathlib.Logic.Embedding.Basic
import NewApi.Billing.LocalResets
import NewApi.Billing.SubscriptionUsage
import NewApi.Lib.BatchQueue
import NewApi.Lib.Listing

/-!
# The subscription maintenance pass

`service/subscription_reset_task.go`.  Both loops work in batches and go on as
long as a batch reports its full size.  A row that is due for a reset is
reported whether or not the reset changed it, so the second loop ends only when
the rows that no reset changes do not fill a batch.
-/

namespace NewApi.Billing

open BatchQueue KeyedTable Database

structure GroupTransition where
  upgradeGroup : String := ""
  prevUserGroup : String := ""
  downgradeGroup : String := ""

/-- The tables of a pass, with the group of every user and the group columns of
every subscription. -/
structure MaintenanceState where
  db : Database
  groups : Int → String := fun _ => ""
  transitions : Int → GroupTransition := fun _ => {}

def UserSubscription.isPastEnd (sub : UserSubscription) (now : Int) : Bool :=
  sub.status = .active && decide (0 < sub.endTime) && decide (sub.endTime ≤ now)

def UserSubscription.expire (sub : UserSubscription) : UserSubscription :=
  { sub with status := .expired }

def UserSubscription.EndsBefore (left right : UserSubscription) : Prop :=
  left.endTime < right.endTime ∨ left.endTime = right.endTime ∧ left.id ≤ right.id

instance : DecidableRel UserSubscription.EndsBefore := fun left right =>
  inferInstanceAs
    (Decidable (left.endTime < right.endTime ∨ left.endTime = right.endTime ∧ left.id ≤ right.id))

namespace MaintenanceState

def lastExpired (state : MaintenanceState) (userId : Int) :
    Option UserSubscription :=
  ((state.db.subscriptions.rows.filter (fun sub =>
      sub.userId = userId && sub.status = .expired &&
        ((state.transitions sub.id).downgradeGroup ≠ "" ||
          (state.transitions sub.id).upgradeGroup ≠ ""))).insertionSort
    (fun left right => right.EndsBefore left)).head?

def fallbackGroup (transition : GroupTransition) (currentGroup : String) :
    String :=
  if transition.downgradeGroup ≠ "" then transition.downgradeGroup
  else if transition.upgradeGroup = "" ∨ transition.prevUserGroup = "" then ""
  else if currentGroup ≠ transition.upgradeGroup then ""
  else transition.prevUserGroup

def revertGroup (state : MaintenanceState) (now userId : Int) :
    MaintenanceState :=
  if state.db.subscriptions.rows.any (fun sub =>
      sub.userId = userId && sub.status = .active &&
        decide (now < sub.endTime) &&
        (state.transitions sub.id).upgradeGroup ≠ "") then
    state
  else
    match state.lastExpired userId with
    | none => state
    | some sub =>
      let target := fallbackGroup (state.transitions sub.id) (state.groups userId)
      if target = "" ∨ target = state.groups userId then state
      else
        { state with groups := Function.update state.groups userId target }

def expireUser (now userId : Int) (state : MaintenanceState) :
    Nat × MaintenanceState :=
  let due := fun sub : UserSubscription => decide (sub.userId = userId) && sub.isPastEnd now
  let expired :=
    { state with
      db :=
        { state.db with
          subscriptions :=
            state.db.subscriptions.update due UserSubscription.expire (fun _ => rfl) } }
  (state.db.subscriptions.rows.countP due, expired.revertGroup now userId)

def pastEnd (state : MaintenanceState) (now : Int) : List UserSubscription :=
  (state.db.subscriptions.rows.filter (fun sub =>
    sub.isPastEnd now)).insertionSort UserSubscription.EndsBefore

def expireDueSubscriptions (now limit : Int) (state : MaintenanceState) :
    Nat × MaintenanceState :=
  let batch := if limit ≤ 0 then 200 else limit.toNat
  let subs := (state.pastEnd now).take batch
  let userIds := ((subs.map UserSubscription.userId).filter (fun userId => 0 < userId)).dedup
  userIds.foldl
    (fun progress userId =>
      let (affected, state) := expireUser now userId progress.2
      (progress.1 + affected, state))
    (0, state)

end MaintenanceState

def UserSubscription.isResetDue (sub : UserSubscription) (now : Int) : Bool :=
  decide (0 < sub.nextResetTime) && decide (sub.nextResetTime ≤ now) && sub.status = .active

def UserSubscription.ResetsBefore (rank : Int ↪ Int) (left right : UserSubscription) : Prop :=
  left.nextResetTime < right.nextResetTime ∨
    left.nextResetTime = right.nextResetTime ∧ rank left.id ≤ rank right.id

instance (rank : Int ↪ Int) :
    DecidableRel (UserSubscription.ResetsBefore rank) := fun left right =>
  inferInstanceAs
    (Decidable
      (left.nextResetTime < right.nextResetTime ∨
        left.nextResetTime = right.nextResetTime ∧ rank left.id ≤ rank right.id))

def getSubscriptionPlanById (plans : KeyedTable SubscriptionPlan.id) (id : Int) :
    Option SubscriptionPlan :=
  if id ≤ 0 then none else plans.lookup id

def dueForReset (rank : Int ↪ Int) (now : Int) (db : Database) :
    List UserSubscription :=
  (db.subscriptions.rows.filter (fun sub =>
    sub.isResetDue now)).insertionSort (UserSubscription.ResetsBefore rank)

/-- The transaction of one row.  A row without a plan is skipped; every other
row is counted. -/
def resetDueRow (location : Location) (now : Int) (fuel : Nat) (progress : Nat × Database)
    (sub : UserSubscription) : Option (Nat × Database) :=
  match getSubscriptionPlanById progress.2.plans sub.planId with
  | none => some progress
  | some plan =>
    match progress.2.subscriptions.lookup sub.id with
    | none => some progress
    | some locked =>
      if 0 < locked.nextResetTime ∧ locked.nextResetTime ≤ now then
        match location.maybeResetUserSubscription plan now fuel locked with
        | none => none
        | some reset => some (progress.1 + 1, progress.2.saveSubscription reset)
      else some progress

namespace MaintenanceState

def resetDueSubscriptions (location : Location) (rank : Int ↪ Int) (now limit : Int) (fuel : Nat)
    (state : MaintenanceState) : Option (Nat × MaintenanceState) :=
  let batch := if limit ≤ 0 then 200 else limit.toNat
  let subs := (dueForReset rank now state.db).take batch
  match subs.foldlM (resetDueRow location now fuel) (0, state.db) with
  | none => none
  | some (resetCount, db) => some (resetCount, { state with db := db })

def subscriptionResetBatchSize : Nat := 300

def expireLoop (now : Int) : Nat → MaintenanceState → Option MaintenanceState :=
  repeatBatch
    (fun _ state => some (expireDueSubscriptions now subscriptionResetBatchSize state))
    subscriptionResetBatchSize

def resetLoop (location : Location) (rank : Int ↪ Int) (now : Int) :
    Nat → MaintenanceState → Option MaintenanceState :=
  repeatBatch
    (resetDueSubscriptions location rank now subscriptionResetBatchSize)
    subscriptionResetBatchSize

/-- Both loops of a pass; `none` when the fuel does not do for one of them or
for the loop inside a reset. -/
def runSubscriptionQuotaResetOnce (location : Location) (rank : Int ↪ Int) (now : Int) (fuel : Nat)
    (state : MaintenanceState) : Option MaintenanceState :=
  (expireLoop now fuel state).bind (resetLoop location rank now fuel)

end MaintenanceState

/-! ## The first loop -/

def UserSubscription.expireIfPast (now : Int) (sub : UserSubscription) : UserSubscription :=
  if sub.isPastEnd now then sub.expire else sub

namespace MaintenanceState

section Expiry

variable {state : MaintenanceState} {now userId : Int}

def subs (state : MaintenanceState) : List UserSubscription := state.db.subscriptions.rows

@[simp]
theorem isPastEnd_expire (sub : UserSubscription) : sub.expire.isPastEnd now = false := rfl

@[simp]
theorem revertGroup_db (state : MaintenanceState) (now userId : Int) :
    (state.revertGroup now userId).db = state.db := by
  unfold revertGroup
  split
  · rfl
  · split
    · rfl
    · dsimp only
      split <;> rfl

def expireChosen (now : Int) (chosen : Int → Bool) (sub : UserSubscription) :
    UserSubscription :=
  if chosen sub.userId && sub.isPastEnd now then sub.expire else sub

theorem expireUser_subs (state : MaintenanceState) : (expireUser now userId state).2.subs =
      state.subs.map (expireChosen now (fun other => decide (other = userId))) := by
  simp [expireUser, subs, update, expireChosen]

theorem expireUser_count (state : MaintenanceState) :
    (expireUser now userId state).2.subs.countP (fun sub => sub.isPastEnd now) +
        (expireUser now userId state).1 =
      state.subs.countP (fun sub => sub.isPastEnd now) := by
  rw [expireUser_subs]
  change _ + state.subs.countP (fun sub => decide (sub.userId = userId) && sub.isPastEnd now) = _
  induction state.subs with
  | nil => rfl
  | cons sub rest ih =>
    rw [List.map_cons, List.countP_cons, List.countP_cons, List.countP_cons]
    by_cases owner : sub.userId = userId
    · cases past : sub.isPastEnd now with
      | true =>
        simp only [expireChosen, owner, past, decide_true, Bool.and_self, if_true, isPastEnd_expire,
          Bool.false_eq_true, if_false]
        omega
      | false =>
        simp only [expireChosen, past, Bool.and_false, Bool.false_eq_true, if_false]
        omega
    · cases past : sub.isPastEnd now with
      | true =>
        simp only [expireChosen, owner, past, decide_false,
          Bool.false_and, Bool.false_eq_true, if_false, if_true]
        omega
      | false =>
        simp only [expireChosen, past, Bool.and_false, Bool.false_eq_true, if_false]
        omega

def expireUsers (now : Int) (userIds : List Int) (progress : Nat × MaintenanceState) :
    Nat × MaintenanceState :=
  userIds.foldl
    (fun progress userId =>
      let (affected, state) := expireUser now userId progress.2
      (progress.1 + affected, state))
    progress

theorem expireUsers_count (userIds : List Int) :
    ∀ progress : Nat × MaintenanceState,
      (expireUsers now userIds progress).2.subs.countP (fun sub => sub.isPastEnd now) +
          (expireUsers now userIds progress).1 =
        progress.2.subs.countP (fun sub => sub.isPastEnd now) + progress.1 := by
  induction userIds with
  | nil =>
    intro progress
    rfl
  | cons userId rest ih =>
    intro progress
    have first := @expireUser_count now userId progress.2
    have later :=
      ih (progress.1 + (expireUser now userId progress.2).1, (expireUser now userId progress.2).2)
    refine later.trans ?_
    dsimp only
    omega

theorem expireUsers_subs (userIds : List Int) :
    ∀ progress : Nat × MaintenanceState,
      (expireUsers now userIds progress).2.subs =
        progress.2.subs.map (expireChosen now (fun userId => userIds.contains userId)) := by
  induction userIds with
  | nil =>
    intro progress
    have idle : expireChosen now (fun userId => ([] : List Int).contains userId) = id := by
      funext sub
      simp [expireChosen]
    rw [idle, List.map_id]
    rfl
  | cons userId rest ih =>
    intro progress
    refine (ih
        (progress.1 + (expireUser now userId progress.2).1,
          (expireUser now userId progress.2).2)).trans ?_
    rw [expireUser_subs, List.map_map]
    apply List.map_congr_left
    intro sub _
    simp only [Function.comp_apply, expireChosen, List.contains_cons, beq_eq_decide]
    by_cases owner : sub.userId = userId
    · by_cases past : sub.isPastEnd now = true
      · simp [owner, past]
      · simp [past]
    · simp [owner]

def batchUsers (state : MaintenanceState) (now : Int) (batch : Nat) :
    List Int :=
  ((((state.pastEnd now).take batch).map UserSubscription.userId).filter
    (fun userId => 0 < userId)).dedup

theorem expireDue_eq (limit : Nat) (positive : 0 < limit) : expireDueSubscriptions now limit state =
      expireUsers now (state.batchUsers now limit) (0, state) := by
  unfold expireDueSubscriptions
  rw [if_neg (by omega), Int.toNat_natCast]
  rfl

theorem settles_expireDue (now : Int) :
    Settles (fun _ state =>
      some (expireDueSubscriptions now subscriptionResetBatchSize state)) :=
  fun _ _ _ ran _ => ran

theorem expireLoop_ends (now : Int) (state : MaintenanceState) :
    ∃ fuel mid, expireLoop now fuel state = some mid := by
  refine @loopEnds_of_measure _ _ _ (by decide) (fun _ => True) (settles_expireDue now)
      (fun state => state.subs.countP (fun sub => sub.isPastEnd now)) ?_ state trivial
  intro state _
  refine ⟨0, (expireDueSubscriptions now subscriptionResetBatchSize state).1,
      (expireDueSubscriptions now subscriptionResetBatchSize state).2, rfl,
      fun full => ⟨trivial, ?_⟩⟩
  have count := @expireUsers_count now (state.batchUsers now subscriptionResetBatchSize) (0, state)
  rw [← expireDue_eq subscriptionResetBatchSize (by decide)] at count
  dsimp only at count ⊢
  unfold subscriptionResetBatchSize at *
  omega

theorem expireDue_clears (owned : ∀ sub ∈ state.subs, 0 < sub.userId)
    {limit : Nat} (positive : 0 < limit)
    (short : (expireDueSubscriptions now limit state).1 < limit) :
    (expireDueSubscriptions now limit state).2.subs.countP (fun sub => sub.isPastEnd now) = 0 := by
  rw [expireDue_eq limit positive] at short ⊢
  have count := @expireUsers_count now (state.batchUsers now limit) (0, state)
  have shuffle : (state.pastEnd now).Perm (state.subs.filter (fun sub => sub.isPastEnd now)) :=
    List.perm_insertionSort _ _
  have named : ∀ sub ∈ (state.pastEnd now).take limit, sub.userId ∈ state.batchUsers now limit := by
    intro sub member
    have row := shuffle.mem_iff.mp (List.mem_of_mem_take member)
    have ownerPositive := owned sub (List.mem_filter.mp row).1
    rw [batchUsers, List.mem_dedup, List.mem_filter]
    exact ⟨List.mem_map_of_mem member, decide_eq_true ownerPositive⟩
  -- Every row of the batch is counted, so a short count means a short batch.
  have within : (state.pastEnd now).length < limit := by
    have left :
        (expireUsers now (state.batchUsers now limit)
              (0, state)).2.subs.countP (fun sub => sub.isPastEnd now) =
          (state.pastEnd now).countP (fun sub =>
            !(state.batchUsers now limit).contains sub.userId) := by
      rw [expireUsers_subs, List.countP_map, shuffle.countP_eq, List.countP_filter]
      apply List.countP_congr
      intro sub _
      simp only [Function.comp_apply, expireChosen]
      by_cases past : sub.isPastEnd now = true
      · by_cases listed : sub.userId ∈ state.batchUsers now limit
        · simp [past, listed]
        · simp [past, listed]
      · simp [past]
    have total : state.subs.countP (fun sub => sub.isPastEnd now) = (state.pastEnd now).length := by
      rw [shuffle.length_eq, List.countP_eq_length_filter]
    have bound : (state.pastEnd now).countP (fun sub =>
            !(state.batchUsers now limit).contains sub.userId) ≤
          ((state.pastEnd now).drop limit).length := by
      rw [← List.take_append_drop limit (state.pastEnd now), List.countP_append]
      have none : ((state.pastEnd now).take limit).countP (fun sub =>
            !(state.batchUsers now limit).contains sub.userId) = 0 := by
        rw [List.countP_eq_zero]
        intro sub member
        simpa using named sub member
      rw [List.take_append_drop, none, Nat.zero_add]
      exact List.countP_le_length
    rw [List.length_drop] at bound
    dsimp only at count
    omega
  rw [expireUsers_subs, List.countP_map, List.countP_eq_zero]
  intro sub row
  simp only [Function.comp_apply, expireChosen]
  by_cases past : sub.isPastEnd now = true
  · have listed : sub.userId ∈ state.batchUsers now limit := by
      apply named
      rw [List.take_of_length_le (by omega)]
      exact shuffle.mem_iff.mpr (List.mem_filter.mpr ⟨row, past⟩)
    simp [past, listed]
  · simp [past]

theorem expireDue_conserves {limit : Nat} (positive : 0 < limit) :
    (expireDueSubscriptions now limit state).2.subs.map (UserSubscription.expireIfPast now) =
      state.subs.map (UserSubscription.expireIfPast now) := by
  rw [expireDue_eq limit positive, expireUsers_subs, List.map_map]
  apply List.map_congr_left
  intro sub _
  simp only [Function.comp_apply, expireChosen, UserSubscription.expireIfPast]
  by_cases past : sub.isPastEnd now = true
  · by_cases listed : sub.userId ∈ state.batchUsers now limit
    · simp [past, listed]
    · simp [past, listed]
  · simp [past]

theorem expireDue_owned (owned : ∀ sub ∈ state.subs, 0 < sub.userId)
    {limit : Nat} (positive : 0 < limit) :
    ∀ sub ∈ (expireDueSubscriptions now limit state).2.subs, 0 < sub.userId := by
  rw [expireDue_eq limit positive, expireUsers_subs]
  intro sub member
  obtain ⟨before, row, rfl⟩ := List.mem_map.mp member
  have positiveOwner := owned before row
  unfold expireChosen
  split
  · exact positiveOwner
  · exact positiveOwner

theorem expireLoop_subs {fuel : Nat} {mid : MaintenanceState}
    (owned : ∀ sub ∈ state.subs, 0 < sub.userId) (done : expireLoop now fuel state = some mid) :
    mid.subs = state.subs.map (UserSubscription.expireIfPast now) := by
  obtain ⟨_, last, reported, ⟨lastOwned, same⟩, ran, short⟩ :=
    @repeatBatch_last _ _ subscriptionResetBatchSize (Nat.succ_pos 299)
      (fun later =>
        (∀ sub ∈ later.subs, 0 < sub.userId) ∧
          later.subs.map (UserSubscription.expireIfPast now) =
            state.subs.map (UserSubscription.expireIfPast now))
      fuel state mid
      (by
        intro _ later _ _ before ran _
        have next := congrArg Prod.snd (Option.some.inj ran)
        subst next
        exact ⟨expireDue_owned before.1 (by decide),
          (expireDue_conserves (by decide)).trans before.2⟩)
      ⟨owned, rfl⟩ done
  have ran := Option.some.inj ran
  have clear :=
    @expireDue_clears last now lastOwned subscriptionResetBatchSize (by decide)
      (by rw [ran]; exact short)
  rw [← same, ← @expireDue_conserves last now subscriptionResetBatchSize (by decide)]
  rw [ran] at clear ⊢
  rw [List.countP_eq_zero] at clear
  symm
  refine (List.map_congr_left ?_).trans (List.map_id _)
  intro sub row
  have settled := clear sub row
  simp only [UserSubscription.expireIfPast, id_eq]
  rw [if_neg settled]

end Expiry

end MaintenanceState

/-! ## The second loop -/

section Resets

variable {location : Location} {rank : Int ↪ Int} {now : Int}

def UserSubscription.hasPlan
    (plans : KeyedTable SubscriptionPlan.id) (sub : UserSubscription) : Bool :=
  (getSubscriptionPlanById plans sub.planId).isSome

/-- No reset changes the row: its plan is missing, or the period after its last
reset has no end or is still running. -/
def UserSubscription.stays (location : Location) (plans : KeyedTable SubscriptionPlan.id)
    (now : Int) (sub : UserSubscription) : Bool :=
  match getSubscriptionPlanById plans sub.planId with
  | none => true
  | some plan => !decide (location.Passed plan sub.endTime now sub.resetBase)

/-- The reset of the row finds a period that is still running. -/
def UserSubscription.SkipEnds (location : Location) (plans : KeyedTable SubscriptionPlan.id)
    (now : Int) (sub : UserSubscription) : Prop :=
  ∀ plan, getSubscriptionPlanById plans sub.planId = some plan →
    location.SkipEnds plan sub.endTime now sub.resetBase

theorem perm_dueForReset (rank : Int ↪ Int) (now : Int) (db : Database) :
    (dueForReset rank now db).Perm (db.subscriptions.rows.filter (fun sub => sub.isResetDue now)) :=
  List.perm_insertionSort _ _

theorem lookup_of_mem_dueForReset {db : Database} {sub : UserSubscription}
    (member : sub ∈ dueForReset rank now db) :
    db.subscriptions.lookup sub.id = some sub ∧ sub.isResetDue now = true := by
  obtain ⟨row, due⟩ := List.mem_filter.mp ((perm_dueForReset rank now db).mem_iff.mp member)
  exact ⟨lookup_eq_some_iff.mpr ⟨row, rfl⟩, due⟩

theorem dueForReset_save {db : Database} {sub : UserSubscription}
    (settled : sub.isResetDue now = false) :
    dueForReset rank now (db.saveSubscription sub) =
      (dueForReset rank now db).filter (fun other => other.id ≠ sub.id) := by
  have total : Std.Total (UserSubscription.ResetsBefore rank) := by
    refine ⟨fun left right => ?_⟩
    unfold UserSubscription.ResetsBefore
    omega
  have transitive : IsTrans UserSubscription (UserSubscription.ResetsBefore rank) := by
    refine ⟨fun first second third => ?_⟩
    unfold UserSubscription.ResetsBefore
    omega
  have without :=
    @KeyedTable.filter_rows_save _ _ UserSubscription.id _ db.subscriptions
      sub (fun other => other.isResetDue now) settled
  rw [dueForReset, dueForReset, saveSubscription, without]
  refine List.insertionSort_filter ?_ _
  intro left leftRow right rightRow below above
  have sameRank : rank left.id = rank right.id := by
    unfold UserSubscription.ResetsBefore at below above
    omega
  exact List.inj_on_of_nodup_map db.subscriptions.unique
      (List.mem_filter.mp leftRow).1 (List.mem_filter.mp rightRow).1
      (rank.injective sameRank)

theorem nodup_dueForReset (rank : Int ↪ Int) (now : Int) (db : Database) :
    ((dueForReset rank now db).map UserSubscription.id).Nodup :=
  ((perm_dueForReset rank now db).map _).nodup_iff.mpr
    ((List.filter_sublist.map _).nodup db.subscriptions.unique)

theorem resetDue_of_isResetDue {sub : UserSubscription} (due : sub.isResetDue now = true) :
    sub.ResetDue now := by
  simp only [UserSubscription.isResetDue, Bool.and_eq_true, decide_eq_true_eq] at due
  exact due.1

theorem isResetDue_of_not_resetDue {sub : UserSubscription} (settled : ¬sub.ResetDue now) :
    sub.isResetDue now = false := by
  unfold UserSubscription.ResetDue at settled
  simp only [UserSubscription.isResetDue, Bool.and_eq_false_iff, decide_eq_false_iff_not]
  omega

section Row

variable {ahead behind : List UserSubscription} {sub : UserSubscription}
  {progress : Nat × Database} {fuel : Nat}
  (queue : dueForReset rank now progress.2 = ahead ++ sub :: behind)
include queue

theorem resetDueRow_planned {plan : SubscriptionPlan}
    (planned : getSubscriptionPlanById progress.2.plans sub.planId = some plan) :
    sub.ResetDue now ∧
      resetDueRow location now fuel progress sub =
        match location.maybeResetUserSubscription plan now fuel sub with
        | none => none
        | some reset => some (progress.1 + 1, progress.2.saveSubscription reset) := by
  obtain ⟨stored, due⟩ := @lookup_of_mem_dueForReset rank now progress.2 sub (by simp [queue])
  have window := resetDue_of_isResetDue due
  refine ⟨window, ?_⟩
  rw [resetDueRow]
  simp only [planned, stored]
  exact if_pos window

/-- A row whose transaction ends is counted when it has a plan, and leaves the
queue unless no reset changes it. -/
theorem resetDueRow_ended {ended : Nat × Database}
    (done : resetDueRow location now fuel progress sub = some ended) :
    sub.SkipEnds location progress.2.plans now ∧ ended.2.plans = progress.2.plans ∧
      ended.1 = progress.1 + [sub].countP (UserSubscription.hasPlan progress.2.plans) ∧
      dueForReset rank now ended.2 =
        ahead ++ [sub].filter (UserSubscription.stays location progress.2.plans now) ++ behind := by
  cases planned : getSubscriptionPlanById progress.2.plans sub.planId with
  | none =>
    have skipped : resetDueRow location now fuel progress sub = some progress := by
      simp [resetDueRow, planned]
    obtain rfl := Option.some.inj (skipped.symm.trans done)
    refine ⟨?_, rfl, ?_, ?_⟩
    · intro plan found
      rw [planned] at found
      cases found
    · simp [UserSubscription.hasPlan, planned]
    · simp [UserSubscription.stays, planned, queue]
  | some plan =>
    have counted : sub.hasPlan progress.2.plans = true := by
      simp [UserSubscription.hasPlan, planned]
    obtain ⟨window, step⟩ :=
      @resetDueRow_planned location rank now ahead behind sub progress fuel queue plan planned
    rw [step] at done
    cases reset : location.maybeResetUserSubscription plan now fuel sub with
    | none =>
      rw [reset] at done
      cases done
    | some after =>
      rw [reset] at done
      obtain rfl := Option.some.inj done
      obtain ⟨ends, sameID, outcome⟩ := Location.maybeResetUserSubscription_ended window reset
      refine ⟨?_, rfl, by rw [List.countP_cons_of_pos counted, List.countP_nil], ?_⟩
      · intro other found
        obtain rfl := Option.some.inj (planned.symm.trans found)
        exact ends
      by_cases passed : location.Passed plan sub.endTime now sub.resetBase
      · rw [if_pos passed] at outcome
        have removed : sub.stays location progress.2.plans now = false := by
          simp [UserSubscription.stays, planned, passed]
        have distinct := nodup_dueForReset rank now progress.2
        rw [queue] at distinct
        rw [dueForReset_save (isResetDue_of_not_resetDue outcome), sameID, queue,
          List.filter_cons_of_neg (by simp [removed]), List.filter_nil, List.append_nil]
        exact filter_key_ne_middle distinct
      · rw [if_neg passed] at outcome
        have kept : sub.stays location progress.2.plans now = true := by
          simp [UserSubscription.stays, planned, passed]
        have stored := (@lookup_of_mem_dueForReset rank now progress.2 sub (by simp [queue])).1
        rw [outcome, saveSubscription, save_of_lookup stored, List.filter_cons_of_pos kept]
        simpa using queue

theorem exists_resetDueRow (ends : sub.SkipEnds location progress.2.plans now) :
    ∃ fuel ended, resetDueRow location now fuel progress sub = some ended := by
  cases planned : getSubscriptionPlanById progress.2.plans sub.planId with
  | none => exact ⟨0, progress, by simp [resetDueRow, planned]⟩
  | some plan =>
    have window :=
      (@resetDueRow_planned location rank now ahead behind sub progress 0 queue plan planned).1
    obtain ⟨fuel, after, reset⟩ :=
      Location.exists_maybeResetUserSubscription window (ends plan planned)
    refine ⟨fuel, (progress.1 + 1, progress.2.saveSubscription after), ?_⟩
    rw [(resetDueRow_planned queue planned).2, reset]

end Row

theorem resetDueRow_add {progress ended : Nat × Database} {sub : UserSubscription} {fuel : Nat}
    (done : resetDueRow location now fuel progress sub = some ended) (more : Nat) :
    resetDueRow location now (fuel + more) progress sub = some ended := by
  unfold resetDueRow at done ⊢
  cases planned : getSubscriptionPlanById progress.2.plans sub.planId with
  | none => simpa only [planned] using done
  | some plan =>
    cases stored : progress.2.subscriptions.lookup sub.id with
    | none => simpa only [planned, stored] using done
    | some locked =>
      simp only [planned, stored] at done ⊢
      split at done
      · rename_i window
        rw [if_pos window]
        cases reset : location.maybeResetUserSubscription plan now fuel locked with
        | none =>
          rw [reset] at done
          cases done
        | some after =>
          rw [reset] at done
          rw [Location.maybeResetUserSubscription_add reset more]
          exact done
      · rename_i outside
        rw [if_neg outside]
        exact done

theorem foldlM_resetDueRow_cons {progress : Nat × Database} {sub : UserSubscription}
    {rest : List UserSubscription} {fuel : Nat} {ended : Nat × Database} :
    (sub :: rest).foldlM (resetDueRow location now fuel) progress = some ended ↔
      ∃ next, resetDueRow location now fuel progress sub = some next ∧
        rest.foldlM (resetDueRow location now fuel) next = some ended := by
  rw [List.foldlM_cons]
  exact Option.bind_eq_some_iff

theorem foldlM_resetDueRow_add {batch : List UserSubscription} {progress ended : Nat × Database}
    {fuel : Nat} (done : batch.foldlM (resetDueRow location now fuel) progress = some ended)
    (more : Nat) :
    batch.foldlM (resetDueRow location now (fuel + more)) progress = some ended := by
  induction batch generalizing progress with
  | nil => exact done
  | cons sub rest ih =>
    obtain ⟨next, row, later⟩ := foldlM_resetDueRow_cons.mp done
    exact foldlM_resetDueRow_cons.mpr ⟨next, resetDueRow_add row more, ih later⟩

theorem resetDueRows_ended {batch ahead behind : List UserSubscription}
    {progress ended : Nat × Database} {fuel : Nat}
    (queue : dueForReset rank now progress.2 = ahead ++ batch ++ behind)
    (done : batch.foldlM (resetDueRow location now fuel) progress = some ended) :
    (∀ sub ∈ batch, sub.SkipEnds location progress.2.plans now) ∧
      ended.2.plans = progress.2.plans ∧
      ended.1 = progress.1 + batch.countP (UserSubscription.hasPlan progress.2.plans) ∧
      dueForReset rank now ended.2 =
        ahead ++ batch.filter (UserSubscription.stays location progress.2.plans now) ++ behind := by
  induction batch generalizing ahead progress with
  | nil =>
    obtain rfl := Option.some.inj done
    exact ⟨by simp, rfl, rfl, queue⟩
  | cons sub rest ih =>
    obtain ⟨next, row, later⟩ := foldlM_resetDueRow_cons.mp done
    obtain ⟨ends, plans, count, left⟩ :=
      @resetDueRow_ended location rank now ahead (rest ++ behind) sub progress fuel
        (by simpa using queue) next row
    rw [← List.append_assoc] at left
    obtain ⟨laterEnds, laterPlans, laterCount, laterQueue⟩ := ih left later
    rw [plans] at laterEnds laterPlans laterCount laterQueue
    have split : sub :: rest = [sub] ++ rest := rfl
    refine ⟨?_, laterPlans, ?_, ?_⟩
    · rintro other (_ | ⟨_, member⟩)
      · exact ends
      · exact laterEnds other member
    · rw [laterCount, count, split, List.countP_append, Nat.add_assoc]
    · rw [laterQueue, split, List.filter_append, List.append_assoc ahead]

theorem exists_resetDueRows {batch ahead behind : List UserSubscription}
    {progress : Nat × Database}
    (queue : dueForReset rank now progress.2 = ahead ++ batch ++ behind)
    (ends : ∀ sub ∈ batch, sub.SkipEnds location progress.2.plans now) :
    ∃ fuel ended, batch.foldlM (resetDueRow location now fuel) progress = some ended := by
  induction batch generalizing ahead progress with
  | nil => exact ⟨0, progress, rfl⟩
  | cons sub rest ih =>
    have shifted : dueForReset rank now progress.2 = ahead ++ sub :: (rest ++ behind) := by
      simpa using queue
    obtain ⟨first, next, row⟩ := exists_resetDueRow shifted (ends sub List.mem_cons_self)
    obtain ⟨_, plans, _, left⟩ := resetDueRow_ended shifted row
    rw [← List.append_assoc] at left
    obtain ⟨second, ended, later⟩ :=
      ih left (by
        rw [plans]
        exact fun other member => ends other (List.mem_cons_of_mem sub member))
    refine ⟨first + second, ended, foldlM_resetDueRow_cons.mpr ⟨next, ?_, ?_⟩⟩
    · exact resetDueRow_add row second
    · rw [Nat.add_comm]
      exact foldlM_resetDueRow_add later first

namespace MaintenanceState

variable {state : MaintenanceState}

/-- The first rows that no reset changes fill a batch, and all of them have a
plan. -/
def Blocked (location : Location) (rank : Int ↪ Int) (now : Int) (batch : Nat)
    (state : MaintenanceState) : Prop :=
  let staying :=
    ((dueForReset rank now state.db).filter
      (UserSubscription.stays location state.db.plans now)).take batch
  staying.length = batch ∧ ∀ sub ∈ staying, sub.hasPlan state.db.plans = true

/-- The next batch reports its full size. -/
def FullBatch (plans : KeyedTable SubscriptionPlan.id) (batch : Nat)
    (queue : List UserSubscription) : Prop :=
  batch ≤ (queue.take batch).countP (UserSubscription.hasPlan plans)

def BatchSkipEnds (location : Location) (plans : KeyedTable SubscriptionPlan.id) (now : Int)
    (batch : Nat) (queue : List UserSubscription) : Prop :=
  ∀ sub ∈ queue.take batch, sub.SkipEnds location plans now

/-- Every row that the pass comes to has a period that is still running. -/
def SkipsEnd (location : Location) (rank : Int ↪ Int) (now : Int) (batch : Nat)
    (state : MaintenanceState) : Prop :=
  Throughout (drain (UserSubscription.stays location state.db.plans now) batch)
    (FullBatch state.db.plans batch) (BatchSkipEnds location state.db.plans now batch)
    (dueForReset rank now state.db)

section Step

variable {limit reported fuel : Nat} {next : MaintenanceState} (positive : 0 < limit)
include positive

theorem resetDue_eq : resetDueSubscriptions location rank now limit fuel state =
      match ((dueForReset rank now state.db).take limit).foldlM (resetDueRow location now fuel)
        (0, state.db) with
      | none => none
      | some (resetCount, db) => some (resetCount, { state with db := db }) := by
  unfold resetDueSubscriptions
  rw [if_neg (by omega), Int.toNat_natCast]

omit positive in
theorem queue_eq_take : dueForReset rank now state.db =
      [] ++ (dueForReset rank now state.db).take limit ++
        (dueForReset rank now state.db).drop limit := by
  rw [List.nil_append, List.take_append_drop]

/-- One batch works through the first due rows; those that stay keep their place. -/
theorem resetDue_spec
    (ran : resetDueSubscriptions location rank now limit fuel state = some (reported, next)) :
    BatchSkipEnds location state.db.plans now limit (dueForReset rank now state.db) ∧
      next.db.plans = state.db.plans ∧
      reported =
        ((dueForReset rank now state.db).take limit).countP
          (UserSubscription.hasPlan state.db.plans) ∧
      dueForReset rank now next.db =
        drain (UserSubscription.stays location state.db.plans now) limit
          (dueForReset rank now state.db) := by
  rw [resetDue_eq positive] at ran
  cases rows : ((dueForReset rank now state.db).take limit).foldlM
      (resetDueRow location now fuel) (0, state.db) with
  | none =>
    rw [rows] at ran
    cases ran
  | some ended =>
    rw [rows] at ran
    obtain ⟨rfl, rfl⟩ := Prod.mk.inj (Option.some.inj ran)
    have spec := resetDueRows_ended queue_eq_take rows
    rwa [Nat.zero_add] at spec

theorem exists_resetDue
    (ends : BatchSkipEnds location state.db.plans now limit (dueForReset rank now state.db)) :
    ∃ fuel reported next,
      resetDueSubscriptions location rank now limit fuel state = some (reported, next) := by
  obtain ⟨fuel, ended, rows⟩ :=
    @exists_resetDueRows location rank now _ _ _ (0, state.db) queue_eq_take ends
  refine ⟨fuel, ended.1, { state with db := ended.2 }, ?_⟩
  rw [resetDue_eq positive, rows]

theorem settles_resetDue : Settles (resetDueSubscriptions location rank now limit) := by
  intro fuel state ended ran more
  rw [resetDue_eq positive] at ran ⊢
  cases rows : ((dueForReset rank now state.db).take limit).foldlM
      (resetDueRow location now fuel) (0, state.db) with
  | none =>
    rw [rows] at ran
    cases ran
  | some progress =>
    rw [foldlM_resetDueRow_add rows more]
    rw [rows] at ran
    exact ran

/-- A batch that ends has come to rows that a reset can end for, and the rest
of the pass decides about the others. -/
theorem skipsEnd_iff_of_ran
    (ran : resetDueSubscriptions location rank now limit fuel state = some (reported, next)) :
    SkipsEnd location rank now limit state ↔
      (limit ≤ reported → SkipsEnd location rank now limit next) := by
  obtain ⟨ends, plans, count, queue⟩ := resetDue_spec positive ran
  unfold SkipsEnd
  rw [throughout_iff, plans, queue, count, and_iff_right ends]
  rfl

theorem blocked_iff_of_ran
    (ran : resetDueSubscriptions location rank now limit fuel state = some (reported, next)) :
    Blocked location rank now limit next ↔ Blocked location rank now limit state := by
  obtain ⟨_, plans, _, queue⟩ := resetDue_spec positive ran
  unfold Blocked
  rw [plans, queue, filter_drain]

end Step

theorem hasPlan_of_not_stays {plans : KeyedTable SubscriptionPlan.id} {sub : UserSubscription}
    (moves : sub.stays location plans now = false) :
    sub.hasPlan plans = true := by
  unfold UserSubscription.stays at moves
  unfold UserSubscription.hasPlan
  split at moves
  · cases moves
  rename_i plan planned
  rw [planned]
  rfl

theorem Blocked.full {limit reported fuel : Nat} {next : MaintenanceState} (positive : 0 < limit)
    (blocked : Blocked location rank now limit state)
    (ran : resetDueSubscriptions location rank now limit fuel state = some (reported, next)) :
    limit ≤ reported := by
  obtain ⟨_, _, count, _⟩ := resetDue_spec positive ran
  obtain ⟨filled, planned⟩ := blocked
  have long : limit ≤ (dueForReset rank now state.db).length := by
    rw [List.length_take] at filled
    have shorter :=
      List.length_filter_le (UserSubscription.stays location state.db.plans now)
        (dueForReset rank now state.db)
    omega
  have everyone :
      ∀ sub ∈ (dueForReset rank now state.db).take limit, sub.hasPlan state.db.plans = true := by
    intro sub member
    cases kept : sub.stays location state.db.plans now with
    | true => exact planned sub (mem_take_filter member kept)
    | false => exact hasPlan_of_not_stays kept
  rw [count, List.countP_eq_length.mpr everyone, List.length_take]
  omega

theorem length_lt_of_not_blocked {limit reported fuel : Nat} {next : MaintenanceState}
    (positive : 0 < limit) (unblocked : ¬Blocked location rank now limit state)
    (ran : resetDueSubscriptions location rank now limit fuel state = some (reported, next))
    (full : limit ≤ reported) :
    (dueForReset rank now next.db).length < (dueForReset rank now state.db).length := by
  obtain ⟨_, _, count, queue⟩ := resetDue_spec positive ran
  rw [queue]
  refine Nat.lt_of_le_of_ne (length_drain_le _ _) ?_
  intro idle
  -- A batch that only holds staying rows is what blocks the pass.
  have staying := stuck_of_drain_length idle
  have counted :=
    @List.countP_le_length _ (UserSubscription.hasPlan state.db.plans)
      ((dueForReset rank now state.db).take limit)
  have atMost := List.length_take_le limit (dueForReset rank now state.db)
  have window :
      ((dueForReset rank now state.db).filter
          (UserSubscription.stays location state.db.plans now)).take limit =
        (dueForReset rank now state.db).take limit := by
    calc
      ((dueForReset rank now state.db).filter
            (UserSubscription.stays location state.db.plans now)).take limit
          = (((dueForReset rank now state.db).take limit ++
                (dueForReset rank now state.db).drop limit).filter
              (UserSubscription.stays location state.db.plans now)).take
              limit := by
            rw [List.take_append_drop]
      _ = ((dueForReset rank now state.db).take limit ++
              ((dueForReset rank now state.db).drop limit).filter
                (UserSubscription.stays location state.db.plans now)).take
            limit := by
            rw [List.filter_append, List.filter_eq_self.mpr staying]
      _ = (dueForReset rank now state.db).take limit := by
            rw [List.take_append_of_le_length (by omega), List.take_take, Nat.min_self]
  apply unblocked
  refine ⟨?_, ?_⟩
  · rw [window]
    omega
  · rw [window]
    exact List.countP_eq_length.mp (by omega)

/-- It hangs on a full batch of rows that stay, or on a row that skips forever. -/
theorem resetLoop_ends_iff (location : Location) (rank : Int ↪ Int) (now : Int)
    (state : MaintenanceState) :
    (∃ fuel final, resetLoop location rank now fuel state = some final) ↔
      ¬Blocked location rank now subscriptionResetBatchSize state ∧
        SkipsEnd location rank now subscriptionResetBatchSize state := by
  have positive : 0 < subscriptionResetBatchSize := by decide
  constructor
  · intro ends
    by_contra stuck
    -- Every batch that ends is full, and leaves the reason it cannot end for good.
    refine @not_loopEnds_of_full _ _ _ positive
        (fun later =>
          ¬(¬Blocked location rank now subscriptionResetBatchSize later ∧
            SkipsEnd location rank now subscriptionResetBatchSize later)) ?_ state stuck ends
    intro fuel later reported next laterStuck ran
    rw [blocked_iff_of_ran positive ran]
    rw [skipsEnd_iff_of_ran positive ran] at laterStuck
    by_cases blocked : Blocked location rank now subscriptionResetBatchSize later
    · exact ⟨blocked.full positive ran, fun clear => clear.1 blocked⟩
    · have hangs : ¬(subscriptionResetBatchSize ≤ reported →
          SkipsEnd location rank now subscriptionResetBatchSize next) :=
        fun goes => laterStuck ⟨blocked, goes⟩
      obtain ⟨full, nextHangs⟩ := Classical.not_imp.mp hangs
      exact ⟨full, fun clear => nextHangs clear.2⟩
  · intro clear
    refine @loopEnds_of_measure _ _ _ positive
        (fun later =>
          ¬Blocked location rank now subscriptionResetBatchSize later ∧
            SkipsEnd location rank now subscriptionResetBatchSize later)
        (settles_resetDue positive) (fun later => (dueForReset rank now later.db).length) ?_ state
        clear
    rintro later ⟨unblocked, skips⟩
    obtain ⟨fuel, reported, next, ran⟩ := exists_resetDue positive (throughout_iff.mp skips).1
    refine ⟨fuel, reported, next, ran, fun full => ⟨⟨?_, ?_⟩, ?_⟩⟩
    · rwa [blocked_iff_of_ran positive ran]
    · exact (skipsEnd_iff_of_ran positive ran).mp skips full
    · exact length_lt_of_not_blocked positive unblocked ran full

/-- In a location whose clocks skip no midnight only the periods of custom
plans that do not fit an `int64` of nanoseconds can be counted forever. -/
theorem skipsEnd_of_calendar (calendar : Calendar) {batch : Nat}
    (fits : ∀ plan ∈ state.db.plans.rows, plan.PeriodFits) :
    SkipsEnd calendar.toLocation rank now batch state := by
  intro n _ sub _ plan found
  unfold getSubscriptionPlanById at found
  split at found
  · cases found
  · exact calendar.skipEnds (fits plan (lookup_eq_some_iff.mp found).1) sub.resetBase

def unresetSubs : List UserSubscription :=
  (List.range 300).map (fun index : Nat =>
    { UserSubscription.sample with id := index + 1, nextResetTime := 1 })

def unresetState : MaintenanceState where
  db :=
    { Database.sampleSubscribed with
      subscriptions :=
        ⟨unresetSubs, by
          rw [unresetSubs, List.map_map]
          refine List.nodup_range.map ?_
          intro left right equal
          have same : (left : Int) + 1 = right + 1 := equal
          omega⟩ }

theorem unresetState_blocked (rank : Int ↪ Int) :
    Blocked Calendar.sample.toLocation rank 10 subscriptionResetBatchSize unresetState := by
  have rows :
      ∀ sub ∈ unresetSubs,
        sub.isResetDue 10 = true ∧ sub.stays Calendar.sample.toLocation unresetState.db.plans 10 = true ∧
          sub.hasPlan unresetState.db.plans = true := by
    intro sub member
    obtain ⟨index, _, rfl⟩ := List.mem_map.mp member
    exact ⟨rfl, rfl, rfl⟩
  have shuffle : (dueForReset rank 10 unresetState.db).Perm unresetSubs := by
    refine (perm_dueForReset rank 10 unresetState.db).trans ?_
    have all : unresetSubs.filter (fun sub => sub.isResetDue 10) = unresetSubs :=
      List.filter_eq_self.mpr (fun sub member => (rows sub member).1)
    exact all ▸ .refl _
  have staying :
      (dueForReset rank 10 unresetState.db).filter
          (UserSubscription.stays Calendar.sample.toLocation unresetState.db.plans 10) =
        dueForReset rank 10 unresetState.db :=
    List.filter_eq_self.mpr (fun sub member => (rows sub (shuffle.mem_iff.mp member)).2.1)
  unfold Blocked
  rw [staying]
  constructor
  · rw [List.length_take, shuffle.length_eq, unresetSubs, List.length_map, List.length_range]
    rfl
  · intro sub member
    exact (rows sub (shuffle.mem_iff.mp (List.mem_of_mem_take member))).2.2

theorem unresetState_expired (fuel : Nat) :
    expireLoop 10 (fuel + 1) unresetState = some unresetState := by
  have running : unresetState.pastEnd 10 = [] := by
    have none : unresetSubs.filter (fun sub => sub.isPastEnd 10) = [] := by
      rw [List.filter_eq_nil_iff]
      intro sub member
      obtain ⟨index, _, rfl⟩ := List.mem_map.mp member
      exact Bool.false_ne_true
    exact (congrArg (List.insertionSort _) none).trans rfl
  have idle :
      expireDueSubscriptions 10 subscriptionResetBatchSize unresetState = (0, unresetState) := by
    rfl
  rfl

end MaintenanceState

end Resets

end NewApi.Billing
