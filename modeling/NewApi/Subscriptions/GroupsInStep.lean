import Mathlib.Data.List.Dedup
import NewApi.Subscriptions.UpgradeGroups

/-!
# Groups in step with subscriptions

A purchase keeps the group of a user in step with the active subscriptions.  The
end of a subscription does so exactly when the group it leaves behind belongs to
an active subscription or, after the last one, is the remembered base group.
-/

namespace NewApi.Subscriptions

open GoStrings Transactions GroupDatabase KeyedTable UserSubscription
open Billing (UserSubscriptionStatus)

/-! ## The property -/

def ActiveUpgrade (rows : List UserSubscription) (row : UserSubscription) : Prop :=
  row ∈ rows ∧ row.status = .active ∧ row.upgradeGroup ≠ ""

/-- The user is in the base group without an active upgrade, and in the group of
an active upgrade as long as there is one. -/
structure GroupFollows (baseGroup : String) (userId : Int) (db : GroupDatabase) : Prop where
  undone : (∀ row, ¬ ActiveUpgrade (db.userRows userId) row) → db.group userId = baseGroup
  upgraded : ∀ row, ActiveUpgrade (db.userRows userId) row →
    ∃ other, ActiveUpgrade (db.userRows userId) other ∧ other.upgradeGroup = db.group userId

/-- The row has moved the user from a group to the current one, and remembers
it. -/
def UserSubscription.Restores (row : UserSubscription) (current group : String) : Prop :=
  trimSpace row.upgradeGroup = current ∧ trimSpace row.prevUserGroup = group ∧ group ≠ ""

/-- When the end of a subscription leaves the user in the right group: `remains`
are the active upgrades that do not end, and `consulted` is the row whose
remembered group the code gives back. -/
structure GivesBack (baseGroup current : String) (now : Int)
    (consulted : Option UserSubscription) (remains : UserSubscription → Prop) : Prop where
  /-- The group is kept for a running upgrade, and some upgrade has it. -/
  kept : (∃ row, remains row ∧ now < row.endTime) → ∃ row, remains row ∧ row.upgradeGroup = current
  /-- After the last upgrade the consulted row leads back to the base group. -/
  last : (∀ row, ¬ remains row) →
    current = baseGroup ∨ ∃ row, consulted = some row ∧ row.Restores current baseGroup
  /-- Upgrades that are over and only wait for their expiry do not count as
  running, so that the group is given back before they end. -/
  waiting : (∃ row, remains row) → (∀ row, remains row → row.endTime ≤ now) →
    (∃ row group other, consulted = some row ∧ row.Restores current group ∧
        remains other ∧ other.upgradeGroup = group) ∨
      (∀ row group, consulted = some row → ¬ row.Restores current group) ∧
        ∃ other, remains other ∧ other.upgradeGroup = current

structure Moves (current after : String) (consulted : Option UserSubscription)
    (running : Prop) : Prop where
  blocked : running → after = current
  restored : ¬ running → ∀ row group, consulted = some row →
    row.Restores current group → after = group
  unknown : (∀ row group, consulted = some row → ¬ row.Restores current group) → after = current

section Ending

variable {baseGroup : String} {userId now : Int} {db later : GroupDatabase}
  {consulted : Option UserSubscription} {remains : UserSubscription → Prop}

theorem groupFollows_iff_givesBack
    (active : ∀ row, ActiveUpgrade (later.userRows userId) row ↔ remains row)
    (moves :
      Moves (db.group userId) (later.group userId) consulted
        (∃ row, remains row ∧ now < row.endTime))
    (upgrades : ∀ row, consulted = some row → trimSpace row.upgradeGroup ≠ baseGroup) :
    GroupFollows baseGroup userId later ↔
      GivesBack baseGroup (db.group userId) now consulted remains := by
  have notRunning : (∀ row, remains row → row.endTime ≤ now) →
      ¬ ∃ row, remains row ∧ now < row.endTime := by
    rintro ended ⟨row, remaining, running⟩
    exact absurd running (not_lt.mpr (ended row remaining))
  constructor
  · intro follows
    refine ⟨?_, ?_, ?_⟩
    · rintro ⟨row, remaining, running⟩
      obtain ⟨other, otherActive, same⟩ := follows.upgraded row ((active row).mpr remaining)
      rw [moves.blocked ⟨row, remaining, running⟩] at same
      exact ⟨other, (active other).mp otherActive, same⟩
    · intro noneRemains
      have undone : later.group userId = baseGroup := follows.undone (fun row isActive =>
          noneRemains row ((active row).mp isActive))
      have idle : ¬ ∃ row, remains row ∧ now < row.endTime :=
        fun ⟨row, remaining, _⟩ => noneRemains row remaining
      by_cases remembered : ∃ row group, consulted = some row ∧ row.Restores (db.group userId) group
      · obtain ⟨row, group, found, restores⟩ := remembered
        have same : group = baseGroup :=
          (moves.restored idle row group found restores).symm.trans undone
        exact Or.inr ⟨row, found, same ▸ restores⟩
      · left
        rw [← undone]
        exact (moves.unknown fun row group found restores =>
            remembered ⟨row, group, found, restores⟩).symm
    · rintro ⟨row, remaining⟩ ended
      obtain ⟨other, otherActive, same⟩ := follows.upgraded row ((active row).mpr remaining)
      have otherRemains : remains other := (active other).mp otherActive
      by_cases remembered : ∃ row group, consulted = some row ∧ row.Restores (db.group userId) group
      · left
        obtain ⟨row, group, found, restores⟩ := remembered
        rw [moves.restored (notRunning ended) row group found restores] at same
        exact ⟨row, group, other, found, restores, otherRemains, same⟩
      · right
        have nothing : ∀ row group, consulted = some row → ¬ row.Restores (db.group userId) group :=
          fun row group found restores => remembered ⟨row, group, found, restores⟩
        rw [moves.unknown nothing] at same
        exact ⟨nothing, other, otherRemains, same⟩
  · intro gives
    refine ⟨?_, ?_⟩
    · intro noneActive
      have noneRemains : ∀ row, ¬ remains row :=
        fun row remaining => noneActive row ((active row).mpr remaining)
      rcases gives.last noneRemains with already | ⟨row, found, restores⟩
      · rw [← already]
        apply moves.unknown
        intro row group found restores
        exact upgrades row found (restores.1.trans already)
      · refine moves.restored ?_ row baseGroup found restores
        exact fun ⟨row, remaining, _⟩ => noneRemains row remaining
    · intro row isActive
      have remaining : remains row := (active row).mp isActive
      by_cases running : ∃ row, remains row ∧ now < row.endTime
      · obtain ⟨other, otherRemains, same⟩ := gives.kept running
        refine ⟨other, (active other).mpr otherRemains, ?_⟩
        rw [same, moves.blocked running]
      · have ended : ∀ row, remains row → row.endTime ≤ now :=
          fun row remaining => not_lt.mp (fun later => running ⟨row, remaining, later⟩)
        rcases gives.waiting ⟨row, remaining⟩ ended with
          ⟨row, group, other, found, restores, otherRemains, same⟩ |
            ⟨nothing, other, otherRemains, same⟩
        · refine ⟨other, (active other).mpr otherRemains, ?_⟩
          rw [same, moves.restored running row group found restores]
        · refine ⟨other, (active other).mpr otherRemains, ?_⟩
          rw [same, moves.unknown nothing]

end Ending

structure SameFor (userId : Int) (db later : GroupDatabase) : Prop where
  groups : later.groups userId = db.groups userId
  rows : later.userRows userId = db.userRows userId

/-- The rows come from plans with an upgrade group other than the base group and
without a downgrade group. -/
def PlanRows (baseGroup : String) (rows : List UserSubscription) : Prop :=
  ∀ row ∈ rows,
    trimSpace row.upgradeGroup ≠ "" ∧ trimSpace row.upgradeGroup ≠ baseGroup ∧
      trimSpace row.downgradeGroup = ""

section Users

variable {baseGroup : String} {userId now : Int} {db middle later : GroupDatabase}

theorem SameFor.refl (userId : Int) (db : GroupDatabase) : SameFor userId db db := ⟨rfl, rfl⟩

theorem SameFor.trans (first : SameFor userId db middle) (second : SameFor userId middle later) :
    SameFor userId db later :=
  ⟨second.groups.trans first.groups, second.rows.trans first.rows⟩

theorem SameFor.group (same : SameFor userId db later) : later.group userId = db.group userId := by
  unfold GroupDatabase.group
  rw [same.groups]

theorem SameFor.follows
    (same : SameFor userId db later) (follows : GroupFollows baseGroup userId db) :
    GroupFollows baseGroup userId later := by
  refine ⟨?_, ?_⟩
  · rw [same.rows, same.group]
    exact follows.undone
  · rw [same.rows, same.group]
    exact follows.upgraded

theorem groups_setGroup_of_ne (db : GroupDatabase) {other : Int} (group : String)
    (different : userId ≠ other) :
    (db.setGroup other group).groups userId = db.groups userId := by
  simp [setGroup, different]

variable {current : String}

theorem groups_setGroup_self (group : String) (known : db.groups userId = some current) :
    (db.setGroup userId group).groups userId = some group := by
  simp [setGroup, known]

theorem group_of_groups {group : String} (known : db.groups userId = some group) :
    db.group userId = group := by
  simp [GroupDatabase.group, known]

variable {id : Int}

/-- A purchase adds a row and moves the buyer to its group. -/
theorem createUserSubscriptionFromPlanTx_cases {buyer : Int} {plan : SubscriptionPlan}
    (done : createUserSubscriptionFromPlanTx now db id buyer plan = .ok later) :
    ∃ row : UserSubscription,
      row.userId = buyer ∧ row.status = .active ∧ row.upgradeGroup = trimSpace plan.upgradeGroup ∧
        row.downgradeGroup = trimSpace plan.downgradeGroup ∧
        later.subscriptions.rows = db.subscriptions.rows ++ [row] ∧
        (later.groups = db.groups ∧
            (trimSpace plan.upgradeGroup = "" ∨ db.group buyer = trimSpace plan.upgradeGroup) ∨
          later.groups = (db.setGroup buyer (trimSpace plan.upgradeGroup)).groups) := by
  simp only [createUserSubscriptionFromPlanTx] at done
  generalize trimSpace plan.upgradeGroup = upgradeGroup at done ⊢
  generalize trimSpace plan.downgradeGroup = downgradeGroup at done ⊢
  split at done
  · cases done
  split at done
  · cases done
  split at done
  · cases done
  split at done
  · cases done
  split at done
  · cases done
  rename_i endTime _
  split at done
  · cases done
  rename_i table created
  cases done
  have rows := rows_create created
  refine
    ⟨{ id := id
       userId := buyer
       planId := plan.id
       endTime := endTime
       status := .active
       upgradeGroup := upgradeGroup
       prevUserGroup :=
        if upgradeGroup ≠ "" ∧ db.group buyer ≠ upgradeGroup then db.group buyer
        else ""
       downgradeGroup := downgradeGroup },
      rfl, rfl, rfl, rfl, ?_, ?_⟩
  · rw [rows]
    congr 1
    split
    · rfl
    · rfl
  · split
    · exact Or.inr rfl
    rename_i stays
    left
    refine ⟨rfl, ?_⟩
    by_contra neither
    push Not at neither
    exact stays neither

/-- The plan upgrades its buyers to a group other than the base group, and names
no downgrade group. -/
def SubscriptionPlan.UpgradesFrom (plan : SubscriptionPlan) (baseGroup : String) : Prop :=
  trimSpace plan.upgradeGroup ≠ "" ∧ trimSpace plan.upgradeGroup ≠ baseGroup ∧
    trimSpace plan.downgradeGroup = ""

/-- A user whose rows come from such plans and whose group follows them. -/
structure Managed (baseGroup : String) (userId : Int) (db : GroupDatabase) : Prop where
  positive : 0 < userId
  known : ∃ group, db.groups userId = some group
  rows : PlanRows baseGroup (db.userRows userId)
  follows : GroupFollows baseGroup userId db

theorem SameFor.managed (same : SameFor userId db later) (managed : Managed baseGroup userId db) :
    Managed baseGroup userId later where
  positive := managed.positive
  known := by
    rw [same.groups]
    exact managed.known
  rows := by
    rw [same.rows]
    exact managed.rows
  follows := same.follows managed.follows

theorem Managed.create {buyer : Int} {plan : SubscriptionPlan}
    (managed : Managed baseGroup userId db)
    (upgrades : buyer = userId → plan.UpgradesFrom baseGroup)
    (done : createUserSubscriptionFromPlanTx now db id buyer plan = .ok later) :
    Managed baseGroup userId later := by
  obtain ⟨row, owner, active, rowUpgrade, rowDowngrade, rows, groups⟩ :=
    createUserSubscriptionFromPlanTx_cases done
  have userRows : later.userRows userId =
      db.userRows userId ++ [row].filter (fun row => row.userId = userId) := by
    simp only [userRows, rows, List.filter_append]
  by_cases own : buyer = userId
  · obtain ⟨hasUpgrade, otherGroup, noDowngrade⟩ := upgrades own
    have listed : later.userRows userId = db.userRows userId ++ [row] := by
      rw [userRows]
      simp [owner, own]
    obtain ⟨current, known⟩ := managed.known
    have moved : later.groups userId = some (trimSpace plan.upgradeGroup) := by
      rcases groups with ⟨same, without | already⟩ | set
      · exact absurd without hasUpgrade
      · rw [same, known, ← already, own, group_of_groups known]
      · rw [set, own]
        exact groups_setGroup_self _ known
    have rowActive : ActiveUpgrade (later.userRows userId) row := by
      refine ⟨?_, active, rowUpgrade ▸ hasUpgrade⟩
      rw [listed]
      exact List.mem_append_right _ List.mem_cons_self
    refine ⟨managed.positive, ⟨_, moved⟩, ?_, ?_, ?_⟩
    · intro other otherListed
      rw [listed] at otherListed
      rcases List.mem_append.mp otherListed with old | new
      · exact managed.rows other old
      · rw [List.mem_singleton.mp new, rowUpgrade, rowDowngrade,
          trimSpace_trimSpace, trimSpace_trimSpace]
        exact ⟨hasUpgrade, otherGroup, noDowngrade⟩
    · intro noneActive
      exact absurd rowActive (noneActive row)
    · intro _ _
      exact ⟨row, rowActive, by rw [rowUpgrade, group_of_groups moved]⟩
  · have same : SameFor userId db later := by
      refine ⟨?_, ?_⟩
      · rcases groups with ⟨same, _⟩ | set
        · rw [same]
        · rw [set]
          exact groups_setGroup_of_ne _ _ (Ne.symm own)
      · rw [userRows]
        simp [owner, own]
    exact same.managed managed

/-! ## Cancellation -/

variable {sub : UserSubscription} {target : String}

theorem downgradeUserGroupForSubscriptionTx_frame
    (done : downgradeUserGroupForSubscriptionTx now db sub = .ok (later, target)) :
    later.subscriptions = db.subscriptions ∧
      ∀ other, other ≠ sub.userId → later.groups other = db.groups other := by
  simp only [downgradeUserGroupForSubscriptionTx] at done
  split at done
  · cases done
    exact ⟨rfl, fun _ _ => rfl⟩
  obtain ⟨current, _, done⟩ := bind_ok_iff.mp done
  split at done
  · cases done
    exact ⟨rfl, fun _ _ => rfl⟩
  split at done
  · cases done
    exact ⟨rfl, fun _ _ => rfl⟩
  generalize (if trimSpace sub.downgradeGroup = "" then trimSpace sub.prevUserGroup
    else trimSpace sub.downgradeGroup) = goal at done
  split at done
  · cases done
    exact ⟨rfl, fun _ _ => rfl⟩
  · cases done
    exact ⟨rfl, fun other different => groups_setGroup_of_ne db _ different⟩

theorem getUserGroupByIdTx_known {group : String} (known : db.groups userId = some current)
    (read : getUserGroupByIdTx db userId = .ok group) : group = current := by
  unfold getUserGroupByIdTx at read
  split at read
  · cases read
  cases read
  exact group_of_groups known

theorem downgradeUserGroupForSubscriptionTx_moves (known : db.groups sub.userId = some current)
    (hasUpgrade : trimSpace sub.upgradeGroup ≠ "") (noDowngrade : trimSpace sub.downgradeGroup = "")
    (done : downgradeUserGroupForSubscriptionTx now db sub = .ok (later, target)) :
    ∃ after, later.groups sub.userId = some after ∧
      Moves current after (some sub)
        (∃ row, (ActiveUpgrade (db.userRows sub.userId) row ∧ row.id ≠ sub.id) ∧
          now < row.endTime) := by
  simp only [downgradeUserGroupForSubscriptionTx, noDowngrade, true_and, if_true] at done
  rw [if_neg hasUpgrade] at done
  obtain ⟨group, read, done⟩ := bind_ok_iff.mp done
  obtain rfl := getUserGroupByIdTx_known known read
  split at done
  · rename_i blocking
    cases done
    refine ⟨group, known, fun _ => rfl, ?_, fun _ => rfl⟩
    intro idle
    exfalso
    obtain ⟨row, listed, tests⟩ := List.any_eq_true.mp blocking
    simp only [Bool.and_eq_true, decide_eq_true_eq] at tests
    exact idle ⟨row, ⟨⟨listed, tests.1.1.1, tests.2⟩, tests.1.2⟩, tests.1.1.2⟩
  rename_i notBlocking
  have idle : ¬ ∃ row,
      (ActiveUpgrade (db.userRows sub.userId) row ∧ row.id ≠ sub.id) ∧ now < row.endTime := by
    rintro ⟨row, ⟨⟨listed, active, upgrade⟩, different⟩, running⟩
    apply notBlocking
    refine List.any_eq_true.mpr ⟨row, listed, ?_⟩
    simp [active, upgrade, different, running]
  split at done
  · rename_i moved
    cases done
    refine ⟨group, known, fun _ => rfl, ?_, fun _ => rfl⟩
    rintro _ row other ⟨⟩ restores
    exact absurd restores.1.symm moved
  rename_i notMoved
  have elevated : trimSpace sub.upgradeGroup = group := (not_not.mp notMoved).symm
  split at done
  · rename_i nothing
    cases done
    refine ⟨group, known, fun _ => rfl, ?_, fun _ => rfl⟩
    rintro _ row other ⟨⟩ restores
    rcases nothing with empty | same
    · exact absurd (restores.2.1.symm.trans empty) restores.2.2
    · exact same.symm.trans restores.2.1
  · rename_i something
    cases done
    refine ⟨_, groups_setGroup_self _ known, ?_, ?_, ?_⟩
    · intro running
      exact absurd running idle
    · rintro _ row other ⟨⟩ restores
      exact restores.2.1
    · intro nothing
      exfalso
      apply nothing sub (trimSpace sub.prevUserGroup) rfl
      exact ⟨elevated, rfl, fun empty => something (Or.inl empty)⟩

variable {status : UserSubscriptionStatus} {rows : List UserSubscription}

theorem Moves.of_ended {endTime : Int} {after : String} {running : Prop}
    (moves : Moves current after (some { sub with status := status, endTime := endTime }) running) :
    Moves current after (some sub) running where
  blocked := moves.blocked
  restored idle row group found restores := by
    cases found
    exact moves.restored idle _ group rfl restores
  unknown nothing := by
    apply moves.unknown
    rintro row group ⟨⟩ restores
    exact nothing sub group rfl restores

structure Ended (baseGroup : String) (userId now userSubscriptionId : Int)
    (sub : UserSubscription) (db later : GroupDatabase) : Prop where
  known : ∃ group, later.groups userId = some group
  rows : PlanRows baseGroup (later.userRows userId)
  follows : GroupFollows baseGroup userId later ↔
    GivesBack baseGroup (db.group userId) now (some sub) (fun row =>
      ActiveUpgrade (db.userRows userId) row ∧ row.id ≠ userSubscriptionId)

theorem mem_userRows {row : UserSubscription} :
    row ∈ db.userRows userId ↔ row ∈ db.subscriptions.rows ∧ row.userId = userId := by
  simp [userRows]

theorem activeUpgrade_save (ended : sub.status ≠ .active) (row : UserSubscription) :
    ActiveUpgrade
        (userRows { db with subscriptions := db.subscriptions.save sub } userId) row ↔
      ActiveUpgrade (db.userRows userId) row ∧ row.id ≠ sub.id := by
  constructor
  · rintro ⟨listed, active, upgrade⟩
    obtain ⟨saved, owner⟩ := mem_userRows.mp listed
    obtain ⟨old, oldListed, replaced⟩ := List.mem_map.mp saved
    split at replaced
    · rw [replaced] at ended
      exact absurd active ended
    · rename_i different
      rw [← replaced] at owner active upgrade ⊢
      exact ⟨⟨mem_userRows.mpr ⟨oldListed, owner⟩, active, upgrade⟩, different⟩
  · rintro ⟨⟨listed, active, upgrade⟩, different⟩
    obtain ⟨stored, owner⟩ := mem_userRows.mp listed
    refine ⟨mem_userRows.mpr ⟨?_, owner⟩, active, upgrade⟩
    exact List.mem_map.mpr ⟨row, stored, if_neg different⟩

/-- The group is given back on tables where the row may be changed already, and
the row may be removed afterwards. -/
theorem Managed.ended {endTime : Int} {written : GroupDatabase}
    (managed : Managed baseGroup sub.userId db) (subListed : sub ∈ db.userRows sub.userId)
    (sameGroups : middle.groups = db.groups)
    (active : ∀ row,
      ActiveUpgrade (middle.userRows sub.userId) row ∧ row.id ≠ sub.id ↔
        ActiveUpgrade (db.userRows sub.userId) row ∧ row.id ≠ sub.id)
    (done :
      downgradeUserGroupForSubscriptionTx now middle
          { sub with status := status, endTime := endTime } =
        .ok (written, target))
    (laterGroups : later.groups = written.groups)
    (laterRows : PlanRows baseGroup (later.userRows sub.userId))
    (laterActive : ∀ row,
      ActiveUpgrade (later.userRows sub.userId) row ↔
        ActiveUpgrade (db.userRows sub.userId) row ∧ row.id ≠ sub.id) :
    Ended baseGroup sub.userId now sub.id sub db later := by
  obtain ⟨hasUpgrade, otherGroup, noDowngrade⟩ := managed.rows sub subListed
  obtain ⟨current, known⟩ := managed.known
  have knownThere : middle.groups
      ({ sub with status := status, endTime := endTime } :
        UserSubscription).userId = some current := by
    rw [sameGroups]
    exact known
  obtain ⟨after, moved, moves⟩ :=
    downgradeUserGroupForSubscriptionTx_moves knownThere hasUpgrade noDowngrade done
  have laterKnown : later.groups sub.userId = some after := by
    rw [laterGroups]
    exact moved
  refine ⟨⟨after, laterKnown⟩, laterRows, ?_⟩
  refine groupFollows_iff_givesBack laterActive ?_ ?_
  · rw [group_of_groups known, group_of_groups laterKnown]
    simp only [active] at moves
    exact moves.of_ended
  · rintro row ⟨⟩
    exact otherGroup

variable {userSubscriptionId : Int}

section

variable (managed : Managed baseGroup userId db)
  (found : db.subscriptions.lookup userSubscriptionId = some sub) (own : sub.userId = userId)
include managed found own

theorem Managed.invalidate
    (done : adminInvalidateUserSubscription now db userSubscriptionId = .ok (later, target)) :
    Ended baseGroup userId now userSubscriptionId sub db later := by
  simp only [adminInvalidateUserSubscription, found] at done
  split at done
  · cases done
  obtain ⟨subListed, rfl⟩ := lookup_eq_some_iff.mp found
  subst own
  obtain ⟨table, _⟩ := downgradeUserGroupForSubscriptionTx_frame done
  have laterRows : later.userRows sub.userId =
      userRows
        { db with
          subscriptions := db.subscriptions.save
            { sub with status := .cancelled, endTime := now } } sub.userId := by
    unfold userRows
    rw [table]
  have active : ∀ row,
      ActiveUpgrade
          (userRows
            { db with
              subscriptions := db.subscriptions.save
                { sub with status := .cancelled, endTime := now } }
            sub.userId) row ↔
        ActiveUpgrade (db.userRows sub.userId) row ∧ row.id ≠ sub.id :=
    activeUpgrade_save (by rintro ⟨⟩)
  have own := mem_userRows.mpr ⟨subListed, rfl⟩
  refine managed.ended own ?_ ?_ done rfl ?_ ?_
  · rfl
  · intro row
    rw [active, and_assoc, and_self]
  · intro row listed
    rw [laterRows] at listed
    obtain ⟨saved, owner⟩ := mem_userRows.mp listed
    obtain ⟨old, oldListed, replaced⟩ := List.mem_map.mp saved
    split at replaced
    · rw [← replaced]
      exact managed.rows sub own
    · rw [replaced] at oldListed
      exact managed.rows row (mem_userRows.mpr ⟨oldListed, owner⟩)
  · intro row
    rw [laterRows]
    exact active row

theorem Managed.delete
    (done : adminDeleteUserSubscription now db userSubscriptionId = .ok (later, target)) :
    Ended baseGroup userId now userSubscriptionId sub db later := by
  simp only [adminDeleteUserSubscription, found] at done
  split at done
  · cases done
  obtain ⟨subListed, rfl⟩ := lookup_eq_some_iff.mp found
  subst own
  obtain ⟨⟨written, group⟩, downgraded, done⟩ := bind_ok_iff.mp done
  cases done
  obtain ⟨table, _⟩ := downgradeUserGroupForSubscriptionTx_frame downgraded
  have own := mem_userRows.mpr ⟨subListed, rfl⟩
  have kept : ∀ row,
      row ∈ userRows
          { written with subscriptions := written.subscriptions.delete sub.id } sub.userId ↔
        row ∈ db.userRows sub.userId ∧ row.id ≠ sub.id := by
    intro row
    rw [mem_userRows, mem_userRows, table]
    simp only [delete, List.mem_filter, decide_eq_true_eq, and_right_comm]
  refine managed.ended own rfl (fun _ => Iff.rfl) downgraded rfl ?_ ?_
  · intro row listed
    exact managed.rows row ((kept row).mp listed).1
  · intro row
    unfold ActiveUpgrade
    rw [kept, and_right_comm]

end

section

variable (found : db.subscriptions.lookup userSubscriptionId = some sub)
  (other : sub.userId ≠ userId)
include found other

theorem sameFor_invalidate
    (done : adminInvalidateUserSubscription now db userSubscriptionId = .ok (later, target)) :
    SameFor userId db later := by
  simp only [adminInvalidateUserSubscription, found] at done
  split at done
  · cases done
  obtain ⟨table, groups⟩ := downgradeUserGroupForSubscriptionTx_frame done
  have subId : sub.id = userSubscriptionId := key_of_lookup found
  refine ⟨groups userId (Ne.symm other), ?_⟩
  unfold userRows
  rw [table]
  apply List.filter_map_eq_filter
  intro row listed
  split
  · -- The saved row and the row that it replaces are both another user's.
    rename_i sameId
    have rowFound : db.subscriptions.lookup sub.id = some row :=
      lookup_eq_some_iff.mpr ⟨listed, sameId⟩
    rw [subId, found] at rowFound
    cases rowFound
    simp [other]
  · exact ⟨rfl, fun _ => rfl⟩

theorem sameFor_delete
    (done : adminDeleteUserSubscription now db userSubscriptionId = .ok (later, target)) :
    SameFor userId db later := by
  simp only [adminDeleteUserSubscription, found] at done
  split at done
  · cases done
  obtain ⟨⟨written, group⟩, downgraded, done⟩ := bind_ok_iff.mp done
  cases done
  obtain ⟨table, groups⟩ := downgradeUserGroupForSubscriptionTx_frame downgraded
  refine ⟨groups userId (Ne.symm other), ?_⟩
  simp only [userRows, delete, List.filter_filter]
  rw [table]
  apply List.filter_congr
  intro row listed
  by_cases owner : row.userId = userId
  · have different : row.id ≠ userSubscriptionId := by
      intro sameId
      have rowFound : db.subscriptions.lookup userSubscriptionId = some row :=
        lookup_eq_some_iff.mpr ⟨listed, sameId⟩
      rw [found] at rowFound
      cases rowFound
      exact other owner
    simp [owner, different]
  · simp [owner]

end

/-! ## Expiry -/

theorem userRows_expired (now : Int) (db : GroupDatabase) (userId : Int) :
    userRows
        { db with
          subscriptions :=
            db.subscriptions.update
              (fun row => row.userId = userId && row.due now)
              (fun row => { row with status := .expired }) (fun _ => rfl) }
        userId =
      (db.userRows userId).map (·.expire now) := by
  simp only [userRows, update, List.filter_map]
  have sameUser : ((fun row : UserSubscription => decide (row.userId = userId)) ∘
      fun row : UserSubscription =>
        if row.userId = userId && row.due now then { row with status := .expired }
        else row) = fun row => decide (row.userId = userId) := by
    funext row
    simp only [Function.comp_apply]
    split
    · rfl
    · rfl
  rw [sameUser]
  apply List.map_congr_left
  intro row listed
  have owner : row.userId = userId := by simpa using (List.mem_filter.mp listed).2
  simp [expire, owner]

theorem activeUpgrade_expire (rows : List UserSubscription) (row : UserSubscription) :
    ActiveUpgrade (rows.map (·.expire now)) row ↔ ActiveUpgrade rows row ∧ row.due now = false := by
  constructor
  · rintro ⟨listed, active, upgrade⟩
    obtain ⟨old, oldListed, rfl⟩ := List.mem_map.mp listed
    unfold expire at active upgrade ⊢
    split at active
    · cases active
    rename_i notDue
    rw [if_neg notDue] at upgrade ⊢
    exact ⟨⟨oldListed, active, upgrade⟩, by simpa using notDue⟩
  · rintro ⟨⟨listed, active, upgrade⟩, notDue⟩
    refine ⟨List.mem_map.mpr ⟨row, listed, ?_⟩, active, upgrade⟩
    simp [expire, notDue]

theorem PlanRows.expire (plans : PlanRows baseGroup rows) :
    PlanRows baseGroup (rows.map (·.expire now)) := by
  intro row listed
  obtain ⟨old, oldListed, rfl⟩ := List.mem_map.mp listed
  have oldPlan := plans old oldListed
  unfold UserSubscription.expire
  split
  · exact oldPlan
  · exact oldPlan

theorem mem_of_lastExpired {last : UserSubscription} (found : lastExpired rows = some last) :
    last ∈ rows := by
  have sorted := List.mem_of_mem_head? found
  exact (List.mem_filter.mp ((List.mem_insertionSort endsLater).mp sorted)).1

theorem expireUserTx_frame (done : expireUserTx now db userId = .ok later) : later.subscriptions =
        db.subscriptions.update (fun row => row.userId = userId && row.due now)
          (fun row => { row with status := .expired }) (fun _ => rfl) ∧
      ∀ other, other ≠ userId → later.groups other = db.groups other := by
  simp only [expireUserTx] at done
  split at done
  · cases done
    exact ⟨rfl, fun _ _ => rfl⟩
  split at done
  · cases done
    exact ⟨rfl, fun _ _ => rfl⟩
  rename_i last _
  obtain ⟨current, _, done⟩ := bind_ok_iff.mp done
  generalize (if trimSpace last.downgradeGroup = "" then
    trimSpace last.prevUserGroup else trimSpace last.downgradeGroup) = goal at done
  split at done
  · cases done
    exact ⟨rfl, fun _ _ => rfl⟩
  split at done
  · cases done
    exact ⟨rfl, fun _ _ => rfl⟩
  split at done
  · cases done
    exact ⟨rfl, fun _ _ => rfl⟩
  · cases done
    exact ⟨rfl, fun other different => groups_setGroup_of_ne _ _ different⟩

theorem expireUserTx_moves (known : db.groups userId = some current)
    (plans : PlanRows baseGroup (db.userRows userId))
    (done : expireUserTx now db userId = .ok later) :
    ∃ after, later.groups userId = some after ∧
      Moves current after (lastExpired ((db.userRows userId).map (·.expire now)))
        (∃ row,
          (ActiveUpgrade (db.userRows userId) row ∧ row.due now = false) ∧ now < row.endTime) := by
  simp only [expireUserTx, userRows_expired] at done
  split at done
  · rename_i blocking
    cases done
    refine ⟨current, known, fun _ => rfl, ?_, fun _ => rfl⟩
    intro idle
    exfalso
    obtain ⟨row, listed, tests⟩ := List.any_eq_true.mp blocking
    simp only [Bool.and_eq_true, decide_eq_true_eq] at tests
    have active := (activeUpgrade_expire (db.userRows userId) row).mp ⟨listed, tests.1.1, tests.2⟩
    exact idle ⟨row, active, tests.1.2⟩
  rename_i notBlocking
  have idle : ¬ ∃ row,
      (ActiveUpgrade (db.userRows userId) row ∧ row.due now = false) ∧ now < row.endTime := by
    rintro ⟨row, active, running⟩
    obtain ⟨listed, isActive, upgrade⟩ := (activeUpgrade_expire (db.userRows userId) row).mpr active
    apply notBlocking
    refine List.any_eq_true.mpr ⟨row, listed, ?_⟩
    simp [isActive, upgrade, running]
  split at done
  · rename_i found
    cases done
    refine ⟨current, known, fun _ => rfl, ?_, fun _ => rfl⟩
    intro _ row group consulted
    rw [found] at consulted
    cases consulted
  rename_i last found
  have expiredPlans : PlanRows baseGroup ((db.userRows userId).map (·.expire now)) := plans.expire
  obtain ⟨hasUpgrade, _, noDowngrade⟩ := expiredPlans last (mem_of_lastExpired found)
  obtain ⟨group, read, done⟩ := bind_ok_iff.mp done
  obtain rfl := getUserGroupByIdTx_known known read
  simp only [noDowngrade, true_and, if_true, hasUpgrade, false_or] at done
  rw [found]
  split at done
  · rename_i forgotten
    cases done
    refine ⟨group, known, fun _ => rfl, ?_, fun _ => rfl⟩
    rintro _ row other ⟨⟩ restores
    exact absurd (restores.2.1.symm.trans forgotten) restores.2.2
  split at done
  · rename_i moved
    cases done
    refine ⟨group, known, fun _ => rfl, ?_, fun _ => rfl⟩
    rintro _ row other ⟨⟩ restores
    exact absurd restores.1.symm moved
  rename_i remembered notMoved
  split at done
  · rename_i nothing
    cases done
    refine ⟨group, known, fun _ => rfl, ?_, fun _ => rfl⟩
    rintro _ row other ⟨⟩ restores
    rcases nothing with empty | same
    · exact absurd empty remembered
    · exact same.symm.trans restores.2.1
  · cases done
    refine ⟨_, groups_setGroup_self _ known, ?_, ?_, ?_⟩
    · intro running
      exact absurd running idle
    · rintro _ row other ⟨⟩ restores
      exact restores.2.1
    · intro nothing
      exfalso
      apply nothing last (trimSpace last.prevUserGroup) rfl
      exact ⟨(not_not.mp notMoved).symm, rfl, remembered⟩

theorem sameFor_expireUserTx {other : Int} (different : userId ≠ other)
    (done : expireUserTx now db other = .ok later) :
    SameFor userId db later := by
  obtain ⟨table, groups⟩ := expireUserTx_frame done
  refine ⟨groups userId different, ?_⟩
  unfold userRows
  rw [table]
  apply List.filter_map_eq_filter
  intro row listed
  split
  · rename_i takes
    have owner : row.userId = other := by
      simp only [Bool.and_eq_true, decide_eq_true_eq] at takes
      exact takes.1
    simp [owner, Ne.symm different]
  · exact ⟨rfl, fun _ => rfl⟩

theorem Managed.expireUser (managed : Managed baseGroup userId db)
    (done : expireUserTx now db userId = .ok later) :
    (∃ group, later.groups userId = some group) ∧ PlanRows baseGroup (later.userRows userId) ∧
      (GroupFollows baseGroup userId later ↔
        GivesBack baseGroup (db.group userId) now
          (lastExpired ((db.userRows userId).map (·.expire now)))
          (fun row =>
            ActiveUpgrade (db.userRows userId) row ∧ row.due now = false)) := by
  obtain ⟨current, known⟩ := managed.known
  obtain ⟨table, _⟩ := expireUserTx_frame done
  have laterRows : later.userRows userId = (db.userRows userId).map (·.expire now) := by
    rw [← userRows_expired]
    unfold userRows
    rw [table]
  obtain ⟨after, moved, moves⟩ := expireUserTx_moves known managed.rows done
  refine ⟨⟨after, moved⟩, ?_, ?_⟩
  · rw [laterRows]
    exact managed.rows.expire
  · refine groupFollows_iff_givesBack ?_ ?_ ?_
    · intro row
      rw [laterRows]
      exact activeUpgrade_expire (db.userRows userId) row
    · rw [group_of_groups known, group_of_groups moved]
      exact moves
    · intro row found
      exact (managed.rows.expire row (mem_of_lastExpired found)).2.1

theorem getUserGroupByIdTx_ok (db : GroupDatabase) (positive : 0 < userId) :
    getUserGroupByIdTx db userId = .ok (db.group userId) :=
  if_neg (not_le.mpr positive)

theorem expireUserTx_ok (now : Int) (db : GroupDatabase) (positive : 0 < userId) :
    ∃ later, expireUserTx now db userId = .ok later := by
  simp only [expireUserTx]
  split
  · exact ⟨_, rfl⟩
  split
  · exact ⟨_, rfl⟩
  rename_i last _
  rw [getUserGroupByIdTx_ok _ positive]
  simp only [bind, Except.bind]
  generalize (if trimSpace last.downgradeGroup = "" then
    trimSpace last.prevUserGroup else trimSpace last.downgradeGroup) = goal
  split
  · exact ⟨_, rfl⟩
  split
  · exact ⟨_, rfl⟩
  split
  · exact ⟨_, rfl⟩
  · exact ⟨_, rfl⟩

def expiredUsers (now limit : Int) (order : MapOrder) (fails : Int → Bool)
    (db : GroupDatabase) : List Int :=
  (dueUsers now limit order db).takeWhile (fun id => !fails id)

theorem sameFor_expireUsers (fails : Int → Bool) :
    ∀ {users : List Int} {db : GroupDatabase},
      userId ∉ users.takeWhile (fun id => !fails id) →
        SameFor userId db (expireUsers now fails db users)
  | [], db, _ => SameFor.refl userId db
  | other :: rest, db, missing => by
      unfold expireUsers
      split
      · exact SameFor.refl userId db
      rename_i commits
      rw [List.takeWhile_cons_of_pos (by simpa using commits), List.mem_cons, not_or] at missing
      split
      · exact SameFor.refl userId db
      · rename_i later done
        exact (sameFor_expireUserTx missing.1 done).trans (sameFor_expireUsers fails missing.2)

theorem expireUsers_reaches (fails : Int → Bool) :
    ∀ {users : List Int} {db : GroupDatabase},
      users.Nodup → (∀ id ∈ users, 0 < id) →
        userId ∈ users.takeWhile (fun id => !fails id) →
          ∃ before after,
            SameFor userId db before ∧
              expireUserTx now before userId = .ok after ∧
                SameFor userId after (expireUsers now fails db users)
  | [], _, _, _, reached => by
      cases reached
  | other :: rest, db, distinct, positive, reached => by
      obtain ⟨fresh, restDistinct⟩ := List.nodup_cons.mp distinct
      obtain ⟨later, done⟩ := expireUserTx_ok now db (positive other List.mem_cons_self)
      by_cases commits : fails other = true
      · rw [List.takeWhile_cons_of_neg (by simpa using commits)] at reached
        cases reached
      rw [List.takeWhile_cons_of_pos (by simpa using commits)] at reached
      have continues : expireUsers now fails db (other :: rest) =
          expireUsers now fails later rest := by
        simp only [expireUsers, if_neg commits, done]
      rw [continues]
      by_cases own : userId = other
      · subst own
        have missing : userId ∉ rest.takeWhile (fun id => !fails id) :=
          fun listed => fresh ((List.takeWhile_sublist _).subset listed)
        exact ⟨db, later, SameFor.refl userId db, done, sameFor_expireUsers fails missing⟩
      · have reachedLater : userId ∈ rest.takeWhile (fun id => !fails id) := by
          rcases List.mem_cons.mp reached with same | listed
          · exact absurd same own
          · exact listed
        obtain ⟨before, after, same, expired, rested⟩ :=
          expireUsers_reaches fails restDistinct
            (fun id listed => positive id (List.mem_cons_of_mem _ listed))
            reachedLater
        exact ⟨before, after, (sameFor_expireUserTx own done).trans same, expired, rested⟩

theorem nodup_dueUsers (now limit : Int) (order : MapOrder) (db : GroupDatabase) :
    (dueUsers now limit order db).Nodup :=
  (order.perm _).nodup_iff.mpr (List.nodup_dedup _)

theorem pos_of_mem_dueUsers {limit : Int} {order : MapOrder}
    (listed : id ∈ dueUsers now limit order db) :
    0 < id := by
  have visited := List.mem_dedup.mp ((order.perm _).mem_iff.mp listed)
  simpa using (List.mem_filter.mp visited).2

end Users

end NewApi.Subscriptions
