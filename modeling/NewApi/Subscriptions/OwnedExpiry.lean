import NewApi.Subscriptions.GroupsInStep

/-!
# Groups that an expiry owns

An expiry pass looks up the subscription that ended last in the whole history of
a user.  It gives back a group of its own exactly when that subscription ends in
the pass: one that expired long ago decides again, over a group that was set by
hand since.
-/

namespace NewApi.Subscriptions

open GoStrings Transactions UserSubscription

def NamedByPass (now : Int) (rows : List UserSubscription) (group : String) : Prop :=
  ∃ row ∈ rows, row.due now = true ∧ (row.upgradeGroup ≠ "" ∨ row.downgradeGroup ≠ "") ∧
    (group = trimSpace row.downgradeGroup ∨ group = trimSpace row.prevUserGroup ∨
      ∃ other ∈ rows, other.status = .active ∧ other.due now = false ∧ group = other.upgradeGroup)

def KeepsUpgrade (now : Int) (rows : List UserSubscription) : Prop :=
  ∃ row ∈ rows, row.status = .active ∧ now < row.endTime ∧ row.upgradeGroup ≠ ""

/-- The group in which the end of a subscription leaves its user. -/
def UserSubscription.leadsTo (row : UserSubscription) (current : String) : String :=
  if trimSpace row.downgradeGroup ≠ "" then trimSpace row.downgradeGroup
  else if trimSpace row.upgradeGroup ≠ "" ∧ trimSpace row.upgradeGroup = current ∧
      trimSpace row.prevUserGroup ≠ "" then
    trimSpace row.prevUserGroup
  else current

/-- A subscription that had expired before the pass and ended last of all leaves
the user alone, or where a subscription of the pass leads as well. -/
def NothingReopened (now : Int) (rows : List UserSubscription) (current : String) : Prop :=
  ¬ KeepsUpgrade now rows → ∀ last ∈ rows, lastExpired (rows.map (·.expire now)) = some last →
    last.leadsTo current = current ∨ NamedByPass now rows (last.leadsTo current)

section Pass

variable {userId now : Int} {db later : GroupDatabase} {current : String}

/-- The update of the pass does not touch the upgrades that keep running. -/
theorem keepsUpgrade_expire (rows : List UserSubscription) :
    ((rows.map (·.expire now)).any fun row =>
        row.status = .active && decide (now < row.endTime) && decide (row.upgradeGroup ≠ "")) =
      true ↔ KeepsUpgrade now rows := by
  simp only [List.any_map, List.any_eq_true, Function.comp_apply, Bool.and_eq_true,
    decide_eq_true_eq, KeepsUpgrade]
  refine exists_congr fun row => and_congr_right fun _ => ?_
  unfold UserSubscription.expire
  split
  · rename_i due
    simp only [UserSubscription.due, Bool.and_eq_true, decide_eq_true_eq] at due
    have ended := not_lt.mpr due.2
    simp [ended]
  · exact and_assoc

theorem expireUserTx_leadsTo (known : db.groups userId = some current)
    (done : expireUserTx now db userId = .ok later) :
    (KeepsUpgrade now (db.userRows userId) → later.groups userId = some current) ∧
      (¬ KeepsUpgrade now (db.userRows userId) →
        later.groups userId = some
          ((lastExpired ((db.userRows userId).map (·.expire now))).elim current
            (·.leadsTo current))) := by
  simp only [expireUserTx, userRows_expired] at done
  split at done
  · rename_i keeps
    cases done
    exact ⟨fun _ => known, fun ends => absurd ((keepsUpgrade_expire _).mp keeps) ends⟩
  rename_i ends
  refine ⟨fun keeps => absurd ((keepsUpgrade_expire _).mpr keeps) ends, fun _ => ?_⟩
  split at done
  · rename_i found
    cases done
    rw [found]
    exact known
  rename_i last found
  obtain ⟨group, read, done⟩ := bind_ok_iff.mp done
  obtain rfl := getUserGroupByIdTx_known known read
  rw [found, Option.elim_some, leadsTo]
  generalize trimSpace last.downgradeGroup = downgrade at done ⊢
  generalize trimSpace last.upgradeGroup = upgrade at done ⊢
  generalize trimSpace last.prevUserGroup = previous at done ⊢
  generalize target : (if downgrade = "" then previous else downgrade) = goal at done
  split at done
  · cases done
    exact known.trans (congrArg some (by grind))
  split at done
  · cases done
    exact known.trans (congrArg some (by grind))
  split at done
  · cases done
    exact known.trans (congrArg some (by grind))
  cases done
  exact (groups_setGroup_self _ known).trans (congrArg some (by grind))

theorem leadsTo_expire (row : UserSubscription) :
    (row.expire now).leadsTo current = row.leadsTo current := by
  unfold expire
  split <;> rfl

theorem UserSubscription.leadsTo_ne {row : UserSubscription}
    (moves : row.leadsTo current ≠ current) :
    (row.upgradeGroup ≠ "" ∨ row.downgradeGroup ≠ "") ∧
      (row.leadsTo current = trimSpace row.downgradeGroup ∨
        row.leadsTo current = trimSpace row.prevUserGroup) := by
  have blank := trimSpace_empty
  unfold leadsTo at moves ⊢
  split_ifs at moves ⊢ with names
  · exact ⟨Or.inr fun empty => names (by rw [empty, blank]), Or.inl rfl⟩
  · rename_i elevated
    exact ⟨Or.inl fun empty => elevated.1 (by rw [empty, blank]), Or.inr rfl⟩
  · exact absurd rfl moves

/-- The group of a user that a pass reaches. -/
theorem expireDueSubscriptions_leadsTo {limit : Int} {order : MapOrder} {fails : Int → Bool}
    (known : db.groups userId = some current)
    (reached : userId ∈ expiredUsers now limit order fails db) :
    (KeepsUpgrade now (db.userRows userId) →
        (expireDueSubscriptions now limit order fails db).groups userId = some current) ∧
      (¬ KeepsUpgrade now (db.userRows userId) →
        (expireDueSubscriptions now limit order fails db).groups userId = some
          ((lastExpired ((db.userRows userId).map (·.expire now))).elim current
            (·.leadsTo current))) := by
  obtain ⟨before, after, first, done, second⟩ :=
    expireUsers_reaches fails (nodup_dueUsers now limit order db)
      (fun _ listed => pos_of_mem_dueUsers listed) reached
  rw [← first.groups] at known
  have effect := expireUserTx_leadsTo known done
  rw [first.rows, ← second.groups] at effect
  exact effect

/-- A pass gives only groups of its own exactly when no subscription that had
expired before decides again. -/
theorem expiry_touches_owned_iff (now limit : Int) (order : MapOrder) (fails : Int → Bool)
    (db : GroupDatabase) :
    (∀ userId current group, db.groups userId = some current →
      (expireDueSubscriptions now limit order fails db).groups userId = some group →
        group ≠ current → NamedByPass now (db.userRows userId) group) ↔
      ∀ userId ∈ expiredUsers now limit order fails db, ∀ current,
        db.groups userId = some current → NothingReopened now (db.userRows userId) current := by
  constructor
  · intro owned userId reached current known ends last _ found
    have given := (expireDueSubscriptions_leadsTo known reached).2 ends
    rw [found, Option.elim_some] at given
    exact or_iff_not_imp_left.mpr (owned userId current _ known given)
  · intro alone userId current group known given changed
    by_cases reached : userId ∈ expiredUsers now limit order fails db
    · by_cases keeps : KeepsUpgrade now (db.userRows userId)
      · rw [(expireDueSubscriptions_leadsTo known reached).1 keeps] at given
        exact absurd (Option.some.inj given).symm changed
      rw [(expireDueSubscriptions_leadsTo known reached).2 keeps] at given
      obtain rfl := Option.some.inj given
      revert changed
      cases found : lastExpired ((db.userRows userId).map (·.expire now)) with
      | none => exact absurd rfl
      | some last =>
        intro changed
        rw [Option.elim_some] at changed ⊢
        obtain ⟨row, listed, rfl⟩ := List.mem_map.mp (mem_of_lastExpired found)
        by_cases due : row.due now = true
        · -- The row that decides ends in this pass.
          rw [leadsTo_expire] at changed ⊢
          obtain ⟨defines, target⟩ := UserSubscription.leadsTo_ne changed
          exact ⟨row, listed, due, defines, target.imp_right Or.inl⟩
        · have old : row.expire now = row := if_neg due
          rw [old] at found changed ⊢
          exact (alone userId reached current known keeps row listed found).resolve_left changed
    · rw [expireDueSubscriptions, (sameFor_expireUsers fails reached).groups, known] at given
      exact absurd (Option.some.inj given).symm changed

def reopenedRows : List UserSubscription :=
  [{ id := 1, userId := 7, planId := 1, endTime := 200, status := .expired
     upgradeGroup := "", prevUserGroup := "", downgradeGroup := "default" },
   { id := 2, userId := 7, planId := 2, endTime := 100, status := .active
     upgradeGroup := "", prevUserGroup := "", downgradeGroup := "" }]

def reopenedHistory : GroupDatabase where
  groups := fun _ => some "vip"
  subscriptions := { rows := reopenedRows, unique := by decide }

/-- The old subscription takes a group away that was set by hand since. -/
theorem old_subscription_decides_again :
    ¬ ∀ userId current group, reopenedHistory.groups userId = some current →
      (expireDueSubscriptions 300 200 ⟨id, fun _ => List.Perm.refl _⟩ (fun _ => false)
        reopenedHistory).groups userId = some group →
        group ≠ current → NamedByPass 300 (reopenedHistory.userRows userId) group := by
  intro owned
  have nothingOwned : ∀ row ∈ reopenedHistory.userRows 7, row.due 300 = true →
      ¬ (row.upgradeGroup ≠ "" ∨ row.downgradeGroup ≠ "") := by
    decide
  obtain ⟨row, listed, due, defines, _⟩ := owned 7 "vip" "default" rfl (by decide +kernel) (by decide)
  exact nothingOwned row listed due defines

end Pass

end NewApi.Subscriptions
