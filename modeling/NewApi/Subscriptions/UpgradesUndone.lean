import NewApi.Subscriptions.GroupsInStep

/-!
# Upgrades are undone

Every call of a run as one step on the tables.  A run keeps the group of a user
in step with the active subscriptions exactly when each of its calls does, and
a renewal before the end of a subscription is one that does not.
-/

namespace NewApi.Subscriptions

open GoStrings Transactions

/-! ## Steps and runs -/

def GroupCall.BuysUpgrade (baseGroup : String) (userId : Int) : GroupCall → Prop
  | .create _ _ buyer plan => buyer = userId → plan.UpgradesFrom baseGroup
  | .expireDue _ _ _ _ => True
  | .invalidate _ _ => True
  | .delete _ _ => True

/-- When a cancellation or a deletion leaves the user in the right group. -/
def EndsWell (baseGroup : String) (userId now userSubscriptionId : Int)
    (db : GroupDatabase) : Prop :=
  0 < userSubscriptionId →
    ∀ sub, db.subscriptions.lookup userSubscriptionId = some sub →
      sub.userId = userId →
        GivesBack baseGroup (db.group userId) now (some sub) (fun row =>
          ActiveUpgrade (db.userRows userId) row ∧ row.id ≠ userSubscriptionId)

def LeavesInStep (baseGroup : String) (userId : Int) (db : GroupDatabase) : GroupCall → Prop
  | .create _ _ _ _ => True
  | .expireDue now limit order fails =>
    userId ∈ expiredUsers now limit order fails db →
      GivesBack baseGroup (db.group userId) now
        (lastExpired ((db.userRows userId).map (·.expire now)))
        (fun row => ActiveUpgrade (db.userRows userId) row ∧ row.due now = false)
  | .invalidate now userSubscriptionId => EndsWell baseGroup userId now userSubscriptionId db
  | .delete now userSubscriptionId => EndsWell baseGroup userId now userSubscriptionId db

section Steps

variable {baseGroup : String} {userId : Int} {db : GroupDatabase}

/-- What a step keeps whatever its call is, and when it keeps the group in
step. -/
structure Stepped (baseGroup : String) (userId : Int) (db later : GroupDatabase)
    (inStep : Prop) : Prop where
  known : ∃ group, later.groups userId = some group
  rows : PlanRows baseGroup (later.userRows userId)
  follows : GroupFollows baseGroup userId later ↔ inStep

theorem Managed.stepped {later : GroupDatabase} {inStep : Prop}
    (managed : Managed baseGroup userId later) (holds : inStep) :
    Stepped baseGroup userId db later inStep :=
  ⟨managed.known, managed.rows, fun _ => holds, fun _ => managed.follows⟩

variable {sub : UserSubscription} {userSubscriptionId : Int}

theorem downgradeUserGroupForSubscriptionTx_ok (now : Int) (db : GroupDatabase)
    (positive : 0 < sub.userId) :
    ∃ result, downgradeUserGroupForSubscriptionTx now db sub = .ok result := by
  simp only [downgradeUserGroupForSubscriptionTx]
  split
  · exact ⟨_, rfl⟩
  rw [getUserGroupByIdTx_ok _ positive]
  simp only [bind, Except.bind]
  generalize (if trimSpace sub.downgradeGroup = "" then
    trimSpace sub.prevUserGroup else trimSpace sub.downgradeGroup) = goal
  split
  · exact ⟨_, rfl⟩
  split
  · exact ⟨_, rfl⟩
  split
  · exact ⟨_, rfl⟩
  · exact ⟨_, rfl⟩

section

variable (now : Int) (valid : 0 < userSubscriptionId)
  (found : db.subscriptions.lookup userSubscriptionId = some sub) (positive : 0 < sub.userId)
include now valid found positive

theorem adminInvalidateUserSubscription_ok :
    ∃ result, adminInvalidateUserSubscription now db userSubscriptionId = .ok result := by
  simp only [adminInvalidateUserSubscription, if_neg (not_le.mpr valid), found]
  exact downgradeUserGroupForSubscriptionTx_ok now _ positive

theorem adminDeleteUserSubscription_ok :
    ∃ result, adminDeleteUserSubscription now db userSubscriptionId = .ok result := by
  obtain ⟨result, downgraded⟩ := downgradeUserGroupForSubscriptionTx_ok now db positive
  simp only [adminDeleteUserSubscription, if_neg (not_le.mpr valid), found, downgraded]
  exact ⟨_, rfl⟩

end

theorem Managed.commitEnding {now : Int} (managed : Managed baseGroup userId db)
    (result : Except GroupError (GroupDatabase × String))
    (refused : userSubscriptionId ≤ 0 ∨ db.subscriptions.lookup userSubscriptionId = none →
      ∃ failure, result = .error failure)
    (runs : 0 < userSubscriptionId → ∀ sub,
      db.subscriptions.lookup userSubscriptionId = some sub →
        0 < sub.userId → ∃ committed, result = .ok committed)
    (own : ∀ sub later target,
      db.subscriptions.lookup userSubscriptionId = some sub →
        sub.userId = userId → result = .ok (later, target) →
          Ended baseGroup userId now userSubscriptionId sub db later)
    (others : ∀ sub later target,
      db.subscriptions.lookup userSubscriptionId = some sub →
        sub.userId ≠ userId → result = .ok (later, target) → SameFor userId db later) :
    Stepped baseGroup userId db (commit db (result.map Prod.fst))
      (EndsWell baseGroup userId now userSubscriptionId db) := by
  by_cases invalid : userSubscriptionId ≤ 0
  · obtain ⟨failure, failed⟩ := refused (Or.inl invalid)
    rw [failed]
    exact managed.stepped (fun valid => absurd valid (not_lt.mpr invalid))
  have valid : 0 < userSubscriptionId := not_le.mp invalid
  cases found : db.subscriptions.lookup userSubscriptionId with
  | none =>
    obtain ⟨failure, failed⟩ := refused (Or.inr found)
    rw [failed]
    refine managed.stepped ?_
    intro _ sub stored
    rw [found] at stored
    cases stored
  | some sub =>
    by_cases owner : sub.userId = userId
    · obtain ⟨⟨later, target⟩, done⟩ := runs valid sub found (owner ▸ managed.positive)
      have ended := own sub later target found owner done
      rw [done]
      refine ⟨ended.known, ended.rows, ended.follows.trans ?_⟩
      constructor
      · intro gives _ stored storedFound _
        rw [found] at storedFound
        cases storedFound
        exact gives
      · intro well
        exact well valid sub found owner
    · have inStep : EndsWell baseGroup userId now userSubscriptionId db := by
        intro _ stored storedFound storedOwner
        rw [found] at storedFound
        cases storedFound
        exact absurd storedOwner owner
      cases done : result with
      | error failure => exact managed.stepped inStep
      | ok committed =>
        obtain ⟨later, target⟩ := committed
        have same := others sub later target found owner done
        exact (same.managed managed).stepped inStep

/-- One call, and whether it leaves groups in step. -/
theorem Managed.step {call : GroupCall} (managed : Managed baseGroup userId db)
    (buys : call.BuysUpgrade baseGroup userId) :
    Stepped baseGroup userId db (groupStep db call) (LeavesInStep baseGroup userId db call) := by
  cases call with
  | create now id buyer plan =>
    simp only [groupStep]
    cases done : createUserSubscriptionFromPlanTx now db id buyer plan with
    | error failure => exact managed.stepped trivial
    | ok later => exact (managed.create buys done).stepped trivial
  | expireDue now limit order fails =>
    simp only [groupStep, expireDueSubscriptions]
    by_cases reached : userId ∈ expiredUsers now limit order fails db
    · obtain ⟨before, after, same, done, rest⟩ :=
        expireUsers_reaches fails (nodup_dueUsers now limit order db)
          (fun _ listed => pos_of_mem_dueUsers listed) reached
      obtain ⟨known, rows, follows⟩ := (same.managed managed).expireUser done
      rw [same.group, same.rows] at follows
      refine ⟨?_, ?_, ?_⟩
      · rw [rest.groups]
        exact known
      · rw [rest.rows]
        exact rows
      · refine Iff.trans ?_ (follows.trans ⟨fun gives _ => gives, ?_⟩)
        · exact ⟨SameFor.follows ⟨rest.groups.symm, rest.rows.symm⟩, rest.follows⟩
        · exact fun well => well reached
    · have same : SameFor userId db (expireUsers now fails db (dueUsers now limit order db)) :=
        sameFor_expireUsers fails reached
      exact (same.managed managed).stepped (fun listed => absurd listed reached)
  | invalidate now userSubscriptionId =>
    refine managed.commitEnding _ ?_
        (fun valid sub found positive =>
          adminInvalidateUserSubscription_ok now valid found positive)
        (fun sub later target found owner done => managed.invalidate found owner done)
        (fun sub later target found other done => sameFor_invalidate found other done)
    rintro (invalid | missing)
    · exact ⟨_, if_pos invalid⟩
    · simp only [adminInvalidateUserSubscription, missing]
      split
      · exact ⟨_, rfl⟩
      · exact ⟨_, rfl⟩
  | delete now userSubscriptionId =>
    refine managed.commitEnding _ ?_
        (fun valid sub found positive => adminDeleteUserSubscription_ok now valid found positive)
        (fun sub later target found owner done => managed.delete found owner done)
        (fun sub later target found other done => sameFor_delete found other done)
    rintro (invalid | missing)
    · exact ⟨_, if_pos invalid⟩
    · simp only [adminDeleteUserSubscription, missing]
      split
      · exact ⟨_, rfl⟩
      · exact ⟨_, rfl⟩

theorem Stepped.managed {later : GroupDatabase} {inStep : Prop}
    (stepped : Stepped baseGroup userId db later inStep) (positive : 0 < userId) (holds : inStep) :
    Managed baseGroup userId later :=
  ⟨positive, stepped.known, stepped.rows, stepped.follows.mpr holds⟩

/-- Over a whole run. -/
theorem Managed.run_iff :
    ∀ {run : List GroupCall} {db : GroupDatabase},
      Managed baseGroup userId db →
        (∀ call ∈ run, call.BuysUpgrade baseGroup userId) →
          ((∀ initial, initial <+: run →
              GroupFollows baseGroup userId (execute groupStep db initial)) ↔
            GuardedRun groupStep (LeavesInStep baseGroup userId) db run)
  | [], db, managed, _ => by
      refine ⟨fun _ => trivial, fun _ initial isPrefix => ?_⟩
      rw [List.prefix_nil.mp isPrefix]
      exact managed.follows
  | call :: rest, db, managed, buys => by
      have stepped := managed.step (buys call List.mem_cons_self)
      have restBuys : ∀ other ∈ rest, other.BuysUpgrade baseGroup userId :=
        fun other listed => buys other (List.mem_cons_of_mem call listed)
      constructor
      · intro follows
        have first : GroupFollows baseGroup userId (groupStep db call) :=
          follows [call] (List.prefix_append [call] rest)
        have inStep := stepped.follows.mp first
        refine ⟨inStep, ?_⟩
        apply (Managed.run_iff (stepped.managed managed.positive inStep) restBuys).mp
        intro initial isPrefix
        exact follows (call :: initial) (List.cons_prefix_cons.mpr ⟨rfl, isPrefix⟩)
      · rintro ⟨inStep, restRun⟩ initial isPrefix
        have later :=
          (Managed.run_iff (stepped.managed managed.positive inStep) restBuys).mpr restRun
        cases initial with
        | nil => exact managed.follows
        | cons first others =>
          obtain ⟨rfl, restPrefix⟩ := List.cons_prefix_cons.mp isPrefix
          exact later others restPrefix

end Steps

/-- The group of a user who starts in the base group without subscriptions
follows the active upgrades in every state of a run exactly when every call
leaves it in step. -/
theorem upgrades_undone_iff (baseGroup : String) (userId : Int) (start : GroupDatabase)
    (run : List GroupCall) (positive : 0 < userId) (inBase : start.groups userId = some baseGroup)
    (unsubscribed : start.userRows userId = [])
    (buys : ∀ call ∈ run, call.BuysUpgrade baseGroup userId) :
    (∀ initial, initial <+: run → GroupFollows baseGroup userId (execute groupStep start initial)) ↔
      GuardedRun groupStep (LeavesInStep baseGroup userId) start run := by
  have managed : Managed baseGroup userId start := by
    refine ⟨positive, ⟨baseGroup, inBase⟩, ?_, ?_, ?_⟩
    · rw [unsubscribed]
      nofun
    · intro _
      exact group_of_groups inBase
    · rintro row ⟨listed, _⟩
      rw [unsubscribed] at listed
      cases listed
  exact managed.run_iff buys

def newUser : GroupDatabase where
  groups id := if id = 1 then some "default" else none
  subscriptions := .empty

def vipPlan : SubscriptionPlan where
  id := 1
  upgradeGroup := "vip"
  endTime now := .ok (now + 10)

def renewalRun : List GroupCall :=
  [ .create 0 1 1 vipPlan, .create 5 2 1 vipPlan,
    .expireDue 20 0 ⟨id, fun _ => .refl _⟩ (fun _ => false) ]

theorem renewalRun_buys : ∀ call ∈ renewalRun, call.BuysUpgrade "default" 1 := by
  have upgrades : vipPlan.UpgradesFrom "default" := by
    unfold SubscriptionPlan.UpgradesFrom
    decide +kernel
  simp [renewalRun, GroupCall.BuysUpgrade, upgrades]

theorem upgrades_undone_iff_of_renewal : (∀ initial, initial <+: renewalRun →
        GroupFollows "default" 1 (execute groupStep newUser initial)) ↔
      GuardedRun groupStep (LeavesInStep "default" 1) newUser renewalRun :=
  upgrades_undone_iff "default" 1 newUser renewalRun (by decide) rfl rfl renewalRun_buys

/-- The renewal remembers no group, so that the user keeps the upgrade. -/
theorem renewal_keeps_upgrade :
    ¬ ∀ (baseGroup : String) (userId : Int) (start : GroupDatabase) (run : List GroupCall),
      0 < userId → start.groups userId = some baseGroup →
        start.userRows userId = [] →
          (∀ call ∈ run, call.BuysUpgrade baseGroup userId) →
            (run.map GroupCall.now).Pairwise (· ≤ ·) →
              GroupFollows baseGroup userId (execute groupStep start run) := by
  intro always
  have follows :=
    always "default" 1 newUser renewalRun (by decide) rfl rfl renewalRun_buys (by decide)
  have ended : ((execute groupStep newUser renewalRun).userRows 1).all
      (fun row => row.status ≠ .active) = true := by
    decide +kernel
  have stuck : (execute groupStep newUser renewalRun).group 1 = "vip" := by decide +kernel
  have undone := follows.undone (fun row active => by
    have inactive := List.all_eq_true.mp ended row active.1
    simp [active.2.1] at inactive)
  exact absurd undone (by decide +kernel)

end NewApi.Subscriptions
