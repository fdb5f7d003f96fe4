import Mathlib.Data.List.Perm.Subperm
import NewApi.ImageTasks.ChannelLeases

/-!
# Who may run on a channel

An owner is entitled from an acquisition or a renewal up to the end of the lease
or its release.  A cleanup takes the row of an entitled owner when the lease was
renewed between its two statements.
-/

namespace NewApi.ImageTasks

open Interleaving Transactions ImageTaskChannelLease

namespace Leases

def Entitled (shared : Leases) (channelID : Int) (owner : String) : Prop :=
  ∃ granted ∈ shared.entitlements,
    granted.channelID = channelID ∧ granted.owner = owner ∧ shared.clock < granted.validUntil

instance (shared : Leases) (channelID : Int) (owner : String) :
    Decidable (shared.Entitled channelID owner) :=
  inferInstanceAs (Decidable (∃ granted ∈ shared.entitlements, _))

def HasSlot (shared : Leases) (channelID : Int) (owner : String) : Prop :=
  ∃ lease ∈ shared.leases.rows, lease.channelID = channelID ∧ lease.owner = owner

/-- Every lease is on one of the slots of its channel, and every entitled owner
has one. -/
structure InSlots (limits : Int → Int) (shared : Leases) : Prop where
  slots : ∀ lease ∈ shared.leases.rows, (lease.slot : Int) < limits lease.channelID
  entitled : ∀ channelID owner, shared.Entitled channelID owner → shared.HasSlot channelID owner

section

variable {limits : Int → Int} {shared : Leases} {channelID : Int} (inSlots : shared.InSlots limits)
  (limited : 1 ≤ limits channelID)
include inSlots limited

theorem length_channel_le :
    ((shared.leases.rows.filter fun lease =>
      lease.channelID = channelID).length : Int) ≤ limits channelID := by
  have places : ((shared.leases.rows.filter fun lease =>
      lease.channelID = channelID).map place).Nodup :=
    (List.filter_sublist.map place).nodup shared.places
  have distinct : ((shared.leases.rows.filter fun lease =>
      lease.channelID = channelID).map slot).Nodup := by
    rw [List.Nodup, List.pairwise_map] at places ⊢
    refine places.imp_of_mem ?_
    intro first second firstListed secondListed apart same
    apply apart
    have firstChannel := (List.mem_filter.mp firstListed).2
    have secondChannel := (List.mem_filter.mp secondListed).2
    rw [decide_eq_true_eq] at firstChannel secondChannel
    rw [place, place, firstChannel, secondChannel, same]
  have inRange : (shared.leases.rows.filter fun lease =>
      lease.channelID = channelID).map slot ⊆
        List.range (limits channelID).toNat := by
    intro slot listed
    obtain ⟨lease, filtered, rfl⟩ := List.mem_map.mp listed
    obtain ⟨member, ofChannel⟩ := List.mem_filter.mp filtered
    have bound := inSlots.slots lease member
    rw [of_decide_eq_true ofChannel] at bound
    rw [List.mem_range]
    omega
  have bounded := (List.subperm_of_subset distinct inRange).length_le
  rw [List.length_map, List.length_range] at bounded
  omega

theorem length_entitled_le {owners : List String} (distinct : owners.Nodup)
    (entitled : ∀ owner ∈ owners, shared.Entitled channelID owner) :
    (owners.length : Int) ≤ limits channelID := by
  have listed : owners ⊆ (shared.leases.rows.filter fun lease =>
      lease.channelID = channelID).map owner := by
    intro owner member
    obtain ⟨lease, leaseMember, ofChannel, ofOwner⟩ :=
      inSlots.entitled channelID owner (entitled owner member)
    refine List.mem_map.mpr ⟨lease, List.mem_filter.mpr ⟨leaseMember, ?_⟩, ofOwner⟩
    exact decide_eq_true ofChannel
  have fewer := (List.subperm_of_subset distinct listed).length_le
  rw [List.length_map] at fewer
  have limit := length_channel_le inSlots limited
  omega

end

def OnSlot (limits : Int → Int) : Op → Prop
  | .create lease => (lease.slot : Int) < limits lease.channelID
  | _ => True

/-- A cleanup deletes no row of an owner that is entitled. -/
def Spares (op : Op) (shared : Leases) : Prop :=
  match op with
  | .deleteIDs ids => ∀ lease ∈ shared.leases.rows,
      ids.contains lease.id = true → ¬ shared.Entitled lease.channelID lease.owner
  | _ => True

instance decidableSpares (op : Op) (shared : Leases) :
    Decidable (Spares op shared) :=
  match op with
  | .deleteIDs _ => inferInstanceAs (Decidable (∀ lease ∈ _, _ → ¬ _))
  | .now => isTrue trivial
  | .loadCleanup .. => isTrue trivial
  | .storeCleanup .. => isTrue trivial
  | .create _ => isTrue trivial
  | .renew .. => isTrue trivial
  | .deleteOwner _ => isTrue trivial
  | .pluckExpired .. => isTrue trivial

variable {limits : Int → Int} {shared : Leases}

section

variable (inSlots : shared.InSlots limits)
include inSlots

theorem inSlots_create {lease : ImageTaskChannelLease}
    (onSlot : (lease.slot : Int) < limits lease.channelID) :
    (shared.create lease).1.InSlots limits := by
  unfold create
  dsimp only
  split
  · split
    · exact inSlots
    rename_i leases created
    have rows := KeyedTable.rows_create created
    constructor
    · intro other listed
      simp only [rows, List.mem_append, List.mem_singleton] at listed
      rcases listed with old | rfl
      · exact inSlots.slots other old
      · exact onSlot
    · rintro channelID owner ⟨granted, listed, ofChannel, ofOwner, valid⟩
      unfold HasSlot
      simp only [rows, List.mem_append, List.mem_singleton]
      rcases List.mem_cons.mp listed with rfl | old
      · exact ⟨_, Or.inr rfl, ofChannel, ofOwner⟩
      · obtain ⟨other, member, has⟩ := inSlots.entitled channelID owner
          ⟨granted, old, ofChannel, ofOwner, valid⟩
        exact ⟨other, Or.inl member, has⟩
  · exact inSlots

theorem inSlots_renew (owner : String) (now leaseSeconds : Int) :
    (shared.renew owner now leaseSeconds).1.InSlots limits := by
  have kept : ∀ lease ∈ shared.leases.rows, ∃ later ∈
      (shared.renew owner now leaseSeconds).1.leases.rows,
        later.channelID = lease.channelID ∧ later.owner = lease.owner := by
    intro lease member
    refine ⟨_, List.mem_map_of_mem member, ?_⟩
    split
    · exact ⟨rfl, rfl⟩
    · exact ⟨rfl, rfl⟩
  constructor
  · intro later listed
    obtain ⟨lease, member, rfl⟩ := List.mem_map.mp listed
    have bound := inSlots.slots lease member
    split
    · exact bound
    · exact bound
  · rintro channelID other ⟨granted, listed, ofChannel, ofOwner, valid⟩
    have row : shared.HasSlot channelID other := by
      rcases List.mem_append.mp listed with new | old
      · obtain ⟨lease, filtered, rfl⟩ := List.mem_map.mp new
        exact ⟨lease, (List.mem_filter.mp filtered).1, ofChannel, ofOwner⟩
      · exact inSlots.entitled channelID other ⟨granted, old, ofChannel, ofOwner, valid⟩
    obtain ⟨lease, member, leaseChannel, leaseOwner⟩ := row
    obtain ⟨later, laterMember, sameChannel, sameOwner⟩ := kept lease member
    exact ⟨later, laterMember, sameChannel.trans leaseChannel, sameOwner.trans leaseOwner⟩

theorem inSlots_deleteOwner (owner : String) :
    (shared.deleteOwner owner).InSlots limits := by
  constructor
  · intro lease listed
    exact inSlots.slots lease (List.mem_filter.mp listed).1
  · rintro channelID other ⟨granted, listed, ofChannel, ofOwner, valid⟩
    obtain ⟨old, different⟩ := List.mem_filter.mp listed
    obtain ⟨lease, member, leaseChannel, leaseOwner⟩ :=
      inSlots.entitled channelID other ⟨granted, old, ofChannel, ofOwner, valid⟩
    refine ⟨lease, List.mem_filter.mpr ⟨member, ?_⟩, leaseChannel, leaseOwner⟩
    rw [ofOwner] at different
    simpa [leaseOwner] using different

theorem inSlots_deleteIDs {ids : List Int} (spares : Spares (.deleteIDs ids) shared) :
    (shared.deleteWhere fun lease => ids.contains lease.id).InSlots limits := by
  constructor
  · intro lease listed
    exact inSlots.slots lease (List.mem_filter.mp listed).1
  · intro channelID owner entitled
    obtain ⟨lease, member, rfl, rfl⟩ := inSlots.entitled channelID owner entitled
    refine ⟨lease, List.mem_filter.mpr ⟨member, ?_⟩, rfl, rfl⟩
    have kept : ¬ ids.contains lease.id = true := fun deleted =>
      spares lease member deleted entitled
    simpa using kept

end

theorem inSlots_perform (op : Op) (shared : Leases) (onSlot : OnSlot limits op)
    (spares : Spares op shared) (inSlots : shared.InSlots limits) :
    (shared.perform op).1.InSlots limits := by
  cases op with
  | create lease => exact inSlots_create inSlots onSlot
  | renew owner now leaseSeconds => exact inSlots_renew inSlots owner now leaseSeconds
  | deleteOwner owner => exact inSlots_deleteOwner inSlots owner
  | deleteIDs ids => exact inSlots_deleteIDs inSlots spares
  | storeCleanup process channelID now => exact ⟨inSlots.slots, inSlots.entitled⟩
  | now | loadCleanup process channelID | pluckExpired channelID now limit => exact inSlots

theorem inSlots_elapse (event : Event) (shared : Leases)
    (inSlots : shared.InSlots limits) : (event.run shared).InSlots limits := by
  cases event with
  | elapse seconds =>
    refine ⟨inSlots.slots, ?_⟩
    rintro channelID owner ⟨granted, listed, ofChannel, ofOwner, valid⟩
    have earlier : shared.clock < granted.validUntil := by
      simp only [Event.run] at valid
      omega
    exact inSlots.entitled channelID owner ⟨granted, listed, ofChannel, ofOwner, earlier⟩

end Leases

section Programs

variable {limits : Int → Int}

open Leases

theorem onSlot_nowOrTime (now : Int) : (nowOrTime now).Every (OnSlot limits) := by
  unfold nowOrTime
  split
  · exact ⟨trivial, fun _ => trivial⟩
  · trivial

theorem onSlot_cleanup (channelID now limit : Int) :
    (cleanupExpiredImageTaskChannelLeases channelID now limit).Every (OnSlot limits) := by
  apply Program.every_bind (onSlot_nowOrTime now)
  intro now
  refine ⟨trivial, fun ids => ?_⟩
  change Program.Every _ (ite _ _ _)
  split
  · trivial
  · exact ⟨trivial, fun _ => trivial⟩

theorem onSlot_cleanupForAcquire (process : Nat) (channelID now limit : Int) :
    (cleanupExpiredImageTaskChannelLeasesForAcquire process channelID now
      limit).Every (OnSlot limits) := by
  unfold cleanupExpiredImageTaskChannelLeasesForAcquire
  split
  · exact onSlot_cleanup 0 now limit
  apply Program.every_bind (onSlot_nowOrTime now)
  intro now
  refine ⟨trivial, fun last => ?_⟩
  change Program.Every _ (ite _ _ _)
  split
  · trivial
  · exact ⟨trivial, fun _ => onSlot_cleanup channelID now limit⟩

theorem onSlot_insertFrom {lease : Nat → ImageTaskChannelLease} {slots : List Nat}
    (onSlot : ∀ slot ∈ slots, OnSlot limits (.create (lease slot))) :
    (insertFrom lease slots).Every (OnSlot limits) := by
  induction slots with
  | nil => trivial
  | cons slot rest ih =>
    refine ⟨onSlot slot List.mem_cons_self, fun created => ?_⟩
    change Program.Every _ (ite _ _ _)
    split
    · trivial
    · exact ih fun other listed => onSlot other (List.mem_cons_of_mem _ listed)

theorem onSlot_insert (channelID taskPrimaryID : Int) (owner : String) (now leaseSeconds : Int) :
    (insertImageTaskChannelLease channelID taskPrimaryID owner now leaseSeconds
      (limits channelID)).Every (OnSlot limits) := by
  apply onSlot_insertFrom
  intro slot listed
  have bound := List.mem_range.mp listed
  simp only [OnSlot, acquiredLease]
  omega

theorem onSlot_tryAcquire (process : Nat) (channelID taskPrimaryID : Int)
    (owner : String) (now leaseSeconds : Int) :
    (tryAcquireImageTaskChannelLease process channelID taskPrimaryID owner now
      leaseSeconds (limits channelID)).Every (OnSlot limits) := by
  unfold tryAcquireImageTaskChannelLease
  split
  · trivial
  split
  · trivial
  apply Program.every_bind (onSlot_cleanupForAcquire process channelID now _)
  intro _
  apply Program.every_bind (onSlot_insert channelID taskPrimaryID owner now _)
  intro acquired
  split
  · trivial
  apply Program.every_bind (onSlot_cleanup channelID now _)
  intro _
  exact ⟨trivial, fun _ => onSlot_insert channelID taskPrimaryID owner now _⟩

theorem onSlot_code (call : Call) : (call.code limits).Every (OnSlot limits) := by
  cases call with
  | tryAcquire process channelID taskPrimaryID owner now leaseSeconds =>
    exact onSlot_tryAcquire process channelID taskPrimaryID owner now _
  | renew owner now leaseSeconds =>
    change (renewImageTaskChannelLease owner now leaseSeconds).Every _
    unfold renewImageTaskChannelLease
    split
    · trivial
    · exact ⟨trivial, fun _ => trivial⟩
  | release owner =>
    apply Program.every_bind
    · unfold releaseImageTaskChannelLease
      split
      · trivial
      · exact ⟨trivial, fun _ => trivial⟩
    · exact fun _ => trivial
  | cleanup now limit => exact Program.every_bind (onSlot_cleanup 0 now limit) fun _ => trivial

end Programs

def SparesEntitled (limits : Int → Int) (clock : Int) (actions : List (Action Call Event)) : Prop :=
  GuardedRun (machine limits).act (OnStep Leases.Spares) (startConfig clock) actions

instance (limits : Int → Int) (clock : Int)
    (actions : List (Action Call Event)) :
    Decidable (SparesEntitled limits clock actions) :=
  inferInstanceAs (Decidable (GuardedRun _ _ _ _))

theorem inSlots_run {limits : Int → Int} {clock : Int}
    {actions : List (Action Call Event)} (spares : SparesEntitled limits clock actions) :
    (runFrom limits clock actions).shared.InSlots limits := by
  apply shared_run onSlot_code Leases.inSlots_perform Leases.inSlots_elapse _ _ spares
  · rintro thread ⟨⟩
  · constructor
    · rintro lease ⟨⟩
    · rintro channelID owner ⟨granted, ⟨⟩, _⟩

/-- A channel is not oversold by a run whose cleanups spare the rows of the
entitled owners. -/
theorem channel_not_oversold {limits : Int → Int} {clock : Int} {actions : List (Action Call Event)}
    (spares : SparesEntitled limits clock actions) {channelID : Int}
    (limited : 1 ≤ limits channelID) {owners : List String} (distinct : owners.Nodup)
    (entitled : ∀ owner ∈ owners, (runFrom limits clock actions).shared.Entitled channelID owner) :
    (owners.length : Int) ≤ limits channelID :=
  Leases.length_entitled_le (inSlots_run spares) limited distinct entitled

def steps (number count : Nat) : List (Action Call Event) := List.replicate count (.step number)

def oneSlot : Int → Int := fun _ => 1

def takenRun : List (Action Call Event) := .start (.tryAcquire 0 1 1 "first" 100 60) :: steps 0 4

def takenAgainRun : List (Action Call Event) :=
  takenRun ++ [.outside (.elapse 60)] ++ .start (.tryAcquire 0 1 2 "second" 160 60) :: steps 1 5

theorem taken_again_not_oversold : (runFrom oneSlot 100 takenAgainRun).shared.Entitled 1 "second" ∧
      ((["second"].length : Nat) : Int) ≤ oneSlot 1 := by
  have entitled : (runFrom oneSlot 100 takenAgainRun).shared.Entitled 1 "second" := by decide
  refine ⟨entitled, ?_⟩
  apply @channel_not_oversold oneSlot 100 takenAgainRun (by decide) 1
    (by decide) ["second"] (by decide)
  intro owner listed
  rw [List.mem_singleton.mp listed]
  exact entitled

/-- The first worker renews with a time that it has read in the last second of
its lease, between the two statements of the cleanup. -/
def oversoldRun : List (Action Call Event) :=
  takenRun ++ [.outside (.elapse 59), .start (.renew "first" 159 60),
    .outside (.elapse 1), .start (.tryAcquire 0 1 2 "second" 160 60)] ++
      steps 2 3 ++ steps 1 1 ++ steps 2 2

/-- The argument `now` has been read from the clock. -/
def ReadsClock (config : Config Answer Call Leases Bool) :
    Action Call Event → Prop
  | .start call => ∀ now ∈ call.now, now ≤ config.shared.clock
  | .step _ => True
  | .outside _ => True

instance (config : Config Answer Call Leases Bool) :
    (action : Action Call Event) → Decidable (ReadsClock config action)
  | .start _ => inferInstanceAs (Decidable (∀ now ∈ _, _))
  | .step _ => isTrue trivial
  | .outside _ => isTrue trivial

/-- Two workers are entitled to one slot. -/
theorem renewed_slot_is_oversold :
    ¬ ∀ (limits : Int → Int) (clock : Int) (actions : List (Action Call Event))
        (channelID : Int) (owners : List String),
      GuardedRun (machine limits).act ReadsClock (startConfig clock) actions →
        1 ≤ limits channelID → owners.Nodup →
          (∀ owner ∈ owners, (runFrom limits clock actions).shared.Entitled channelID owner) →
            (owners.length : Int) ≤ limits channelID := by
  intro claim
  have two := claim oneSlot 100 oversoldRun 1 ["first", "second"] (by decide)
    (by decide) (by decide) (by decide)
  revert two
  decide

end NewApi.ImageTasks
