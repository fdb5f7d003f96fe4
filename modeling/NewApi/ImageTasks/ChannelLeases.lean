import NewApi.Lib.BulkStatements
import NewApi.Lib.OperationInvariants

/-!
# Leases of the slots of a channel

The table `image_task_channel_leases`.  A worker runs an image task on a channel
while it owns one of the slots of the channel.  The unique indexes refuse a
slot and an owner that are taken; expired leases are removed by cleanups.  Each
statement is one operation.
-/

namespace NewApi.ImageTasks

open Interleaving

/-! ## The table -/

structure ImageTaskChannelLease where
  id : Int
  channelID : Int
  slot : Nat
  taskPrimaryID : Int
  owner : String
  expiresAt : Int
deriving DecidableEq

/-- What the index `idx_image_task_channel_slot` is on. -/
def ImageTaskChannelLease.place (lease : ImageTaskChannelLease) : Int × Nat :=
  (lease.channelID, lease.slot)

theorem map_place_update {rows : List ImageTaskChannelLease} {test : ImageTaskChannelLease → Bool}
    {change : ImageTaskChannelLease → ImageTaskChannelLease}
    (same : ∀ lease, (change lease).place = lease.place) :
    (rows.map fun lease => if test lease then change lease else lease).map
        ImageTaskChannelLease.place =
      rows.map ImageTaskChannelLease.place := by
  rw [List.map_map]
  apply List.map_congr_left
  intro lease _
  simp only [Function.comp_apply]
  split
  · exact same lease
  · rfl

structure Entitlement where
  channelID : Int
  owner : String
  validUntil : Int
deriving DecidableEq

structure Leases where
  clock : Int
  leases : KeyedTable ImageTaskChannelLease.owner := KeyedTable.empty
  places : (leases.rows.map ImageTaskChannelLease.place).Nodup
  nextID : Int := 1
  /-- `imageTaskChannelLeaseCleanupUnix` of each process -/
  cleanupUnix : Nat → Int → Option Int := fun _ _ => none
  /-- History: what has been granted and not released.  No step reads it. -/
  entitlements : List Entitlement := []

namespace Leases

def create (shared : Leases) (lease : ImageTaskChannelLease) : Leases × Bool :=
  let row := { lease with id := shared.nextID }
  if free : row.place ∉ shared.leases.rows.map ImageTaskChannelLease.place then
    match created : shared.leases.create row with
    | none => (shared, false)
    | some leases =>
      ({ shared with
          leases
          places := by
            rw [KeyedTable.rows_create created, List.map_append,
              List.map_singleton, ← List.concat_eq_append]
            exact shared.places.concat free
          nextID := shared.nextID + 1
          entitlements := ⟨row.channelID, row.owner, row.expiresAt⟩ :: shared.entitlements },
        true)
  else (shared, false)

def renewable (owner : String) (now : Int) (lease : ImageTaskChannelLease) :
    Bool :=
  lease.owner = owner ∧ now < lease.expiresAt

def renew (shared : Leases) (owner : String) (now leaseSeconds : Int) :
    Leases × Nat :=
  let renewed := shared.leases.rows.filter (renewable owner now)
  ({ shared with
      leases := shared.leases.update (renewable owner now)
        (fun lease => { lease with expiresAt := now + leaseSeconds })
        fun _ => rfl
      places := by
        refine (congrArg List.Nodup (map_place_update ?_)).mpr shared.places
        exact fun _ => rfl
      entitlements :=
        renewed.map (fun lease =>
          ⟨lease.channelID, lease.owner, now + leaseSeconds⟩) ++ shared.entitlements },
    renewed.length)

def deleteWhere (shared : Leases) (test : ImageTaskChannelLease → Bool) :
    Leases :=
  { shared with
    leases := shared.leases.deleteWhere test
    places := (List.filter_sublist.map _).nodup shared.places }

def deleteOwner (shared : Leases) (owner : String) : Leases :=
  { shared.deleteWhere (fun lease => lease.owner = owner) with
    entitlements := shared.entitlements.filter fun granted => granted.owner ≠ owner }

/-- The ids that a cleanup selects, of all channels for `channelID` 0.  The
rows are in the order of their ids. -/
def pluckExpired (shared : Leases) (channelID now limit : Int) : List Int :=
  ((shared.leases.rows.filter fun lease =>
      lease.expiresAt ≤ now ∧ (0 < channelID → lease.channelID = channelID)).map
    ImageTaskChannelLease.id).take limit.toNat

def storeCleanup (shared : Leases) (process : Nat) (channelID now : Int) :
    Leases :=
  { shared with
    cleanupUnix := fun other channel =>
      if other = process ∧ channel = channelID then some now
      else shared.cleanupUnix other channel }

end Leases

/-- The statements, and what a process reads and remembers. -/
inductive Op where
  /-- `time.Now().Unix()` -/
  | now
  | loadCleanup (process : Nat) (channelID : Int)
  | storeCleanup (process : Nat) (channelID now : Int)
  /-- `DB.Create` -/
  | create (lease : ImageTaskChannelLease)
  /-- The update of `RenewImageTaskChannelLease` -/
  | renew (owner : String) (now leaseSeconds : Int)
  /-- The deletion of `ReleaseImageTaskChannelLease` -/
  | deleteOwner (owner : String)
  /-- The query of `cleanupExpiredImageTaskChannelLeases` -/
  | pluckExpired (channelID now limit : Int)
  /-- The deletion of `cleanupExpiredImageTaskChannelLeases` -/
  | deleteIDs (ids : List Int)
deriving DecidableEq

@[reducible]
def Answer : Op → Type
  | .now => Int
  | .loadCleanup .. => Option Int
  | .storeCleanup .. => Unit
  | .create _ => Bool
  | .renew .. => Nat
  | .deleteOwner _ => Unit
  | .pluckExpired .. => List Int
  | .deleteIDs _ => Unit

def Leases.perform : (op : Op) → Leases → Leases × Answer op
  | .now, shared => (shared, shared.clock)
  | .loadCleanup process channelID, shared => (shared, shared.cleanupUnix process channelID)
  | .storeCleanup process channelID now, shared => (shared.storeCleanup process channelID now, ())
  | .create lease, shared => shared.create lease
  | .renew owner now leaseSeconds, shared => shared.renew owner now leaseSeconds
  | .deleteOwner owner, shared => (shared.deleteOwner owner, ())
  | .pluckExpired channelID now limit, shared => (shared, shared.pluckExpired channelID now limit)
  | .deleteIDs ids, shared => (shared.deleteWhere fun lease => ids.contains lease.id, ())

abbrev Code (α : Type) := Program Answer α

abbrev run (op : Op) : Code (Answer op) := Program.perform op

def imageTaskChannelLeaseCleanupThrottleSeconds : Int := 5

def nowOrTime (now : Int) : Code Int := if now ≤ 0 then run .now else pure now

def cleanupExpiredImageTaskChannelLeases (channelID now limit : Int) :
    Code Unit := do
  let now ← nowOrTime now
  let limit := if limit ≤ 0 then 1000 else limit
  let ids ← run (.pluckExpired channelID now limit)
  if ids.isEmpty then pure () else run (.deleteIDs ids)

def cleanupExpiredImageTaskChannelLeasesForAcquire
    (process : Nat) (channelID now limit : Int) : Code Unit :=
  if channelID ≤ 0 then cleanupExpiredImageTaskChannelLeases 0 now limit
  else do
    let now ← nowOrTime now
    let last ← run (.loadCleanup process channelID)
    if last.any fun last =>
        now - last < imageTaskChannelLeaseCleanupThrottleSeconds then
      pure ()
    else do
      run (.storeCleanup process channelID now)
      cleanupExpiredImageTaskChannelLeases channelID now limit

def insertFrom (lease : Nat → ImageTaskChannelLease) : List Nat → Code Bool
  | [] => pure false
  | slot :: slots => do
      let created ← run (.create (lease slot))
      if created then pure true else insertFrom lease slots

/-- The row that an acquisition inserts; the table assigns its id. -/
def acquiredLease (channelID taskPrimaryID : Int) (owner : String)
    (expiresAt : Int) (slot : Nat) : ImageTaskChannelLease where
  id := 0
  channelID := channelID
  slot := slot
  taskPrimaryID := taskPrimaryID
  owner := owner
  expiresAt := expiresAt

def insertImageTaskChannelLease (channelID taskPrimaryID : Int) (owner : String)
    (now leaseSeconds limit : Int) : Code Bool :=
  insertFrom (acquiredLease channelID taskPrimaryID owner (now + leaseSeconds))
    (List.range limit.toNat)

/-- An unlimited channel has no slots, so that nothing is inserted for it. -/
def tryAcquireImageTaskChannelLease (process : Nat) (channelID taskPrimaryID : Int) (owner : String)
    (now leaseSeconds limit : Int) : Code Bool :=
  if channelID ≤ 0 ∨ taskPrimaryID ≤ 0 ∨ owner = "" ∨ leaseSeconds ≤ 0 then pure false
  else if limit ≤ 0 then pure true
  else do
    cleanupExpiredImageTaskChannelLeasesForAcquire process channelID now (limit * 2)
    let acquired ← insertImageTaskChannelLease channelID taskPrimaryID owner now leaseSeconds limit
    if acquired then pure true
    else do
      -- The first cleanup may have been skipped; the slots of expired leases are
      -- free only when their rows are gone.
      cleanupExpiredImageTaskChannelLeases channelID now (limit * 2)
      run (.storeCleanup process channelID now)
      insertImageTaskChannelLease channelID taskPrimaryID owner now leaseSeconds limit

def renewImageTaskChannelLease (owner : String) (now leaseSeconds : Int) :
    Code Bool :=
  if owner = "" ∨ leaseSeconds ≤ 0 then pure false
  else do
    let rowsAffected ← run (.renew owner now leaseSeconds)
    pure (decide (0 < rowsAffected))

def releaseImageTaskChannelLease (owner : String) : Code Unit :=
  if owner = "" then pure () else run (.deleteOwner owner)

/-- The calls of the workers.  `now` has been read from the clock before the
call. -/
inductive Call where
  | tryAcquire (process : Nat) (channelID taskPrimaryID : Int) (owner : String)
      (now leaseSeconds : Int)
  | renew (owner : String) (now leaseSeconds : Int)
  | release (owner : String)
  /-- `CleanupExpiredImageTaskChannelLeases` -/
  | cleanup (now limit : Int)
deriving DecidableEq

/-- The argument `now`. -/
def Call.now : Call → Option Int
  | .tryAcquire _ _ _ _ now _ => some now
  | .renew _ now _ => some now
  | .release _ => none
  | .cleanup now _ => some now

/-- The program of a call, and whether it returns `true`. -/
def Call.code (limits : Int → Int) : Call → Code Bool
  | .tryAcquire process channelID taskPrimaryID owner now leaseSeconds =>
    tryAcquireImageTaskChannelLease process channelID taskPrimaryID owner now
      leaseSeconds (limits channelID)
  | .renew owner now leaseSeconds => renewImageTaskChannelLease owner now leaseSeconds
  | .release owner => do
      releaseImageTaskChannelLease owner
      pure false
  | .cleanup now limit => do
      cleanupExpiredImageTaskChannelLeases 0 now limit
      pure false

inductive Event where
  | elapse (seconds : Nat)
deriving DecidableEq

def Event.run : Event → Leases → Leases
  | .elapse seconds, shared => { shared with clock := shared.clock + seconds }

/-- Any number of calls, when a channel has `limits channelID` slots. -/
def machine (limits : Int → Int) : Machine Answer Call Event Leases Bool where
  code := Call.code limits
  perform := Leases.perform
  outside := Event.run

def startConfig (clock : Int) : Config Answer Call Leases Bool where
  shared := { clock, leases := KeyedTable.empty, places := List.nodup_nil }
  threads := []

def runFrom (limits : Int → Int) (clock : Int)
    (actions : List (Action Call Event)) : Config Answer Call Leases Bool :=
  (machine limits).run (startConfig clock) actions

end NewApi.ImageTasks
