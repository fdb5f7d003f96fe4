import Mathlib.Data.String.Basic
import NewApi.Billing.SettlementCalls
import NewApi.Lib.BatchQueue
import NewApi.Lib.Listing

/-!
# Recovery of unfinished settlements

A recovery pass copies the first entries of the spool into the ledger and
applies the first pending rows.  An entry that fails stays where it is, so an
entry is reached only if fewer than a batch of failing ones stand ahead of it.
-/

namespace NewApi.Billing

open Transactions BatchQueue

/-- An entry of a spool directory; `body` is the request its content decodes
to. -/
structure SpoolFile where
  name : String
  isDir : Bool := false
  body : Option BillingAdjustmentRequest

/-- What a recovery pass works on: the tables, `billingAdjustmentMemory`, the
spool directory and its fallback in the temp directory.  A directory that is
not configured or does not exist is an empty one. -/
structure RecoveryNode where
  db : Database
  memory : KeyedTable BillingAdjustmentRequest.idempotencyKey
  primary : KeyedTable SpoolFile.name
  fallback : KeyedTable SpoolFile.name

def batchLimit (limit : Int) : Nat := if limit ≤ 0 then 100 else limit.toNat

def SpoolFile.isRequest (file : SpoolFile) : Bool :=
  !file.isDir && decide (".json".toList <:+ file.name.toList)

section Stores

variable {ρ : Type} {key : ρ → String}

def recoverEntry (request : ρ → Option BillingAdjustmentRequest) (now : Int)
    (state : Database × KeyedTable key) (entry : ρ) :
    Database × KeyedTable key :=
  match request entry with
  | none => state
  | some req =>
    match ensurePendingBillingAdjustment state.1 now req with
    | .ok db => (db, state.2.delete (key entry))
    | .error _ => state

def recoverStore (keep : ρ → Bool) (request : ρ → Option BillingAdjustmentRequest)
    (now : Int) (limit : Nat) (state : Database × KeyedTable key) :
    Nat × Database × KeyedTable key :=
  let batch := (state.2.listing keep).take limit
  (batch.length, execute (recoverEntry request now) state batch)

end Stores

def recoverMemoryBillingAdjustments (now : Int) (limit : Nat)
    (state : Database × KeyedTable BillingAdjustmentRequest.idempotencyKey) :
    Nat × Database × KeyedTable BillingAdjustmentRequest.idempotencyKey :=
  recoverStore (fun _ => true) some now limit state

def recoverBillingAdjustmentSpoolDirectory (now : Int) (limit : Nat)
    (state : Database × KeyedTable SpoolFile.name) :
    Nat × Database × KeyedTable SpoolFile.name :=
  recoverStore SpoolFile.isRequest SpoolFile.body now limit state

namespace RecoveryNode

def recoverUnpersistedBillingAdjustments (node : RecoveryNode) (now limit : Int) : RecoveryNode :=
  let limit := batchLimit limit
  let (recovered, db, memory) := recoverMemoryBillingAdjustments now limit (node.db, node.memory)
  if limit ≤ recovered then
    { node with db := db, memory := memory }
  else
    let (count, db, primary) :=
      recoverBillingAdjustmentSpoolDirectory now (limit - recovered) (db, node.primary)
    let recovered := recovered + count
    if limit ≤ recovered then
      { node with db := db, memory := memory, primary := primary }
    else
      let (_, db, fallback) :=
        recoverBillingAdjustmentSpoolDirectory now (limit - recovered) (db, node.fallback)
      ⟨db, memory, primary, fallback⟩

end RecoveryNode

def billingAdjustmentRequestFromRow (row : BillingAdjustment) : BillingAdjustmentRequest where
  idempotencyKey := row.idempotencyKey
  requestID := row.requestID
  userID := row.userID
  tokenID := row.tokenID
  source := row.source
  subscriptionID := row.subscriptionID
  fundingDelta := row.fundingDelta
  tokenDelta := row.tokenDelta
  chargeQuota := row.chargeQuota
  reservationQuota := row.reservationQuota
  extraReserved := row.extraReserved
  tokenIncluded := row.tokenIncluded

def applyPendingRow (now : Int) (db : Database) (row : BillingAdjustment) : Database :=
  commit db ((applyBillingAdjustment db now (billingAdjustmentRequestFromRow row)).map Prod.snd)

def Database.pendingRows (db : Database) : List BillingAdjustment :=
  db.billingAdjustments.rows.filter (fun row => row.status = .pending)

def recoverPendingBillingAdjustments (db : Database) (now limit : Int) : Database :=
  execute (applyPendingRow now) db (db.pendingRows.take (batchLimit limit))

/-- One recovery pass of a node; the source calls every step with a limit of
100. -/
def RecoveryNode.recoverNodeLocalBillingAdjustments
    (node : RecoveryNode) (now limit : Int) : RecoveryNode :=
  let node := node.recoverUnpersistedBillingAdjustments now limit
  let db := recoverPendingBillingAdjustments node.db now limit
  let db := recoverExpiredWalletPreConsumes db now limit
  let db := recoverExpiredSubscriptionPreConsumes db now limit
  { node with db := db }

def RecoveryNode.afterPasses (node : RecoveryNode) (limit : Int) (clock : Nat → Int) :
    Nat → RecoveryNode
  | 0 => node
  | n + 1 =>
    (node.afterPasses limit clock n).recoverNodeLocalBillingAdjustments (clock n) limit

inductive SpoolLocation where
  | memory
  | primary
  | fallback
  deriving DecidableEq, Repr

structure SpoolEntry where
  location : SpoolLocation
  name : String
  body : Option BillingAdjustmentRequest

def storeQueue {ρ : Type} {key : ρ → String} (location : SpoolLocation)
    (keep : ρ → Bool) (request : ρ → Option BillingAdjustmentRequest)
    (table : KeyedTable key) : List SpoolEntry :=
  (table.listing keep).map (fun row => ⟨location, key row, request row⟩)

def RecoveryNode.waiting (node : RecoveryNode) : List SpoolEntry :=
  storeQueue .memory (fun _ => true) some node.memory ++
    (storeQueue .primary SpoolFile.isRequest SpoolFile.body node.primary ++
      storeQueue .fallback SpoolFile.isRequest SpoolFile.body node.fallback)

def SpoolEntry.fails (entry : SpoolEntry) (now : Int) (db : Database) : Bool :=
  match entry.body with
  | none => true
  | some req => !(ensurePendingBillingAdjustment db now req).isOk

def ensureEntry (now : Int) (db : Database) (entry : SpoolEntry) : Database :=
  match entry.body with
  | none => db
  | some req => commit db (ensurePendingBillingAdjustment db now req)

def applyFails (now : Int) (db : Database) (row : BillingAdjustment) : Bool :=
  !(applyBillingAdjustment db now (billingAdjustmentRequestFromRow row)).isOk

/-- The calls of one pass fail exactly for the refused entries and the stuck
rows. -/
structure RecoveryNode.SteadyPass (node : RecoveryNode) (now limit : Int)
    (refused : SpoolEntry → Bool) (stuck : String → Bool) : Prop where
  spool :
    GuardedRun (ensureEntry now)
      (fun db entry => entry.fails now db = refused entry) node.db
      (node.waiting.take (batchLimit limit))
  ledger :
    GuardedRun (applyPendingRow now)
      (fun db row => applyFails now db row = stuck row.idempotencyKey)
      (node.recoverUnpersistedBillingAdjustments now limit).db
      ((node.recoverUnpersistedBillingAdjustments now limit).db.pendingRows.take (batchLimit limit))

def RecoveryNode.Steady (node : RecoveryNode) (limit : Int) (clock : Nat → Int)
    (refused : SpoolEntry → Bool) (stuck : String → Bool) : Prop :=
  ∀ n, (node.afterPasses limit clock n).SteadyPass (clock n) limit refused stuck

/-- Every other spooled request has a ledger row, and every other ledger row is
applied. -/
structure RecoveryNode.Recovered (node later : RecoveryNode)
    (refused : SpoolEntry → Bool) (stuck : String → Bool) : Prop where
  spool :
    ∀ entry ∈ node.waiting, refused entry = false →
      ∀ req, entry.body = some req → ∃ row, req.rowIn later.db = some row
  ledger : ∀ row ∈ later.db.pendingRows, stuck row.idempotencyKey = true

def addedKeys : List String → List String → List String
  | _, [] => []
  | known, key :: rest =>
    if key ∈ known then addedKeys known rest
    else key :: addedKeys (known ++ [key]) rest

def requestKeys (entries : List SpoolEntry) : List String :=
  entries.filterMap (fun entry => entry.body.map BillingAdjustmentRequest.idempotencyKey)

def Database.ledgerKeys (db : Database) : List String :=
  db.billingAdjustments.rows.map BillingAdjustment.idempotencyKey

def Database.pendingKeys (db : Database) : List String :=
  db.pendingRows.map BillingAdjustment.idempotencyKey

def RecoveryNode.addedBySpool (node : RecoveryNode) (limit : Int) (refused : SpoolEntry → Bool) :
    List String :=
  addedKeys node.db.ledgerKeys (requestKeys (served refused (batchLimit limit) node.waiting))

def RecoveryNode.arrivals (node : RecoveryNode) (limit : Int) (refused : SpoolEntry → Bool) :
    List String :=
  node.db.pendingKeys ++ node.addedBySpool limit refused

/-- No entry that could succeed has a batch of failing entries ahead of it. -/
structure RecoveryNode.Unblocked (node : RecoveryNode) (limit : Int)
    (refused : SpoolEntry → Bool) (stuck : String → Bool) : Prop where
  spool :
    ∀ entry ∈ node.waiting, refused entry = false →
      ∀ req, entry.body = some req →
        (∃ row, req.rowIn node.db = some row) ∨
          ∃ other twin,
            Reached refused (batchLimit limit) node.waiting other ∧
              other.body = some twin ∧
              twin.idempotencyKey = req.idempotencyKey
  ledger :
    ∀ key ∈ node.arrivals limit refused, stuck key = false →
      Reached stuck (batchLimit limit) (node.arrivals limit refused) key

section Keys

variable {known keys : List String}

theorem addedKeys_append (second : List String) : addedKeys known (keys ++ second) =
      addedKeys known keys ++ addedKeys (known ++ addedKeys known keys) second := by
  induction keys generalizing known with
  | nil => simp [addedKeys]
  | cons key rest ih =>
    simp only [List.cons_append, addedKeys]
    split
    · exact ih
    · rw [ih, List.cons_append, List.append_assoc, List.singleton_append]

theorem mem_addedKeys_iff {key : String} :
    key ∈ addedKeys known keys ↔ key ∈ keys ∧ key ∉ known := by
  induction keys generalizing known with
  | nil => simp [addedKeys]
  | cons head rest ih =>
    rw [addedKeys]
    by_cases present : head ∈ known
    · rw [if_pos present, ih, List.mem_cons]
      constructor
      · rintro ⟨later, fresh⟩
        exact ⟨Or.inr later, fresh⟩
      · rintro ⟨rfl | later, fresh⟩
        · exact absurd present fresh
        · exact ⟨later, fresh⟩
    · rw [if_neg present, List.mem_cons, ih, List.mem_cons, List.mem_append, List.mem_singleton]
      by_cases same : key = head
      · simp [same, present]
      · simp [same]

theorem nodup_append_addedKeys (distinct : known.Nodup) :
    (known ++ addedKeys known keys).Nodup := by
  induction keys generalizing known with
  | nil => simpa [addedKeys] using distinct
  | cons head rest ih =>
    rw [addedKeys]
    split
    · exact ih distinct
    rename_i fresh
    have extended : (known ++ [head]).Nodup :=
      List.nodup_append.mpr
        ⟨distinct, List.nodup_singleton head, by
          intro left leftMember right rightMember equal
          rw [List.mem_singleton] at rightMember
          rw [equal, rightMember] at leftMember
          exact fresh leftMember⟩
    have final := ih extended
    rwa [List.append_assoc, List.singleton_append] at final

theorem addedKeys_eq_nil (present : ∀ key ∈ keys, key ∈ known) : addedKeys known keys = [] := by
  rw [List.eq_nil_iff_forall_not_mem]
  intro key member
  obtain ⟨listed, fresh⟩ := mem_addedKeys_iff.mp member
  exact fresh (present key listed)

theorem requestKeys_append (first second : List SpoolEntry) :
    requestKeys (first ++ second) = requestKeys first ++ requestKeys second :=
  List.filterMap_append

theorem mem_requestKeys_iff {entries : List SpoolEntry} {key : String} : key ∈ requestKeys entries ↔
      ∃ entry ∈ entries, ∃ req, entry.body = some req ∧ req.idempotencyKey = key := by
  simp [requestKeys, List.mem_filterMap, Option.map_eq_some_iff]

end Keys

end NewApi.Billing
