import NewApi.Billing.AdjustmentRecovery
import NewApi.Billing.WalletLedger

/-!
# How far the recovery gets

A pass drains both queues of a node.  The entries that the passes ever reach
are known beforehand, so the recovery ends exactly when no entry that could
succeed has a full batch of failing entries ahead of it.
-/

namespace NewApi.Billing

open Transactions BatchQueue RecoveryNode Database BillingAdjustment KeyedTable SpoolEntry SpoolFile

section Copying

variable {db after : Database} {now : Int} {req : BillingAdjustmentRequest}

theorem lookup_isSome_iff_mem_ledgerKeys {key : String} :
    (∃ row, db.billingAdjustments.lookup key = some row) ↔ key ∈ db.ledgerKeys := by
  rw [ledgerKeys]
  constructor
  · rintro ⟨row, found⟩
    obtain ⟨member, rowKey⟩ := lookup_eq_some_iff.mp found
    exact rowKey ▸ List.mem_map_of_mem member
  · intro member
    obtain ⟨row, stored, rowKey⟩ := List.mem_map.mp member
    exact ⟨row, lookup_eq_some_iff.mpr ⟨stored, rowKey⟩⟩

theorem ensurePending_rows (done : ensurePendingBillingAdjustment db now req = .ok after) :
    (req.idempotencyKey ∈ db.ledgerKeys ∧ after = db) ∨
      req.idempotencyKey ∉ db.ledgerKeys ∧
        ∃ row,
          row.idempotencyKey = req.idempotencyKey ∧ row.status = .pending ∧
            after.billingAdjustments.rows = db.billingAdjustments.rows ++ [row] := by
  obtain ⟨_, _, done⟩ := bind_ok_iff.mp done
  obtain ⟨⟨row, mid⟩, locked, done⟩ := bind_ok_iff.mp done
  have same : mid = after := by
    dsimp only at done
    split at done
    · cases done
    split at done
    · cases done
      rfl
    · cases done
      rfl
    · cases done
  subst same
  unfold lockOrCreateBillingAdjustment at locked
  split at locked
  · rename_i stored found
    cases locked
    exact Or.inl ⟨lookup_isSome_iff_mem_ledgerKeys.mp ⟨row, found⟩, rfl⟩
  · rename_i absent
    obtain ⟨created, inserted, locked⟩ := bind_ok_iff.mp locked
    cases locked
    have missing : req.idempotencyKey ∉ db.ledgerKeys := by
      intro member
      obtain ⟨row, found⟩ := lookup_isSome_iff_mem_ledgerKeys.mpr member
      rw [absent] at found
      cases found
    unfold createBillingAdjustment at inserted
    split at inserted
    · cases inserted
    rename_i rows appended
    cases inserted
    exact Or.inr ⟨missing, _, rfl, rfl, rows_create appended⟩

theorem ensureEntry_keys (entry : SpoolEntry) :
    let added := addedKeys db.ledgerKeys (requestKeys (if entry.fails now db then [] else [entry]))
    (ensureEntry now db entry).ledgerKeys = db.ledgerKeys ++ added ∧
      (ensureEntry now db entry).pendingKeys = db.pendingKeys ++ added := by
  intro added
  cases body : entry.body with
  | none =>
    have nothing : added = [] := by simp [added, fails, body, requestKeys, addedKeys]
    simp [ensureEntry, body, nothing]
  | some req =>
    cases done : ensurePendingBillingAdjustment db now req with
    | error err =>
      have nothing : added = [] := by
        simp [added, fails, body, done, requestKeys, addedKeys, Except.isOk, Except.toBool]
      simp [ensureEntry, body, done, nothing]
    | ok after =>
      have copied : added = addedKeys db.ledgerKeys [req.idempotencyKey] := by
        simp [added, fails, body, done, requestKeys, Except.isOk, Except.toBool]
      have final : ensureEntry now db entry = after := by simp [ensureEntry, body, done]
      rw [copied, final]
      rcases ensurePending_rows done with ⟨known, rfl⟩ | ⟨fresh, row, rowKey, pending, rows⟩
      · simp [addedKeys, known]
      · have alone : addedKeys db.ledgerKeys [req.idempotencyKey] = [req.idempotencyKey] := by
          simp [addedKeys, fresh]
        rw [alone]
        simp [ledgerKeys, pendingKeys, pendingRows, rows, rowKey, pending]

theorem ensureRun_keys {refused : SpoolEntry → Bool} :
    ∀ {batch : List SpoolEntry} {db : Database},
      GuardedRun (ensureEntry now) (fun db entry => entry.fails now db = refused entry) db batch →
      let added :=
        addedKeys db.ledgerKeys (requestKeys (batch.filter (fun entry => !refused entry)))
      (execute (ensureEntry now) db batch).ledgerKeys = db.ledgerKeys ++ added ∧
        (execute (ensureEntry now) db batch).pendingKeys = db.pendingKeys ++ added
  | [], db, _ => by
      simp [requestKeys, addedKeys]
  | entry :: rest, db, run => by
      obtain ⟨answer, restRun⟩ := run
      have first := @ensureEntry_keys db now entry
      have later := ensureRun_keys restRun
      rw [answer] at first
      have split : (entry :: rest).filter (fun entry => !refused entry) =
            (if refused entry then [] else [entry]) ++
              rest.filter (fun entry => !refused entry) := by
        cases fails : refused entry <;> simp [fails]
      simp only at first later
      rw [execute_cons, split, requestKeys_append, addedKeys_append,
        later.1, later.2, first.1, first.2]
      exact ⟨List.append_assoc _ _ _, List.append_assoc _ _ _⟩

end Copying

section Applying

variable {db after : Database} {now : Int} {req : BillingAdjustmentRequest}

theorem pendingKeys_save {row : BillingAdjustment} (closed : row.status ≠ .pending) :
    (db.saveBillingAdjustment row).pendingKeys =
      db.pendingKeys.filter (fun key => key ≠ row.idempotencyKey) := by
  rw [pendingKeys, pendingRows, saveBillingAdjustment,
    filter_rows_save _ (by simp [closed]), pendingKeys,
    pendingRows, List.filter_map]
  rfl

theorem keys_of_ledger (ledger : after.billingAdjustments = db.billingAdjustments) :
    after.ledgerKeys = db.ledgerKeys ∧ after.pendingKeys = db.pendingKeys := by
  constructor
  · rw [ledgerKeys, ledger]
    rfl
  · rw [pendingKeys, pendingRows, ledger]
    rfl

theorem ledgerKeys_save (row : BillingAdjustment) :
    (db.saveBillingAdjustment row).ledgerKeys = db.ledgerKeys :=
  map_key_save db.billingAdjustments row

theorem applyBillingAdjustment_keys {outcome : ApplyOutcome}
    (known : req.idempotencyKey ∈ db.ledgerKeys)
    (done : applyBillingAdjustment db now req = .ok (outcome, after)) :
    after.ledgerKeys = db.ledgerKeys ∧
      after.pendingKeys = db.pendingKeys.filter (fun key => key ≠ req.idempotencyKey) := by
  obtain ⟨row, found⟩ := lookup_isSome_iff_mem_ledgerKeys.mpr known
  obtain ⟨member, rowKey⟩ := lookup_eq_some_iff.mp found
  unfold applyBillingAdjustment lockOrCreateBillingAdjustment at done
  obtain ⟨_, _, done⟩ := bind_ok_iff.mp done
  rw [found] at done
  obtain ⟨_, locked, done⟩ := bind_ok_iff.mp done
  cases locked
  dsimp only at done
  split at done
  · cases done
  split at done
  · rename_i applied
    cases done
    refine ⟨rfl, (List.filter_eq_self.mpr ?_).symm⟩
    intro key listed
    rw [decide_eq_true_eq]
    rintro rfl
    obtain ⟨other, waits, otherKey⟩ := List.mem_map.mp listed
    obtain ⟨otherMember, pending⟩ := List.mem_filter.mp waits
    have same : other = row :=
      List.inj_on_of_nodup_map db.billingAdjustments.unique otherMember
        member (otherKey.trans rowKey.symm)
    rw [same, applied] at pending
    cases pending
  · cases done
  · obtain ⟨⟨flag, paid⟩, deltas, done⟩ := bind_ok_iff.mp done
    cases done
    obtain ⟨sameKeys, samePending⟩ := keys_of_ledger (applyBillingAdjustmentDeltas_ledger deltas)
    constructor
    · rw [ledgerKeys_save, sameKeys]
    · rw [pendingKeys_save (by simp [settled]), samePending]
      simp only [settled, rowKey]

/-- The rows that do not apply stay pending, in order. -/
theorem applyRun_keys {stuck : String → Bool} :
    ∀ {batch : List BillingAdjustment} {db : Database} {ahead behind : List String},
      db.pendingKeys = ahead ++ batch.map idempotencyKey ++ behind →
      GuardedRun (applyPendingRow now)
        (fun db row => applyFails now db row = stuck row.idempotencyKey)
        db batch →
      (execute (applyPendingRow now) db batch).ledgerKeys = db.ledgerKeys ∧
        (execute (applyPendingRow now) db batch).pendingKeys =
          ahead ++ (batch.map idempotencyKey).filter stuck ++ behind
  | [], db, ahead, behind, queue, _ => ⟨rfl, queue⟩
  | row :: rest, db, ahead, behind, queue, run => by
      obtain ⟨answer, restRun⟩ := run
      rw [execute_cons]
      have distinct : db.pendingKeys.Nodup :=
        (List.filter_sublist.map _).nodup db.billingAdjustments.unique
      have waits : row.idempotencyKey ∈ db.pendingKeys := by
        rw [queue]
        simp
      have known : row.idempotencyKey ∈ db.ledgerKeys := (List.filter_sublist.map _).subset waits
      cases done : applyBillingAdjustment db now (billingAdjustmentRequestFromRow row) with
      | error err =>
        have idle : applyPendingRow now db row = db := by simp [applyPendingRow, done, Except.map]
        have fails : stuck row.idempotencyKey = true := by
          rw [← answer, applyFails, done]
          rfl
        rw [idle] at restRun ⊢
        have later :=
          @applyRun_keys stuck rest db (ahead ++ [row.idempotencyKey])
            behind (by simpa using queue) restRun
        simpa [fails] using later
      | ok result =>
        obtain ⟨outcome, after⟩ := result
        have moved : applyPendingRow now db row = after := by
          simp [applyPendingRow, done, Except.map]
        have succeeds : stuck row.idempotencyKey = false := by
          rw [← answer, applyFails, done]
          rfl
        obtain ⟨sameKeys, taken⟩ := applyBillingAdjustment_keys known done
        have left : after.pendingKeys = ahead ++ rest.map idempotencyKey ++ behind := by
          rw [queue, List.map_cons, List.append_assoc, List.cons_append] at distinct
          rw [taken, queue, List.map_cons, List.append_assoc, List.cons_append, List.append_assoc]
          exact @KeyedTable.filter_key_ne_middle _ _ id _ ahead _
              row.idempotencyKey (by rwa [List.map_id])
        rw [moved] at restRun ⊢
        have later := applyRun_keys left restRun
        rw [later.1, later.2, sameKeys]
        simp [succeeds]

end Applying

section Spool

variable {ρ : Type} {key : ρ → String} {location : SpoolLocation}
  {keep : ρ → Bool} {request : ρ → Option BillingAdjustmentRequest}
  {refused : SpoolEntry → Bool} {now : Int}

/-- The entries refused by the ledger stay in the spool, in order. -/
theorem recoverEntries_spec :
    ∀ {batch ahead behind : List ρ} {db : Database} {table : KeyedTable key},
      table.listing keep = ahead ++ batch ++ behind →
      GuardedRun (ensureEntry now) (fun db entry => entry.fails now db = refused entry) db
        (batch.map (fun row => ⟨location, key row, request row⟩)) →
      (execute (recoverEntry request now) (db, table) batch).1 =
          execute (ensureEntry now) db (batch.map (fun row => ⟨location, key row, request row⟩)) ∧
        (execute (recoverEntry request now) (db, table) batch).2.listing keep = ahead ++
              batch.filter (fun row => refused ⟨location, key row, request row⟩) ++
            behind
  | [], ahead, behind, db, table, queue, _ => ⟨rfl, queue⟩
  | row :: rest, ahead, behind, db, table, queue, run => by
      obtain ⟨answer, restRun⟩ := run
      rw [List.map_cons, execute_cons, execute_cons]
      cases fails : refused ⟨location, key row, request row⟩ with
      | true =>
        rw [fails] at answer
        have idle : ensureEntry now db ⟨location, key row, request row⟩ = db ∧
              recoverEntry request now (db, table) row = (db, table) := by
          cases body : request row with
          | none => simp [ensureEntry, recoverEntry, body]
          | some req =>
            cases done : ensurePendingBillingAdjustment db now req with
            | error err => simp [ensureEntry, recoverEntry, body, done]
            | ok after => simp [SpoolEntry.fails, body, done, Except.isOk, Except.toBool] at answer
        rw [idle.1] at restRun ⊢
        rw [idle.2]
        have later :=
          @recoverEntries_spec rest (ahead ++ [row]) behind db table (by simpa using queue) restRun
        simpa [fails] using later
      | false =>
        rw [fails] at answer
        obtain ⟨after, copied, dropped⟩ :
            ∃ after,
              ensureEntry now db ⟨location, key row, request row⟩ = after ∧
                recoverEntry request now (db, table) row = (after, table.delete (key row)) := by
          cases body : request row with
          | none => simp [SpoolEntry.fails, body] at answer
          | some req =>
            cases done : ensurePendingBillingAdjustment db now req with
            | error err => simp [SpoolEntry.fails, body, done, Except.isOk, Except.toBool] at answer
            | ok after =>
              exact ⟨after, by simp [ensureEntry, done], by simp [recoverEntry, body, done]⟩
        have left : (table.delete (key row)).listing keep = ahead ++ rest ++ behind := by
          have distinct := table.nodup_map_key_listing keep
          rw [queue, List.append_assoc, List.cons_append] at distinct
          rw [listing_delete, queue, List.append_assoc, List.cons_append, List.append_assoc]
          exact filter_key_ne_middle distinct
        rw [copied] at restRun ⊢
        rw [dropped]
        have later := recoverEntries_spec left restRun
        simpa [fails] using later

/-- One store: its batch goes to the ledger, the refused entries wait. -/
theorem recoverStore_spec {limit : Nat} {db : Database} {table : KeyedTable key}
    (run :
      GuardedRun (ensureEntry now) (fun db entry => entry.fails now db = refused entry) db
        ((storeQueue location keep request table).take limit)) :
    (recoverStore keep request now limit (db, table)).1 =
        min limit (storeQueue location keep request table).length ∧
      (recoverStore keep request now limit (db, table)).2.1 =
        execute (ensureEntry now) db ((storeQueue location keep request table).take limit) ∧
      storeQueue location keep request (recoverStore keep request now limit (db, table)).2.2 =
        drain refused limit (storeQueue location keep request table) := by
  have queue : table.listing keep =
        [] ++ (table.listing keep).take limit ++ (table.listing keep).drop limit := by
    rw [List.nil_append, List.take_append_drop]
  rw [storeQueue, ← List.map_take] at run
  obtain ⟨tables, left⟩ := recoverEntries_spec queue run
  refine ⟨?_, ?_, ?_⟩
  · simp [recoverStore, storeQueue]
  · rw [recoverStore, storeQueue, ← List.map_take]
    exact tables
  · simp only [recoverStore, storeQueue, drain]
    rw [left, ← List.map_take, ← List.map_drop, List.filter_map]
    simp [Function.comp_def]

end Spool

section Expiry

variable {db after : Database} {now : Int}

theorem applyUserSubscriptionDeltaTx_ledger
    {sub : UserSubscription} {delta : Int} {allowOverdraft : Bool}
    (done : applyUserSubscriptionDeltaTx db sub delta allowOverdraft = .ok after) :
    after.billingAdjustments = db.billingAdjustments := by
  rw [applyUserSubscriptionDeltaTx_cases done]
  rfl

theorem refundSubscriptionReservedExtraTx_ledger
    {requestID : String} {subscriptionID extra removed : Int}
    (done :
      refundSubscriptionReservedExtraTx db requestID subscriptionID extra = .ok (removed, after)) :
    after.billingAdjustments = db.billingAdjustments := by
  have finish :
      ∀ {sub : UserSubscription} {amount : Int} {mid : Database},
        mid.billingAdjustments = db.billingAdjustments →
        (if amount = 0 then .ok (0, mid)
          else do
            let mid ← applyUserSubscriptionDeltaTx mid sub (-amount) false
            .ok (amount, mid)) =
          (.ok (removed, after) : Except BillingError (Int × Database)) →
        after.billingAdjustments = db.billingAdjustments := by
    intro sub amount mid kept done
    split at done
    · cases done
      exact kept
    · obtain ⟨moved, delta, done⟩ := bind_ok_iff.mp done
      cases done
      exact (applyUserSubscriptionDeltaTx_ledger delta).trans kept
  unfold refundSubscriptionReservedExtraTx at done
  split at done
  · cases done
    rfl
  · obtain ⟨sub, _, done⟩ := bind_ok_iff.mp done
    split at done
    · exact finish (by rfl) done
    · split at done
      · split at done
        · cases done
        exact finish (by rfl) done
      · exact finish (by rfl) done

theorem refundSubscriptionPreConsumeTx_ledger {requestId : String}
    (done : refundSubscriptionPreConsumeTx db requestId = .ok after) :
    after.billingAdjustments = db.billingAdjustments := by
  unfold refundSubscriptionPreConsumeTx closeSubscriptionPreConsumeTx
    refundPositiveUsageTx refundSubscriptionUsageIfCurrentPeriodTx at done
  split at done
  · cases done
  split at done
  · cases done
  split at done
  · cases done
    rfl
  · obtain ⟨mid, returned, done⟩ := bind_ok_iff.mp done
    cases done
    change mid.billingAdjustments = db.billingAdjustments
    split at returned
    · split at returned
      · cases returned
        rfl
      · split at returned
        · cases returned
        split at returned
        · cases returned
        obtain ⟨sub, _, returned⟩ := bind_ok_iff.mp returned
        split at returned
        · cases returned
          rfl
        · exact applyUserSubscriptionDeltaTx_ledger returned
    · cases returned
      rfl

theorem recoverExpiredSubscriptionPreConsume_ledger {requestID : String}
    (done : recoverExpiredSubscriptionPreConsume db now requestID = .ok after) :
    after.billingAdjustments = db.billingAdjustments := by
  unfold recoverExpiredSubscriptionPreConsume at done
  split at done
  · cases done
    rfl
  · split at done
    · cases done
    split at done
    · cases done
      rfl
    · split at done
      · cases done
      split at done
      · cases done
        rfl
      · dsimp only at done
        split at done
        · obtain ⟨⟨removed, moved⟩, taken, done⟩ := bind_ok_iff.mp done
          exact (refundSubscriptionPreConsumeTx_ledger done).trans
              (refundSubscriptionReservedExtraTx_ledger taken)
        · exact refundSubscriptionPreConsumeTx_ledger done

theorem foldl_commit_ledger {ρ : Type} {call : Database → ρ → Except BillingError Database}
    (kept : ∀ {db after : Database} {row : ρ}, call db row = .ok after →
        after.billingAdjustments = db.billingAdjustments)
    (rows : List ρ) (db : Database) :
    (rows.foldl (fun db row => commit db (call db row)) db).billingAdjustments =
      db.billingAdjustments := by
  induction rows generalizing db with
  | nil => rfl
  | cons row rest ih =>
    rw [List.foldl_cons, ih]
    exact @commit_invariant _ _ (fun next => next.billingAdjustments = db.billingAdjustments)
        _ _ rfl (fun _ done => kept done)

theorem recoverExpiredWalletPreConsumes_ledger (limit : Int) :
    (recoverExpiredWalletPreConsumes db now limit).billingAdjustments = db.billingAdjustments := by
  refine foldl_commit_ledger ?_ _ db
  intro db after record done
  cases refund : refundWalletPreConsume db now record.requestID true with
  | error err =>
    rw [refund] at done
    cases done
  | ok result =>
    rw [refund] at done
    cases done
    obtain ⟨users, records, frame, _⟩ :=
      @refundWalletPreConsume_walletOnly _ result.2 _ _ _ result.1 refund
    rw [frame]

theorem recoverExpiredSubscriptionPreConsumes_ledger (limit : Int) :
    (recoverExpiredSubscriptionPreConsumes db now limit).billingAdjustments =
      db.billingAdjustments :=
  foldl_commit_ledger recoverExpiredSubscriptionPreConsume_ledger _ db

end Expiry

section Pass

variable {node : RecoveryNode} {now limit : Int}
  {refused : SpoolEntry → Bool} {stuck : String → Bool}

@[simp]
theorem drain_zero (queue : List SpoolEntry) : drain refused 0 queue = queue := rfl

/-- All stores of a node are one queue, drained by a batch. -/
theorem recoverUnpersisted_spec
    (run :
      GuardedRun (ensureEntry now) (fun db entry => entry.fails now db = refused entry) node.db
        (node.waiting.take (batchLimit limit))) :
    (node.recoverUnpersistedBillingAdjustments now limit).db =
        execute (ensureEntry now) node.db (node.waiting.take (batchLimit limit)) ∧
      (node.recoverUnpersistedBillingAdjustments now limit).waiting =
        drain refused (batchLimit limit) node.waiting := by
  simp only [waiting, List.take_append, drain_append] at run ⊢
  obtain ⟨memoryRun, run⟩ := guardedRun_append.mp run
  obtain ⟨primaryRun, fallbackRun⟩ := guardedRun_append.mp run
  rw [execute_append, execute_append]
  obtain ⟨memoryCount, memoryTables, memoryQueue⟩ := recoverStore_spec memoryRun
  unfold recoverUnpersistedBillingAdjustments
    recoverMemoryBillingAdjustments recoverBillingAdjustmentSpoolDirectory
  rcases memoryPass :
      recoverStore (fun _ => true) some now (batchLimit limit) (node.db, node.memory) with
    ⟨recovered, copied, memory⟩
  simp only [memoryPass] at memoryCount memoryTables memoryQueue ⊢
  rw [← memoryTables] at primaryRun fallbackRun ⊢
  rw [← memoryQueue]
  split
  · have none :
        batchLimit limit - (storeQueue .memory (fun _ => true) some node.memory).length = 0 := by
      omega
    simp [none]
  · have room : batchLimit limit - recovered =
          batchLimit limit - (storeQueue .memory (fun _ => true) some node.memory).length := by
      omega
    rw [room]
    obtain ⟨primaryCount, primaryTables, primaryQueue⟩ := recoverStore_spec primaryRun
    rcases primaryPass :
        recoverStore isRequest body now
          (batchLimit limit - (storeQueue .memory (fun _ => true) some node.memory).length)
          (copied, node.primary) with
      ⟨count, stored, primary⟩
    simp only [primaryPass] at primaryCount primaryTables primaryQueue ⊢
    rw [← primaryTables] at fallbackRun ⊢
    rw [← primaryQueue]
    split
    · have none :
          batchLimit limit - (storeQueue .memory (fun _ => true) some node.memory).length -
            (storeQueue .primary isRequest body node.primary).length =
            0 := by
        omega
      simp [none]
    · have left : batchLimit limit - (recovered + count) =
            batchLimit limit - (storeQueue .memory (fun _ => true) some node.memory).length -
              (storeQueue .primary isRequest body node.primary).length := by
        omega
      rw [left]
      obtain ⟨_, fallbackTables, fallbackQueue⟩ := recoverStore_spec fallbackRun
      exact ⟨fallbackTables, by rw [← fallbackQueue]⟩

def RecoveryNode.addedByPass (node : RecoveryNode) (limit : Int) (refused : SpoolEntry → Bool) :
    List String :=
  addedKeys node.db.ledgerKeys
    (requestKeys ((node.waiting.take (batchLimit limit)).filter (fun entry => !refused entry)))

/-- A steady pass drains both queues: the spools, then the ledger. -/
theorem recoverNodeLocal_spec (steady : node.SteadyPass now limit refused stuck) :
    (node.recoverNodeLocalBillingAdjustments now limit).waiting =
        drain refused (batchLimit limit) node.waiting ∧
      (node.recoverNodeLocalBillingAdjustments now limit).db.ledgerKeys =
        node.db.ledgerKeys ++ node.addedByPass limit refused ∧
      (node.recoverNodeLocalBillingAdjustments now limit).db.pendingKeys =
        drain stuck (batchLimit limit) (node.db.pendingKeys ++ node.addedByPass limit refused) := by
  obtain ⟨tables, queue⟩ := recoverUnpersisted_spec steady.spool
  have copied := ensureRun_keys steady.spool
  rw [← tables] at copied
  obtain ⟨copiedKeys, copiedPending⟩ := copied
  have ledgerRun := steady.ledger
  unfold recoverNodeLocalBillingAdjustments
  generalize node.recoverUnpersistedBillingAdjustments now limit = mid
    at queue copiedKeys copiedPending ledgerRun ⊢
  have pendingQueue : mid.db.pendingKeys =
        [] ++ (mid.db.pendingRows.take (batchLimit limit)).map idempotencyKey ++
          (mid.db.pendingRows.drop (batchLimit limit)).map idempotencyKey := by
    rw [List.nil_append, ← List.map_append, List.take_append_drop]
    rfl
  obtain ⟨appliedKeys, appliedPending⟩ := applyRun_keys pendingQueue ledgerRun
  obtain ⟨expiredKeys, expiredPending⟩ :=
    keys_of_ledger
      ((@recoverExpiredSubscriptionPreConsumes_ledger
          (recoverExpiredWalletPreConsumes
            (recoverPendingBillingAdjustments mid.db now limit) now limit)
          now limit).trans
        (recoverExpiredWalletPreConsumes_ledger limit))
  refine ⟨queue, ?_, ?_⟩
  · exact expiredKeys.trans (appliedKeys.trans copiedKeys)
  · have drained : drain stuck (batchLimit limit) mid.db.pendingKeys = [] ++
              ((mid.db.pendingRows.take (batchLimit limit)).map
                idempotencyKey).filter stuck ++
            (mid.db.pendingRows.drop (batchLimit limit)).map idempotencyKey := by
      rw [List.nil_append, List.map_take, List.map_drop]
      rfl
    rw [addedByPass, ← copiedPending, drained, ← appliedPending]
    exact expiredPending

theorem addedBySpool_pass (steady : node.SteadyPass now limit refused stuck) :
    node.addedBySpool limit refused = node.addedByPass limit refused ++
        (node.recoverNodeLocalBillingAdjustments now limit).addedBySpool limit refused := by
  obtain ⟨queue, keys, _⟩ := recoverNodeLocal_spec steady
  rw [addedBySpool, addedBySpool, queue, keys,
    ← served_drain (batchLimit limit) node.waiting, requestKeys_append, addedKeys_append]
  rfl

end Pass

section Passes

variable {node : RecoveryNode} {limit : Int} {clock : Nat → Int}
  {refused : SpoolEntry → Bool} {stuck : String → Bool}

/-- What is the same before every pass: the keys that will be in the ledger in
the end, and the rows that will never be applied. -/
theorem afterPasses_conserved (steady : node.Steady limit clock refused stuck) (n : Nat) :
    (node.afterPasses limit clock n).db.ledgerKeys ++
          (node.afterPasses limit clock n).addedBySpool limit refused =
        node.db.ledgerKeys ++ node.addedBySpool limit refused ∧
      residue stuck (batchLimit limit) ((node.afterPasses limit clock n).arrivals limit refused) =
        residue stuck (batchLimit limit) (node.arrivals limit refused) ∧
      (node.afterPasses limit clock n).waiting ⊆ node.waiting := by
  induction n with
  | zero => exact ⟨rfl, rfl, fun _ member => member⟩
  | succ n ih =>
    obtain ⟨keys, rows, spool⟩ := ih
    obtain ⟨queue, passKeys, passPending⟩ := recoverNodeLocal_spec (steady n)
    have added := addedBySpool_pass (steady n)
    rw [afterPasses]
    refine ⟨?_, ?_, ?_⟩
    · rw [passKeys, ← keys, added, List.append_assoc]
    · rw [arrivals, passPending, residue_drain_append,
        ← rows, arrivals, added, List.append_assoc]
    · rw [queue]
      exact List.Subset.trans (drain_subset _ _) spool

/-- After enough passes both queues start with a batch of failing entries. -/
theorem exists_passes_at_rest (steady : node.Steady limit clock refused stuck) :
    ∃ n,
      (node.afterPasses limit clock n).addedBySpool limit refused = [] ∧
        residue stuck (batchLimit limit) (node.afterPasses limit clock n).db.pendingKeys =
          (node.afterPasses limit clock n).db.pendingKeys := by
  have spoolPasses :
      ∀ n,
        (node.afterPasses limit clock (n + 1)).waiting =
          drain refused (batchLimit limit) (node.afterPasses limit clock n).waiting :=
    fun n => (recoverNodeLocal_spec (steady n)).1
  obtain ⟨start, atRest⟩ :=
    @exists_batch_stuck _ refused (batchLimit limit)
      (fun n => (node.afterPasses limit clock n).waiting) spoolPasses
  have still :
      ∀ n,
        (node.afterPasses limit clock (start + n)).waiting =
          (node.afterPasses limit clock start).waiting :=
    @eq_of_batch_stuck _ refused (batchLimit limit)
      (fun n => (node.afterPasses limit clock n).waiting) spoolPasses start atRest
  -- From here on no pass copies anything.
  have nothing :
      ∀ n, (node.afterPasses limit clock (start + n)).addedByPass limit refused = [] := by
    intro n
    have none :
        ((node.afterPasses limit clock start).waiting.take
            (batchLimit limit)).filter (fun entry => !refused entry) =
          [] := by
      rw [List.filter_eq_nil_iff]
      intro entry member
      rw [atRest entry member]
      decide
    rw [addedByPass, still n, none]
    rfl
  have ledgerPasses :
      ∀ n,
        (node.afterPasses limit clock (start + (n + 1))).db.pendingKeys =
          drain stuck (batchLimit limit)
            (node.afterPasses limit clock (start + n)).db.pendingKeys := by
    intro n
    have pass := (recoverNodeLocal_spec (steady (start + n))).2.2
    rw [nothing n, List.append_nil] at pass
    exact pass
  obtain ⟨count, ledgerAtRest⟩ :=
    @exists_batch_stuck _ stuck (batchLimit limit)
      (fun n => (node.afterPasses limit clock (start + n)).db.pendingKeys)
      ledgerPasses
  refine ⟨start + count, ?_, residue_of_stuck ledgerAtRest⟩
  rw [addedBySpool, still count, served_of_stuck atRest]
  rfl

theorem nodup_arrivals : (node.arrivals limit refused).Nodup := by
  have whole : (node.db.ledgerKeys ++ node.addedBySpool limit refused).Nodup :=
    nodup_append_addedKeys node.db.billingAdjustments.unique
  have part :
      (node.arrivals limit refused).Sublist
        (node.db.ledgerKeys ++ node.addedBySpool limit refused) :=
    List.Sublist.append_right (List.filter_sublist.map _) _
  exact part.nodup whole

/-- The recovery ends with every request that can be settled settled exactly
when no such request has a batch of failing entries ahead of it. -/
theorem recovery_completes_iff_unblocked (node : RecoveryNode) (limit : Int) (clock : Nat → Int)
    (refused : SpoolEntry → Bool) (stuck : String → Bool)
    (steady : node.Steady limit clock refused stuck) :
    (∃ n, node.Recovered (node.afterPasses limit clock n) refused stuck) ↔
      node.Unblocked limit refused stuck := by
  have listed :
      ∀ {req : BillingAdjustmentRequest} {db : Database},
        (∃ row, req.rowIn db = some row) ↔ req.idempotencyKey ∈ db.ledgerKeys :=
    lookup_isSome_iff_mem_ledgerKeys
  constructor
  · rintro ⟨n, recovered⟩
    obtain ⟨keys, rows, spool⟩ := afterPasses_conserved steady n
    have nothing : (node.afterPasses limit clock n).addedBySpool limit refused = [] := by
      apply addedKeys_eq_nil
      intro key member
      obtain ⟨entry, isServed, req, body, rfl⟩ := mem_requestKeys_iff.mp member
      obtain ⟨ahead, behind, queue, succeeds, _⟩ := mem_served_iff.mp isServed
      have waits : entry ∈ node.waiting := spool (by simp [queue])
      exact listed.mp (recovered.spool entry waits succeeds req body)
    rw [nothing, List.append_nil] at keys
    constructor
    · intro entry waits succeeds req body
      have stored := listed.mp (recovered.spool entry waits succeeds req body)
      rw [keys, List.mem_append] at stored
      rcases stored with before | added
      · exact Or.inl (listed.mpr before)
      · obtain ⟨other, isServed, twin, twinBody, sameKey⟩ :=
          mem_requestKeys_iff.mp (mem_addedKeys_iff.mp added).1
        exact Or.inr ⟨other, twin, mem_served_iff.mp isServed, twinBody, sameKey⟩
    · refine (residue_stuck_iff nodup_arrivals).mp ?_
      intro key member
      rw [← rows, RecoveryNode.arrivals, nothing, List.append_nil] at member
      have pending := (perm_served_residue _ _).subset (List.mem_append_right _ member)
      obtain ⟨row, waits, rfl⟩ := List.mem_map.mp pending
      exact recovered.ledger row waits
  · intro unblocked
    obtain ⟨n, nothing, atRest⟩ := exists_passes_at_rest steady
    obtain ⟨keys, rows, _⟩ := afterPasses_conserved steady n
    rw [nothing, List.append_nil] at keys
    refine ⟨n, ?_, ?_⟩
    · intro entry waits succeeds req body
      refine listed.mpr ?_
      rw [keys, List.mem_append]
      by_cases known : req.idempotencyKey ∈ node.db.ledgerKeys
      · exact Or.inl known
      rcases unblocked.spool entry waits succeeds req body with
        before | ⟨other, twin, reached, twinBody, sameKey⟩
      · exact Or.inl (listed.mp before)
      · refine Or.inr (mem_addedKeys_iff.mpr ⟨?_, known⟩)
        exact mem_requestKeys_iff.mpr ⟨other, mem_served_iff.mpr reached, twin, twinBody, sameKey⟩
    · intro row waits
      have remains := (residue_stuck_iff nodup_arrivals).mpr unblocked.ledger
      rw [← rows, RecoveryNode.arrivals, nothing, List.append_nil, atRest] at remains
      exact remains row.idempotencyKey (List.mem_map_of_mem waits)

end Passes

def secondCharge : BillingAdjustmentRequest :=
  { sampleCharge 0 7 with
    idempotencyKey := "billing:req-2"
    requestID := "req-2" }

def RecoveryNode.sample : RecoveryNode where
  db :=
    { Database.sample with
      billingAdjustments :=
        ⟨[{ (sampleCharge 0 7).pendingRow 0 0 with status := .rolledBack }], by decide⟩ }
  memory := ⟨[sampleCharge 0 7], by decide⟩
  primary := ⟨[⟨"a.json", false, some secondCharge⟩], by decide⟩
  fallback := .empty

def SpoolEntry.inMemory (entry : SpoolEntry) : Bool := entry.location = .memory

theorem sample_stands (now : Int) :
    sample.recoverNodeLocalBillingAdjustments now 1 = .sample :=
  rfl

theorem sample_afterPasses (clock : Nat → Int) (n : Nat) :
    sample.afterPasses 1 clock n = .sample := by
  induction n with
  | zero => rfl
  | succ n ih => rw [afterPasses, ih, sample_stands]

/-- With batches of one the good request is never reached. -/
theorem recovery_starves_secondCharge :
    ¬∀ (node : RecoveryNode) (limit : Int) (clock : Nat → Int)
        (refused : SpoolEntry → Bool) (stuck : String → Bool),
        1 ≤ limit →
          node.Steady limit clock refused stuck →
            ∃ n, node.Recovered (node.afterPasses limit clock n) refused stuck := by
  intro claimed
  have steady : RecoveryNode.sample.Steady 1 (fun _ => 0) SpoolEntry.inMemory (fun _ => false) := by
    intro n
    rw [sample_afterPasses]
    exact ⟨⟨rfl, trivial⟩, trivial⟩
  obtain ⟨n, recovered⟩ := claimed .sample 1 _ _ _ (by decide) steady
  rw [sample_afterPasses] at recovered
  obtain ⟨row, found⟩ :=
    recovered.spool ⟨.primary, "a.json", some secondCharge⟩
      (List.mem_cons_of_mem _ List.mem_cons_self) rfl secondCharge rfl
  cases found

def RecoveryNode.sampleDone : RecoveryNode :=
  RecoveryNode.sample.recoverNodeLocalBillingAdjustments 0 2

theorem sampleDone_afterPasses (n : Nat) :
    sample.afterPasses 2 (fun _ => 0) (n + 1) = .sampleDone := by
  induction n with
  | zero => rfl
  | succ n ih =>
    rw [afterPasses, ih]
    rfl

/-- With batches of two it is. -/
theorem recovery_completes_secondCharge :
    ∃ n,
      RecoveryNode.sample.Recovered (RecoveryNode.sample.afterPasses 2 (fun _ => 0) n)
        SpoolEntry.inMemory (fun _ => false) := by
  have steady : RecoveryNode.sample.Steady 2 (fun _ => 0) SpoolEntry.inMemory (fun _ => false) := by
    intro n
    cases n with
    | zero => exact ⟨⟨rfl, rfl, trivial⟩, ⟨rfl, trivial⟩⟩
    | succ n =>
      rw [sampleDone_afterPasses]
      exact ⟨⟨rfl, trivial⟩, trivial⟩
  refine (recovery_completes_iff_unblocked .sample 2 (fun _ => 0)
      SpoolEntry.inMemory (fun _ => false) steady).mpr ⟨?_, ?_⟩
  · intro entry waits succeeds req body
    refine Or.inr
        ⟨⟨.primary, "a.json", some secondCharge⟩, secondCharge,
          ⟨[⟨.memory, "billing:req-1", some (sampleCharge 0 7)⟩], [], rfl, rfl, by decide⟩,
          rfl, ?_⟩
    rcases List.mem_cons.mp waits with rfl | later
    · cases succeeds
    · cases List.mem_singleton.mp later
      cases body
      rfl
  · intro key member _
    have only : key = "billing:req-2" := List.mem_singleton.mp member
    exact ⟨[], [], by rw [only]; rfl, rfl, by decide⟩

end NewApi.Billing
