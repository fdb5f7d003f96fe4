import NewApi.Billing.BillingAdjustment

/-!
# Staging and retrying a settlement

How `service/billing_session.go` brings one settle request into the ledger
although single calls may fail, with the spool that keeps it meanwhile.  A `Node`
is the process with the failures that its next calls will meet.
-/

namespace NewApi.Billing

open Transactions

structure TransientError where
  err : BillingError
  retryable : billingAdjustmentRetryable err = true

/-- What happens to one call: it runs, it fails without an effect, or it fails
after its commit: the hook `BillingAdjustmentAfterEnsurePending` reports an
error, or the answer of the database to the commit is lost. -/
inductive Fault where
  | none
  | before (failure : TransientError)
  | after (failure : TransientError)

structure Node where
  db : Database
  /-- The settle requests that wait outside the ledger. -/
  spool : String → Option BillingAdjustmentRequest
  /-- The fate of the calls to come; when it runs out, calls run. -/
  faults : List Fault
  /-- The same for the calls of `ApplyBillingAdjustment`. -/
  applyFaults : List Fault
  /-- The ledger rows found at the removals of spool entries. -/
  drops : List (Option BillingAdjustment)

namespace Node

def nextFault (node : Node) : Fault × Node :=
  match node.faults with
  | [] => (.none, node)
  | fault :: rest => (fault, { node with faults := rest })

def nextApplyFault (node : Node) : Fault × Node :=
  match node.applyFaults with
  | [] => (.none, node)
  | fault :: rest => (fault, { node with applyFaults := rest })

def nextFailure (node : Node) : Option BillingError × Node :=
  match node.nextFault with
  | (.none, node) => (none, node)
  | (.before failure, node) => (some failure.err, node)
  | (.after failure, node) => (some failure.err, node)

def rememberUnpersistedBillingAdjustment (node : Node) (req : BillingAdjustmentRequest) :
    Except BillingError Unit × Node :=
  match req.validate with
  | .error err => (.error err, node)
  | .ok _ =>
    match node.nextFault with
    | (.before failure, node) => (.error failure.err, node)
    | (fault, node) =>
      let node := { node with spool := Function.update node.spool req.idempotencyKey (some req) }
      match fault with
      | .after failure => (.error failure.err, node)
      | _ => (.ok (), node)

def forgetUnpersistedBillingAdjustment (node : Node) (key : String) : Node :=
  if key = "" then node
  else
    { node with
      spool := Function.update node.spool key none
      drops := node.db.billingAdjustments.lookup key :: node.drops }

def ensurePending (node : Node) (now : Int) (req : BillingAdjustmentRequest) :
    Except BillingError Unit × Node :=
  match node.nextFault with
  | (.before failure, node) => (.error failure.err, node)
  | (fault, node) =>
    match ensurePendingBillingAdjustment node.db now req with
    | .error err => (.error err, node)
    | .ok db =>
      let node := { node with db := db }
      match fault with
      | .after failure => (.error failure.err, node)
      | _ => (.ok (), node)

def get (node : Node) (key : String) :
    Except BillingError (Option BillingAdjustment) × Node :=
  match node.nextFailure with
  | (some err, node) => (.error err, node)
  | (none, node) => (getBillingAdjustment node.db key, node)

def apply (node : Node) (now : Int) (req : BillingAdjustmentRequest) :
    Except BillingError Unit × Node :=
  match node.nextApplyFault with
  | (.before failure, node) => (.error failure.err, node)
  | (fault, node) =>
    match applyBillingAdjustment node.db now req with
    | .error err => (.error err, node)
    | .ok (_, db) =>
      let node := { node with db := db }
      match fault with
      | .after failure => (.error failure.err, node)
      | _ => (.ok (), node)

end Node

/-- `errors.Is` with `ErrBillingAdjustmentConflict` or
`ErrBillingAdjustmentClosed`. -/
def BillingError.isConflictOrClosed : BillingError → Bool
  | .billingAdjustmentConflict _ => true
  | .billingAdjustmentClosed => true
  | _ => false

def foundRow :
    Except BillingError (Option BillingAdjustment) → Option BillingAdjustment
  | .ok row => row
  | .error _ => none

/-- Commit the actual charge before any money moves.  The spool entry is
removed as soon as a ledger row is visible, whatever that row carries. -/
def stageDurableBillingAdjustment (node : Node) (now : Int) (req : BillingAdjustmentRequest) :
    Except BillingError Unit × Node :=
  let node := (node.rememberUnpersistedBillingAdjustment req).2
  let (saved, node) := node.ensurePending now req
  let (stored, node) := node.get req.idempotencyKey
  match saved, stored with
  | .ok _, .error getErr => (.error getErr, node)
  | _, _ =>
    let row := foundRow stored
    let node :=
      if row.isSome then node.forgetUnpersistedBillingAdjustment req.idempotencyKey
      else node
    match saved with
    | .ok _ => (.ok (), node)
    | .error err =>
      if err.isConflictOrClosed then (.error err, node)
      else if row.map BillingAdjustment.status = some .pending then
        (.error .billingAdjustmentDeferred, node)
      else (.error err, node)

/-- `storedBillingAdjustmentResult`: the verdict that the stored row gives,
without a look at its payload. -/
def storedBillingAdjustmentResult (node : Node) (key : String) :
    Option (Except BillingError Unit) × Node :=
  let (stored, node) := node.get key
  match foundRow stored with
  | none => (none, node)
  | some row =>
    match row.status with
    | .applied => (some (.ok ()), node)
    | .pending => (some (.error .billingAdjustmentDeferred), node)
    | .rolledBack => (some (.error .billingAdjustmentClosed), node)

inductive SaveOutcome where
  | saved
  | failed (err : BillingError)
  | resolved (result : Except BillingError Unit)

def saveOnce (now : Int) (req : BillingAdjustmentRequest) (node : Node) :
    SaveOutcome × Node :=
  match node.ensurePending now req with
  | (.ok _, node) => (.saved, node)
  | (.error err, node) =>
    if !billingAdjustmentRetryable err then (.failed err, node)
    else
      match storedBillingAdjustmentResult node req.idempotencyKey with
      | (some result, node) => (.resolved result, node)
      | (none, node) => (.failed err, node)

def saveAttempts (now : Int) (req : BillingAdjustmentRequest) :
    Nat → Node → SaveOutcome × Node
  | 0, node => saveOnce now req node
  | retries + 1, node =>
    match saveOnce now req node with
    | (.failed err, node) =>
      if billingAdjustmentRetryable err then saveAttempts now req retries node
      else (.failed err, node)
    | (outcome, node) => (outcome, node)

/-- Leave a pending row, or at least a spool entry, after `apply` could not
commit. -/
def persistRetryableBillingAdjustment (node : Node) (now : Int) (req : BillingAdjustmentRequest) :
    Except BillingError Unit × Node :=
  match saveAttempts now req 2 node with
  | (.resolved result, node) => (result, node)
  | (.failed saveErr, node) =>
    if !billingAdjustmentRetryable saveErr then (.error saveErr, node)
    else
      match storedBillingAdjustmentResult node req.idempotencyKey with
      | (some result, node) => (result, node)
      | (none, node) =>
        match node.rememberUnpersistedBillingAdjustment req with
        | (.error _, node) => (.error saveErr, node)
        | (.ok _, node) => (.error .billingAdjustmentDeferred, node)
  | (.saved, node) =>
    match node.apply now req with
    | (.ok _, node) => (.ok (), node)
    | (.error applyErr, node) =>
      if billingAdjustmentRetryable applyErr then (.error .billingAdjustmentDeferred, node)
      else (.error applyErr, node)

def applyAttempts (now : Int) (req : BillingAdjustmentRequest) :
    Nat → Node → Except BillingError Unit × Node
  | 0, node => node.apply now req
  | retries + 1, node =>
    match node.apply now req with
    | (.error err, node) =>
      if billingAdjustmentRetryable err then applyAttempts now req retries node
      else (.error err, node)
    | (.ok _, node) => (.ok (), node)

def settleThroughLedger (node : Node) (now : Int) (req : BillingAdjustmentRequest) :
    Except BillingError Unit × Node :=
  match stageDurableBillingAdjustment node now req with
  | (.error err, node) =>
    if billingAdjustmentRetryable err then persistRetryableBillingAdjustment node now req
    else (.error err, node)
  | (.ok _, node) =>
    match applyAttempts now req 2 node with
    | (.error err, node) =>
      if billingAdjustmentRetryable err then persistRetryableBillingAdjustment node now req
      else (.error err, node)
    | (.ok _, node) => (.ok (), node)

end NewApi.Billing
