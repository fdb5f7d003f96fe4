import NewApi.Lib.Forest
import NewApi.Lib.GoStrings
import NewApi.Lib.Transactions
import NewApi.Referral.Records

/-!
# Binding invitees to inviters

`BindInviteeByCode` as a transaction that advances one statement at a time.  The
two user rows are locked in the order of their ids until the transaction ends;
the walk up the chain of inviters reads committed rows and locks none.
-/

namespace NewApi.Referral

open GoStrings Transactions

/-- One call of `BindInviteeByCode`; `enabled` is what the call reads from the
referral switch. -/
structure BindCall where
  inviteeUserId : Int
  code : String
  bindSource : String
  enabled : Bool
  deriving DecidableEq, Repr

inductive BindError where
  | selfInvite
  | invalidUsers
  | userNotFound
  | cycle
  | database
  deriving DecidableEq, Repr

def BindError.message : BindError → String
  | .selfInvite => "self invite is not allowed"
  | .invalidUsers => "invalid referral binding users"
  | .userNotFound => "referral binding user not found"
  | .cycle => "referral cycle is not allowed"
  | .database => "database error"

/-- Where a call stands: the statement it executes next. -/
inductive BindPhase where
  | started
  | lockingFirst (affiliate : ReferralAffiliate)
  | lockingSecond (affiliate : ReferralAffiliate)
  | checkingExisting (affiliate : ReferralAffiliate)
  | walking (affiliate : ReferralAffiliate) (current : Int) (visited : List Int)
  | inserting (affiliate : ReferralAffiliate) (current : Int)
  | returned (error : Option BindError)
  deriving DecidableEq, Repr

structure Binder where
  call : BindCall
  phase : BindPhase
  deriving DecidableEq, Repr

/-- The committed bindings, with the unique index on the invitee, and the
calls made so far. -/
structure BindState where
  bindings : KeyedTable ReferralBinding.inviteeUserId
  binders : List Binder

def BindState.inviter (state : BindState) (user : Int) : Option Int :=
  (state.bindings.lookup user).map ReferralBinding.inviterUserId

/-- The rows that a call has locked: the lower id first, then the higher. -/
def Binder.locks (binder : Binder) : List Int :=
  let lower (affiliate : ReferralAffiliate) := min binder.call.inviteeUserId affiliate.userId
  let higher (affiliate : ReferralAffiliate) := max binder.call.inviteeUserId affiliate.userId
  match binder.phase with
  | .started | .lockingFirst _ | .returned _ => []
  | .lockingSecond affiliate => [lower affiliate]
  | .checkingExisting affiliate
  | .walking affiliate _ _
  | .inserting affiliate _ => [lower affiliate, higher affiliate]

def normalizeBindSource (mapping : CaseMapping) (value : String) : BindSource :=
  if toLower mapping (trimSpace value) = "code" then .code else .cookie

section Steps

variable (mapping : CaseMapping) (affiliates : List ReferralAffiliate) (users : List Int)

def startBinding (call : BindCall) : BindPhase :=
  if call.inviteeUserId ≤ 0 ∨ call.enabled = false then .returned none
  else
    let code := toUpper mapping (trimSpace call.code)
    if code = "" then .returned none
    else
      match affiliates.find? (fun affiliate => affiliate.inviteCode = code) with
      | none => .returned none
      | some affiliate =>
        if affiliate.status ≠ .approved ∨
            affiliate.acquisitionEnabled = false then
          .returned none
        else if affiliate.userId = call.inviteeUserId then .returned (some .selfInvite)
        else if affiliate.userId ≤ 0 then .returned (some .invalidUsers)
        else .lockingFirst affiliate

/-- Whether another call than the one at `index` has locked a row.  A row that
does not exist cannot be locked. -/
def BindState.blocked (state : BindState) (index : Nat) (user : Int) : Bool :=
  decide (user ∈ users) &&
    (state.binders.zipIdx.any fun entry => decide (entry.2 ≠ index) && entry.1.locks.contains user)

def hasBindingCycle (state : BindState) (affiliate : ReferralAffiliate)
    (inviteeUserId current : Int) (visited : List Int) : BindPhase :=
  if current ≤ 0 then .inserting affiliate current
  else if current = inviteeUserId then .returned (some .cycle)
  else if current ∈ visited then .returned (some .cycle)
  else
    match state.bindings.lookup current with
    | none => .inserting affiliate current
    | some binding => .walking affiliate binding.inviterUserId (current :: visited)

/-- The next statement of a call, up to the insert.  A blocked call waits. -/
def nextPhase (state : BindState) (index : Nat) (binder : Binder) : BindPhase :=
  let invitee := binder.call.inviteeUserId
  match binder.phase with
  | .started => startBinding mapping affiliates binder.call
  | .lockingFirst affiliate =>
    if state.blocked users index (min invitee affiliate.userId) then binder.phase
    else .lockingSecond affiliate
  | .lockingSecond affiliate =>
    if state.blocked users index (max invitee affiliate.userId) then binder.phase
    else if invitee ∈ users ∧ affiliate.userId ∈ users then .checkingExisting affiliate
    else .returned (some .userNotFound)
  | .checkingExisting affiliate =>
    match state.bindings.lookup invitee with
    | some _ => .returned none
    | none => .walking affiliate affiliate.userId [invitee]
  | .walking affiliate current visited => hasBindingCycle state affiliate invitee current visited
  | .inserting _ _ => .returned none
  | .returned error => .returned error

def newBinding (call : BindCall) (affiliate : ReferralAffiliate) :
    ReferralBinding where
  inviteeUserId := call.inviteeUserId
  inviterUserId := affiliate.userId
  affiliateId := affiliate.id
  bindSource := normalizeBindSource mapping call.bindSource
  bindCode := affiliate.inviteCode

def committedBindings (state : BindState) (binder : Binder) :
    KeyedTable ReferralBinding.inviteeUserId :=
  match binder.phase with
  | .inserting affiliate _ => state.bindings.insertIgnore (newBinding mapping binder.call affiliate)
  | _ => state.bindings

inductive BindAction where
  /-- A new call arrives. -/
  | call (call : BindCall)
  /-- A call executes its next statement. -/
  | advance (index : Nat)
  /-- A statement of a call fails, and its transaction is rolled back. -/
  | fail (index : Nat)
  deriving DecidableEq, Repr

def bindStep (state : BindState) : BindAction → BindState
  | .call call =>
    { state with binders := state.binders ++ [{ call := call, phase := .started }] }
  | .advance index =>
    match state.binders[index]? with
    | none => state
    | some binder =>
      { bindings := committedBindings mapping state binder
        binders :=
          state.binders.set index
            { binder with phase := nextPhase mapping affiliates users state index binder } }
  | .fail index =>
    match state.binders[index]? with
    | none => state
    | some binder =>
      match binder.phase with
      | .returned _ => state
      | _ =>
        { state with
          binders := state.binders.set index { binder with phase := .returned (some .database) } }

end Steps

end NewApi.Referral
