import NewApi.Lib.Transactions
import Mathlib.Algebra.Order.BigOperators.Group.List
import Mathlib.Algebra.Order.Ring.Int

/-!
# Admission of image task creations

`model/image_task_create_admission.go`.  Every call reads the rows with the time
it carries.  A user has one bucket, of the window seen last; reservations that
have expired for one caller are deleted for all of them.

The guard row only serialises the admissions.  Sums stay below `2 ^ 63`, and
the only statement that fails is the insert of an id that is taken.
-/

namespace NewApi.ImageTasks

open Transactions

/-! ## The rows and the calls -/

structure ImageTaskCreateRateBucket where
  windowStartAt : Int
  requestCount : Int := 0
  updatedAt : Int := 0

structure ImageTaskCreateReservation where
  id : String
  userID : Int
  tokenID : Int
  reservedBytes : Int
  expiresAt : Int
  createdAt : Int
  deriving DecidableEq

structure ImageTaskCreateAdmissionLimits where
  requestLimit : Int
  windowSeconds : Int
  maxInFlight : Int
  maxReservedBytes : Int
  reservationTTLSeconds : Int

structure AdmissionTables where
  /-- By the user of the key `user:%d` -/
  buckets : Int → Option ImageTaskCreateRateBucket := fun _ => none
  reservations : List ImageTaskCreateReservation := []

inductive AdmissionError where
  /-- `invalid image task admission identity` -/
  | invalidIdentity
  /-- `ErrImageTaskCreateRateLimitExceeded` -/
  | rateLimitExceeded
  /-- `ErrImageTaskCreateCapacityExceeded` -/
  | capacityExceeded
  | duplicateKey
  deriving DecidableEq

/-- The arguments of one admission, with what `GetDBTimestamp` and `GetUUID`
return to it. -/
structure AdmissionRequest where
  userID : Int
  tokenID : Int
  reservedBytes : Int
  now : Int
  dbTimestamp : Int
  uuid : String

def defaulted (given default : Int) : Int := if given ≤ 0 then default else given

/-- The time that the statements of the admission carry. -/
def AdmissionRequest.time (request : AdmissionRequest) : Int :=
  defaulted request.now request.dbTimestamp

def AdmissionRequest.reservation (limits : ImageTaskCreateAdmissionLimits)
    (request : AdmissionRequest) : ImageTaskCreateReservation :=
  { id := request.uuid, userID := request.userID, tokenID := request.tokenID
    reservedBytes := defaulted request.reservedBytes 1
    expiresAt := request.time + defaulted limits.reservationTTLSeconds 600
    createdAt := request.time }

section Evaluation

variable (limits : ImageTaskCreateAdmissionLimits) (tables : AdmissionTables)

def windowStart (now : Int) : Int := now - now.tmod limits.windowSeconds

/-- The bucket that the admission counts in. -/
def currentBucket (userID now : Int) : ImageTaskCreateRateBucket :=
  match tables.buckets userID with
  | none => { windowStartAt := windowStart limits now }
  | some bucket =>
    if bucket.windowStartAt ≠ windowStart limits now then
      { bucket with windowStartAt := windowStart limits now, requestCount := 0 }
    else bucket

def alive (now : Int) (reservation : ImageTaskCreateReservation) : Bool :=
  now < reservation.expiresAt

def reservedBytes (reservations : List ImageTaskCreateReservation) : Int :=
  (reservations.map ImageTaskCreateReservation.reservedBytes).sum

/-- The transaction of `evaluateImageTaskCreateAdmission`. -/
def decideAdmission (request : AdmissionRequest) (rateEnabled capacityEnabled commit : Bool) :
    Except AdmissionError (String × AdmissionTables) :=
  let now := request.time
  let reservations := tables.reservations.filter (alive now)
  let bucket := currentBucket limits tables request.userID now
  if rateEnabled ∧ limits.requestLimit ≤ bucket.requestCount then .error .rateLimitExceeded
  else
    let active := reservations.filter (alive now)
    if capacityEnabled ∧
        (0 < limits.maxInFlight ∧ limits.maxInFlight ≤ active.length ∨
          0 < limits.maxReservedBytes ∧
            limits.maxReservedBytes <
              reservedBytes active + (request.reservation limits).reservedBytes) then
      .error .capacityExceeded
    else
      let buckets :=
        if rateEnabled && commit then
          Function.update tables.buckets request.userID
            (some { bucket with requestCount := bucket.requestCount + 1, updatedAt := now })
        else tables.buckets
      if capacityEnabled && commit then
        if request.uuid ∈ reservations.map ImageTaskCreateReservation.id then
          .error .duplicateKey
        else
          .ok (request.uuid,
            { buckets, reservations := reservations ++ [request.reservation limits] })
      else .ok ("", { buckets, reservations })

def evaluateImageTaskCreateAdmission (request : AdmissionRequest) (commit : Bool) :
    Except AdmissionError (String × AdmissionTables) :=
  if request.userID ≤ 0 ∨ request.tokenID ≤ 0 then .error .invalidIdentity
  else
    let rateEnabled : Bool := 0 < limits.requestLimit ∧ 0 < limits.windowSeconds
    let capacityEnabled : Bool := 0 < limits.maxInFlight ∨ 0 < limits.maxReservedBytes
    if !rateEnabled && !capacityEnabled then .ok ("", tables)
    else if 0 < limits.maxReservedBytes ∧
        limits.maxReservedBytes < (request.reservation limits).reservedBytes then
      .error .capacityExceeded
    else decideAdmission limits tables request rateEnabled capacityEnabled commit

end Evaluation

def releaseRows (reservationID : String) (rows : List ImageTaskCreateReservation) :
    List ImageTaskCreateReservation :=
  if reservationID = "" then rows else rows.filter fun row => row.id ≠ reservationID

def renewable (reservationID : String) (now : Int) (row : ImageTaskCreateReservation) : Bool :=
  reservationID ≠ "" ∧ row.id = reservationID ∧ now < row.expiresAt

def renewRows (reservationID : String) (now ttlSeconds : Int)
    (rows : List ImageTaskCreateReservation) : List ImageTaskCreateReservation :=
  rows.map fun row =>
    if renewable reservationID now row then
      { row with expiresAt := now + defaulted ttlSeconds 600 }
    else row

inductive AdmissionCall where
  | acquire (request : AdmissionRequest)
  | check (request : AdmissionRequest)
  | release (reservationID : String)
  | renew (reservationID : String) (now dbTimestamp ttlSeconds : Int)

inductive AdmissionAnswer where
  | acquired (outcome : Except AdmissionError String)
  | checked (outcome : Except AdmissionError Unit)
  | released
  | renewed (found : Bool)

section Calls

variable (limits : ImageTaskCreateAdmissionLimits)

/-- `AcquireImageTaskCreateAdmission`, `CheckImageTaskCreateAdmission`,
`ReleaseImageTaskCreateAdmission` and `RenewImageTaskCreateAdmission`. -/
def serve (tables : AdmissionTables) : AdmissionCall → AdmissionAnswer × AdmissionTables
  | .acquire request =>
    let outcome := evaluateImageTaskCreateAdmission limits tables request true
    (.acquired (outcome.map Prod.fst), commit tables (outcome.map Prod.snd))
  | .check request =>
    let outcome := evaluateImageTaskCreateAdmission limits tables request false
    (.checked (outcome.map fun _ => ()), commit tables (outcome.map Prod.snd))
  | .release reservationID =>
    (.released, { tables with reservations := releaseRows reservationID tables.reservations })
  | .renew reservationID now dbTimestamp ttlSeconds =>
    let now := defaulted now dbTimestamp
    (.renewed (tables.reservations.any (renewable reservationID now)),
      { tables with reservations := renewRows reservationID now ttlSeconds tables.reservations })

def answers : AdmissionTables → List AdmissionCall → List AdmissionAnswer
  | _, [] => []
  | tables, call :: rest =>
    (serve limits tables call).1 :: answers (serve limits tables call).2 rest

/-! ## The history of a run -/

/-- The tables, and what has been granted.  No call reads the history. -/
structure Admissions where
  tables : AdmissionTables := {}
  /-- The time of the last admission or check that was committed -/
  latest : Int := 0
  /-- The user and the time of every acquisition -/
  acquired : List (Int × Int) := []
  /-- What was acquired and not released, with the expiry granted last -/
  held : List ImageTaskCreateReservation := []

namespace Admissions

def step (state : Admissions) (call : AdmissionCall) : Admissions :=
  let tables := (serve limits state.tables call).2
  match call, (serve limits state.tables call).1 with
  | .acquire request, .acquired (.ok _) =>
    { tables
      latest := request.time
      acquired := (request.userID, request.time) :: state.acquired
      held := state.held ++ [request.reservation limits] }
  | .check request, .checked (.ok _) => { state with tables, latest := request.time }
  | .release reservationID, _ =>
    { state with tables, held := releaseRows reservationID state.held }
  | .renew reservationID now dbTimestamp ttlSeconds, .renewed true =>
    { state with
      tables
      held := renewRows reservationID (defaulted now dbTimestamp) ttlSeconds state.held }
  | _, _ => { state with tables }

/-- The call does not carry a time before that of an admission or a check
committed earlier. -/
def InOrder (state : Admissions) : AdmissionCall → Prop
  | .acquire request | .check request => state.latest ≤ request.time
  | .release _ => True
  | .renew _ now dbTimestamp _ => state.latest ≤ defaulted now dbTimestamp

instance (state : Admissions) : (call : AdmissionCall) → Decidable (state.InOrder call)
  | .acquire _ | .check _ | .renew _ _ _ _ => inferInstanceAs (Decidable (_ ≤ _))
  | .release _ => isTrue trivial

end Admissions

end Calls

structure ImageTaskCreateAdmissionLimits.Positive (limits : ImageTaskCreateAdmissionLimits) :
    Prop where
  requestLimit : 0 < limits.requestLimit
  windowSeconds : 0 < limits.windowSeconds
  maxInFlight : 0 < limits.maxInFlight
  maxReservedBytes : 0 < limits.maxReservedBytes

theorem defaulted_pos (given : Int) {default : Int} (positive : 0 < default) :
    0 < defaulted given default := by
  unfold defaulted
  split <;> omega

variable {limits : ImageTaskCreateAdmissionLimits} {time now : Int}
  {rows others : List ImageTaskCreateReservation} {reservationID : String} {ttlSeconds : Int}

/-! ### Windows -/

theorem windowStart_of_nonneg (nonneg : 0 ≤ now) :
    windowStart limits now = limits.windowSeconds * (now / limits.windowSeconds) := by
  rw [windowStart, Int.tmod_eq_emod_of_nonneg nonneg, Int.emod_def]
  omega

theorem windowStart_eq_iff (positive : limits.Positive) (nonneg : 0 ≤ time) (past : time ≤ now) :
    windowStart limits time = windowStart limits now ↔
      time / limits.windowSeconds = now / limits.windowSeconds := by
  rw [windowStart_of_nonneg nonneg, windowStart_of_nonneg (nonneg.trans past)]
  exact ⟨Int.eq_of_mul_eq_mul_left positive.windowSeconds.ne', congrArg _⟩

/-- The acquisitions of a user in a window. -/
def countIn (limits : ImageTaskCreateAdmissionLimits) (acquired : List (Int × Int))
    (user window : Int) : Nat :=
  acquired.countP fun admission =>
    admission.1 = user ∧ admission.2 / limits.windowSeconds = window

theorem countIn_cons (admission : Int × Int) (acquired : List (Int × Int)) (user window : Int) :
    countIn limits (admission :: acquired) user window =
      countIn limits acquired user window +
        if admission.1 = user ∧ admission.2 / limits.windowSeconds = window then 1 else 0 := by
  simp [countIn, List.countP_cons]

theorem currentBucket_windowStartAt {tables : AdmissionTables} {userID : Int} :
    (currentBucket limits tables userID now).windowStartAt = windowStart limits now := by
  unfold currentBucket
  split
  · rfl
  · split
    · rfl
    · exact not_not.mp ‹_›

theorem currentBucket_save {buckets : Int → Option ImageTaskCreateRateBucket}
    {bucket : ImageTaskCreateRateBucket} {userID : Int} :
    currentBucket limits ⟨Function.update buckets userID (some bucket), rows⟩ userID now =
      if bucket.windowStartAt ≠ windowStart limits now then
        { bucket with windowStartAt := windowStart limits now, requestCount := 0 }
      else bucket := by
  simp only [currentBucket, Function.update_self]

/-! ### Rows that agree after a time -/

/-- The two lists have the same reservations that expire after `time`. -/
def Alike (time : Int) (rows others : List ImageTaskCreateReservation) : Prop :=
  rows.filter (alive time) = others.filter (alive time)

namespace Alike

theorem filter_filter (ordered : time ≤ now) :
    (rows.filter (alive time)).filter (alive now) = rows.filter (alive now) := by
  rw [List.filter_filter]
  apply List.filter_congr
  intro row _
  simp only [alive, ← Bool.decide_and, decide_eq_decide]
  omega

theorem later (alike : Alike time rows others) (ordered : time ≤ now) : Alike now rows others := by
  unfold Alike
  rw [← filter_filter ordered, alike, filter_filter ordered]

theorem filter_right (alike : Alike now rows others) : Alike now rows (others.filter (alive now)) :=
  alike.trans (filter_filter le_rfl).symm

theorem released (alike : Alike time rows others) (reservationID : String) :
    Alike time (releaseRows reservationID rows) (releaseRows reservationID others) := by
  unfold releaseRows
  split
  · exact alike
  · unfold Alike
    rw [List.filter_comm, alike, List.filter_comm]

theorem any_renewable (ordered : time ≤ now) :
    (rows.filter (alive time)).any (renewable reservationID now) =
      rows.any (renewable reservationID now) := by
  rw [List.any_filter]
  congr 1
  funext row
  simp only [alive, renewable, ← Bool.decide_and, decide_eq_decide]
  constructor
  · exact And.right
  · intro held
    exact ⟨lt_of_le_of_lt ordered held.2.2, held⟩

theorem filter_renewRows (ordered : time ≤ now) :
    (renewRows reservationID now ttlSeconds rows).filter (alive time) =
      (renewRows reservationID now ttlSeconds (rows.filter (alive time))).filter (alive time) := by
  induction rows with
  | nil => rfl
  | cons row rest ih =>
    cases live : alive time row with
    | true =>
      rw [List.filter_cons_of_pos live]
      simp only [renewRows, List.map_cons, List.filter_cons] at ih ⊢
      rw [ih]
    | false =>
      have dead := Bool.eq_false_iff.mp live
      have expired : renewable reservationID now row = false := by
        simp only [alive, decide_eq_false_iff_not] at live
        simp only [renewable, decide_eq_false_iff_not]
        omega
      rw [List.filter_cons_of_neg dead, ← ih, renewRows, List.map_cons, expired,
        if_neg Bool.false_ne_true, List.filter_cons_of_neg dead]
      rfl

theorem renewed (alike : Alike time rows others) (ordered : time ≤ now) :
    Alike time (renewRows reservationID now ttlSeconds rows)
      (renewRows reservationID now ttlSeconds others) := by
  unfold Alike
  rw [filter_renewRows ordered, alike, ← filter_renewRows ordered]

end Alike

theorem renewRows_of_none (none : rows.any (renewable reservationID now) = false) :
    renewRows reservationID now ttlSeconds rows = rows := by
  refine (List.map_congr_left fun row member => ?_).trans (List.map_id rows)
  exact if_neg (List.any_eq_false.mp none row member)

theorem map_bytes_renewRows :
    (renewRows reservationID now ttlSeconds rows).map (·.reservedBytes) =
      rows.map (·.reservedBytes) := by
  rw [renewRows, List.map_map]
  apply List.map_congr_left
  intro row _
  rw [Function.comp_apply]
  split <;> rfl

theorem releaseRows_sublist : (releaseRows reservationID rows).Sublist rows := by
  unfold releaseRows
  split
  · exact List.Sublist.refl rows
  · exact List.filter_sublist

/-! ### The invariant -/

variable {state : Admissions} {call : AdmissionCall} {request : AdmissionRequest}
  {tables after : AdmissionTables}

theorem evaluate_ok {commit : Bool} (positive : limits.Positive)
    (done : evaluateImageTaskCreateAdmission limits tables request commit =
      .ok (reservationID, after)) :
    let bucket := currentBucket limits tables request.userID request.time
    let reservations := tables.reservations.filter (alive request.time)
    bucket.requestCount < limits.requestLimit ∧ reservations.length < limits.maxInFlight ∧
      reservedBytes reservations + (request.reservation limits).reservedBytes ≤
        limits.maxReservedBytes ∧
      after =
        if commit then
          { buckets := Function.update tables.buckets request.userID
              (some
                { bucket with
                  requestCount := bucket.requestCount + 1, updatedAt := request.time })
            reservations := reservations ++ [request.reservation limits] }
        else { tables with reservations } := by
  obtain ⟨rate, window, inFlight, bytes⟩ := positive
  simp only [evaluateImageTaskCreateAdmission, decideAdmission, rate, window, inFlight, bytes,
    true_and, true_or, and_self, decide_true, Bool.true_and, Bool.not_true, Bool.false_eq_true,
    if_false, List.filter_filter, Bool.and_self] at done
  split at done
  · cases done
  split at done
  · cases done
  split at done
  · cases done
  rename_i roomInBucket
  split at done
  · cases done
  rename_i room
  simp only [not_or, not_le, not_lt] at roomInBucket room
  refine ⟨roomInBucket, room.1, room.2, ?_⟩
  cases commit with
  | false =>
    cases done
    rfl
  | true =>
    simp only [if_true] at done
    split at done
    · cases done
    · cases done
      rfl

structure Sound (limits : ImageTaskCreateAdmissionLimits) (state : Admissions) : Prop where
  nonneg : 0 ≤ state.latest
  past : ∀ admission ∈ state.acquired, 0 ≤ admission.2 ∧ admission.2 ≤ state.latest
  within : ∀ user window, countIn limits state.acquired user window ≤ limits.requestLimit
  counted : ∀ user now, state.latest ≤ now →
    countIn limits state.acquired user (now / limits.windowSeconds) ≤
      (currentBucket limits state.tables user now).requestCount
  weighed : ∀ bytes ∈ state.tables.reservations.map (·.reservedBytes), 0 < bytes
  inFlight : state.tables.reservations.length ≤ limits.maxInFlight
  bytes : reservedBytes state.tables.reservations ≤ limits.maxReservedBytes
  live : Alike state.latest state.held state.tables.reservations

namespace Sound

theorem initial (positive : limits.Positive) : Sound limits {} where
  nonneg := le_rfl
  past := by simp
  within _ _ := positive.requestLimit.le
  counted _ _ _ := le_rfl
  weighed := by simp
  inFlight := positive.maxInFlight.le
  bytes := positive.maxReservedBytes.le
  live := rfl

variable (sound : Sound limits state)
include sound

theorem later (ordered : state.latest ≤ now) : Sound limits { state with latest := now } :=
  { sound with
    nonneg := sound.nonneg.trans ordered
    past := fun admission member =>
      ⟨(sound.past admission member).1, (sound.past admission member).2.trans ordered⟩
    counted := fun user late after => sound.counted user late (ordered.trans after)
    live := sound.live.later ordered }

/-- The reservations after a deletion or a renewal. -/
theorem kept
    (weights : (rows.map (·.reservedBytes)).Sublist
      (state.tables.reservations.map (·.reservedBytes)))
    (live : Alike state.latest others rows) :
    Sound limits
      { state with held := others, tables := { state.tables with reservations := rows } } :=
  { sound with
    weighed := fun bytes member => sound.weighed bytes (weights.subset member)
    inFlight := by
      have shorter := weights.length_le
      rw [List.length_map, List.length_map] at shorter
      exact (Int.ofNat_le.mpr shorter).trans sound.inFlight
    bytes :=
      (weights.sum_le_sum fun bytes member => (sound.weighed bytes member).le).trans sound.bytes
    live }

theorem checked (ordered : state.latest ≤ now) :
    Sound limits
      { state with
        latest := now
        tables :=
          { state.tables with reservations := state.tables.reservations.filter (alive now) } } :=
  (sound.later ordered).kept (List.filter_sublist.map _) (sound.live.later ordered).filter_right

theorem acquired (positive : limits.Positive) (ordered : state.latest ≤ request.time)
    (done : evaluateImageTaskCreateAdmission limits state.tables request true =
      .ok (reservationID, after)) :
    Sound limits
      { tables := after, latest := request.time
        acquired := (request.userID, request.time) :: state.acquired
        held := state.held ++ [request.reservation limits] } := by
  obtain ⟨room, inFlight, bytes, rfl⟩ := evaluate_ok positive done
  have deleted := sound.checked ordered
  have here := sound.counted request.userID request.time ordered
  have nonneg := deleted.nonneg
  constructor
  case nonneg => exact nonneg
  case past =>
    intro admission member
    rcases List.mem_cons.mp member with rfl | member
    · exact ⟨nonneg, le_rfl⟩
    · exact deleted.past admission member
  case within =>
    intro user window
    rw [countIn_cons]
    split
    · rename_i same
      obtain ⟨rfl, rfl⟩ := same
      push_cast
      omega
    · exact sound.within user window
  case counted =>
    intro user late after
    have before := sound.counted user late (ordered.trans after)
    rw [countIn_cons]
    by_cases other : user = request.userID
    · subst other
      rw [if_pos rfl, currentBucket_save, currentBucket_windowStartAt]
      simp only [ne_eq, windowStart_eq_iff positive nonneg after, true_and]
      by_cases same : request.time / limits.windowSeconds = late / limits.windowSeconds
      · rw [if_neg (not_not_intro same), if_pos same, ← same]
        push_cast
        exact Int.add_le_add_right here 1
      · -- The window of `late` has not begun yet.
        have unused : countIn limits state.acquired request.userID
            (late / limits.windowSeconds) = 0 := by
          refine List.countP_eq_zero.mpr fun admission member counted => same ?_
          have divided := Int.ediv_le_ediv positive.windowSeconds
            (deleted.past admission member).2
          rw [(of_decide_eq_true counted).2] at divided
          exact le_antisymm (Int.ediv_le_ediv positive.windowSeconds after) divided
        rw [if_pos same, if_neg same, unused]
        exact le_rfl
    · rw [if_neg fun both => other both.1.symm, add_zero]
      simpa [currentBucket, other] using before
  case weighed =>
    rw [if_pos rfl, List.map_append]
    intro bytes member
    rcases List.mem_append.mp member with member | member
    · exact deleted.weighed bytes member
    · rw [List.mem_singleton.mp member]
      exact defaulted_pos _ Int.one_pos
  case inFlight =>
    simp only [if_true, List.length_append, List.length_singleton] at inFlight ⊢
    omega
  case bytes => simpa [reservedBytes] using bytes
  case live =>
    have ttl : 0 < defaulted limits.reservationTTLSeconds 600 := defaulted_pos _ (by decide)
    have fresh : alive request.time (request.reservation limits) = true :=
      decide_eq_true (Int.lt_add_of_pos_right request.time ttl)
    unfold Alike
    rw [if_pos rfl, List.filter_append, List.filter_append, deleted.live]

end Sound

/-- One call keeps the limits. -/
theorem Sound.step (positive : limits.Positive) (inOrder : state.InOrder call)
    (sound : Sound limits state) : Sound limits (state.step limits call) := by
  cases call with
  | acquire request =>
    cases done : evaluateImageTaskCreateAdmission limits state.tables request true with
    | error err => simpa [Admissions.step, serve, done, Except.map] using sound
    | ok granted =>
      simpa [Admissions.step, serve, done, Except.map] using sound.acquired positive inOrder done
  | check request =>
    cases done : evaluateImageTaskCreateAdmission limits state.tables request false with
    | error err => simpa [Admissions.step, serve, done, Except.map] using sound
    | ok granted =>
      obtain ⟨-, -, -, after⟩ := evaluate_ok positive done
      simpa [Admissions.step, serve, done, Except.map, after] using sound.checked inOrder
  | release reservationID =>
    exact sound.kept (releaseRows_sublist.map _) (sound.live.released reservationID)
  | renew reservationID now dbTimestamp ttlSeconds =>
    cases found : state.tables.reservations.any (renewable reservationID
      (defaulted now dbTimestamp)) with
    | true =>
      simp only [Admissions.step, serve, found]
      refine sound.kept ?_ (sound.live.renewed inOrder)
      rw [map_bytes_renewRows]
    | false =>
      simpa only [Admissions.step, serve, found, renewRows_of_none found] using sound

/-! ## Dropping a check -/

/-- The tables agree in what calls from `time` on can see. -/
def SeenAlike (time : Int) (tables others : AdmissionTables) : Prop :=
  tables.buckets = others.buckets ∧ Alike time tables.reservations others.reservations

variable {others : AdmissionTables}

theorem evaluate_alike (positive : limits.Positive)
    (seen : SeenAlike request.time tables others) (commit : Bool) :
    evaluateImageTaskCreateAdmission limits tables request commit =
      evaluateImageTaskCreateAdmission limits others request commit := by
  obtain ⟨buckets, rows⟩ := tables
  obtain ⟨rfl, same⟩ := seen
  unfold Alike at same
  have admitted : ∀ rate capacity,
      decideAdmission limits ⟨others.buckets, rows⟩ request rate capacity commit =
        decideAdmission limits others request rate capacity commit := by
    intro rate capacity
    simp only [decideAdmission]
    rw [same]
    rfl
  have enabled := positive.maxInFlight
  simp only [evaluateImageTaskCreateAdmission, admitted, enabled, true_or, decide_true,
    Bool.not_true, Bool.and_false, Bool.false_eq_true, if_false]

theorem SeenAlike.later (seen : SeenAlike time tables others) (ordered : time ≤ now) :
    SeenAlike now tables others :=
  ⟨seen.1, seen.2.later ordered⟩

theorem SeenAlike.committed (seen : SeenAlike time tables others)
    (outcome : Except AdmissionError AdmissionTables) :
    SeenAlike time (commit tables outcome) (commit others outcome) := by
  cases outcome with
  | ok after => exact ⟨rfl, rfl⟩
  | error err => exact seen

theorem serve_alike (positive : limits.Positive) (inOrder : state.InOrder call)
    (past : time ≤ state.latest) (seen : SeenAlike time tables state.tables) :
    (serve limits tables call).1 = (serve limits state.tables call).1 ∧
      SeenAlike time (serve limits tables call).2 (serve limits state.tables call).2 := by
  cases call with
  | acquire request | check request =>
    simp only [serve]
    rw [evaluate_alike positive (seen.later (past.trans inOrder))]
    exact ⟨rfl, seen.committed _⟩
  | release reservationID => exact ⟨rfl, seen.1, seen.2.released reservationID⟩
  | renew reservationID now dbTimestamp ttlSeconds =>
    have ordered : time ≤ defaulted now dbTimestamp := past.trans inOrder
    refine ⟨?_, seen.1, seen.2.renewed ordered⟩
    simp only [serve]
    rw [← Alike.any_renewable ordered, seen.2, Alike.any_renewable ordered]

theorem step_tables (limits : ImageTaskCreateAdmissionLimits) (state : Admissions)
    (call : AdmissionCall) :
    (state.step limits call).tables = (serve limits state.tables call).2 := by
  unfold Admissions.step
  split <;> rfl

theorem latest_le_step (inOrder : state.InOrder call) :
    state.latest ≤ (state.step limits call).latest := by
  unfold Admissions.step
  split
  · exact inOrder
  · exact inOrder
  all_goals exact le_rfl

theorem answers_alike (positive : limits.Positive) :
    ∀ {calls : List AdmissionCall} {state : Admissions} {tables : AdmissionTables},
      GuardedRun (Admissions.step limits) Admissions.InOrder state calls →
        time ≤ state.latest → SeenAlike time tables state.tables →
          answers limits tables calls = answers limits state.tables calls
  | [], _, _, _, _, _ => rfl
  | call :: rest, state, tables, run, past, seen => by
    obtain ⟨inOrder, run⟩ := run
    obtain ⟨same, after⟩ := serve_alike positive inOrder past seen
    rw [← step_tables] at after
    rw [answers, answers, same, ← step_tables limits state,
      answers_alike positive run (past.trans (latest_le_step inOrder)) after]

theorem answers_after_check (positive : limits.Positive) {request : AdmissionRequest}
    {rest : List AdmissionCall}
    (run : GuardedRun (Admissions.step limits) Admissions.InOrder state (.check request :: rest)) :
    answers limits (state.step limits (.check request)).tables rest =
      answers limits state.tables rest := by
  obtain ⟨inOrder, run⟩ := run
  refine (answers_alike positive run le_rfl ?_).symm
  simp only [Admissions.step, serve]
  cases done : evaluateImageTaskCreateAdmission limits state.tables request false with
  | error err => exact ⟨rfl, rfl⟩
  | ok granted =>
    obtain ⟨-, -, -, after⟩ := evaluate_ok positive done
    simp only [Except.map, commit_ok, after, Bool.false_eq_true, if_false]
    exact ⟨rfl, Alike.filter_right rfl⟩

/-- Where no call carries a time before that of an admission or a check
committed earlier, every user has at most `requestLimit` acquisitions in every
window, what is held stays within the capacity from then on, and the calls
after a check answer as if it had not been made. -/
theorem admission_limits_hold (limits : ImageTaskCreateAdmissionLimits)
    (positive : limits.Positive) (calls : List AdmissionCall)
    (inOrder : GuardedRun (Admissions.step limits) Admissions.InOrder {} calls) :
    let reached := execute (Admissions.step limits) {} calls
    (∀ user window : Int,
      reached.acquired.countP (fun admission =>
          admission.1 = user ∧ window * limits.windowSeconds ≤ admission.2 ∧
            admission.2 < (window + 1) * limits.windowSeconds) ≤
        limits.requestLimit) ∧
    (∀ time, reached.latest ≤ time →
      (reached.held.filter (alive time)).length ≤ limits.maxInFlight ∧
        reservedBytes (reached.held.filter (alive time)) ≤ limits.maxReservedBytes) ∧
    ∀ before request rest, calls = before ++ .check request :: rest →
      answers limits
          (execute (Admissions.step limits) {} (before ++ [.check request])).tables rest =
        answers limits (execute (Admissions.step limits) {} before).tables rest := by
  intro reached
  have sound : Sound limits reached :=
    GuardedRun.invariant (fun _ _ => Sound.step positive) inOrder (Sound.initial positive)
  refine ⟨?_, ?_, ?_⟩
  · intro user window
    refine le_trans ?_ (sound.within user window)
    refine Int.ofNat_le.mpr (List.countP_mono_left fun admission _ counted => ?_)
    obtain ⟨same, after, before⟩ := of_decide_eq_true counted
    have lower := (Int.le_ediv_iff_mul_le positive.windowSeconds).mpr after
    have upper := (Int.ediv_lt_iff_lt_mul positive.windowSeconds).mpr before
    exact decide_eq_true ⟨same, by omega⟩
  · intro time after
    rw [sound.live.later after]
    have sub : (reached.tables.reservations.filter (alive time)).Sublist
      reached.tables.reservations := List.filter_sublist
    have later := (sound.later after).checked le_rfl
    exact ⟨later.inFlight, later.bytes⟩
  · rintro before request rest rfl
    rw [execute_append]
    exact answers_after_check positive (guardedRun_append.mp inOrder).2

def onePerMinute : ImageTaskCreateAdmissionLimits where
  requestLimit := 1
  windowSeconds := 60
  maxInFlight := 2
  maxReservedBytes := 100
  reservationTTLSeconds := 600

def creationAt (uuid : String) (now : Int) : AdmissionRequest where
  userID := 7
  tokenID := 3
  reservedBytes := 40
  now := now
  dbTimestamp := 1000
  uuid := uuid

theorem admission_limits_three_calls :
    (execute (Admissions.step onePerMinute) {}
        [.acquire (creationAt "a" 60), .check (creationAt "b" 70),
          .renew "a" 80 1000 600]).acquired.countP
      (fun admission => admission.1 = 7 ∧ 1 * 60 ≤ admission.2 ∧ admission.2 < (1 + 1) * 60) ≤
        (1 : Int) :=
  (admission_limits_hold onePerMinute
    { requestLimit := by decide, windowSeconds := by decide
      maxInFlight := by decide, maxReservedBytes := by decide }
    [.acquire (creationAt "a" 60), .check (creationAt "b" 70), .renew "a" 80 1000 600]
    (by decide)).1 7 1

/-- An admission of the next minute is committed between two of the same one:
the bucket is of the next minute then, and starts anew for the third call. -/
theorem late_request_starts_a_new_bucket :
    (execute (Admissions.step onePerMinute) {}
        [.acquire (creationAt "a" 110), .acquire (creationAt "b" 120),
          .release "a", .acquire (creationAt "c" 115)]).acquired.countP
      (fun admission => admission.1 = 7 ∧ 1 * 60 ≤ admission.2 ∧ admission.2 < (1 + 1) * 60) =
        2 := by
  decide

end NewApi.ImageTasks
