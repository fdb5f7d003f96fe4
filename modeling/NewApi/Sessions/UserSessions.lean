import NewApi.Lib.GoStrings
import NewApi.Lib.Interleaving

/-!
# Login sessions

One row of `user_sessions`, its Redis entry and a clock.  A revocation is
published in Redis as a tombstone that active snapshots do not replace.  Each
statement, transaction or script is one operation.  Clock readings are in
nanoseconds, columns in seconds and Redis expiries in milliseconds.
-/

namespace NewApi.Sessions

open GoStrings Interleaving

inductive SessionStatus where
  | active
  | revoking
  | revoked
deriving DecidableEq

structure UserSession where
  sid : String := "sid"
  userID : Int
  version : Int := 1
  userAuthVersion : Int
  status : SessionStatus := .active
  refreshHash : String
  previousRefreshHash : String := ""
  previousValidUntil : Int := 0
  loginMethod : String := ""
  ip : String := ""
  userAgent : String := ""
  createdAt : Int := 0
  lastActiveAt : Int := 0
  expiresAt : Int
  revokedAt : Int := 0
  revokedReason : String := ""
deriving DecidableEq

def userSessionCacheSchema : Int := 1

structure UserSessionCacheEntry where
  sid : String
  userID : Int
  version : Int
  userAuthVersion : Int
  status : SessionStatus
  loginMethod : String
  ip : String
  userAgent : String
  createdAt : Int
  lastActiveAt : Int
  expiresAt : Int
  revokedAt : Int
  revokedReason : String
  cacheSchema : Int
deriving DecidableEq

def UserSession.cacheEntry (session : UserSession) : UserSessionCacheEntry where
  sid := session.sid
  userID := session.userID
  version := session.version
  userAuthVersion := session.userAuthVersion
  status := session.status
  loginMethod := session.loginMethod
  ip := session.ip
  userAgent := session.userAgent
  createdAt := session.createdAt
  lastActiveAt := session.lastActiveAt
  expiresAt := session.expiresAt
  revokedAt := session.revokedAt
  revokedReason := session.revokedReason
  cacheSchema := userSessionCacheSchema

def UserSessionCacheEntry.session (entry : UserSessionCacheEntry) :
    UserSession where
  sid := entry.sid
  userID := entry.userID
  version := entry.version
  userAuthVersion := entry.userAuthVersion
  status := entry.status
  refreshHash := ""
  loginMethod := entry.loginMethod
  ip := entry.ip
  userAgent := entry.userAgent
  createdAt := entry.createdAt
  lastActiveAt := entry.lastActiveAt
  expiresAt := entry.expiresAt
  revokedAt := entry.revokedAt
  revokedReason := entry.revokedReason

abbrev second : Int := 1000000000

abbrev millisecond : Int := 1000000

structure CacheItem where
  entry : UserSessionCacheEntry
  expireAt : Int
deriving DecidableEq

structure Shared where
  clock : Int
  row : Option UserSession
  cache : Option CacheItem := none
  /-- History: the clock when the row was revoked.  No step reads it. -/
  revokedSince : Int := 0
  /-- History: the refresh hashes exchanged.  No step reads it. -/
  exchanges : List (String × String) := []

def Shared.visible (shared : Shared) : Option UserSessionCacheEntry :=
  match shared.cache with
  | none => none
  | some item =>
    if shared.clock / millisecond ≤ item.expireAt then some item.entry
    else none

inductive SessionError where
  | invalid
  | inactive
  | refreshInvalid
  | refreshReuse
  /-- `errUserSessionCacheObservationStale` -/
  | stale
  /-- `gorm.ErrRecordNotFound` -/
  | notFound
  /-- The row to insert exists. -/
  | duplicate
deriving DecidableEq

/-! ## Operations -/

inductive Op where
  /-- `time.Now()` -/
  | now
  /-- `HGETALL` of the cache key -/
  | hGetAll
  /-- `GetUserSessionBySID` -/
  | findBySID
  /-- The first row with the id and the user -/
  | findOwned (userID : Int)
  /-- The insert of `createUserSessionWithTx` -/
  | create (session : UserSession)
  /-- The query of `confirmUserSessionActiveSnapshot` -/
  | countActive (session : UserSession) (now : Int)
  /-- The script of `writeUserSessionCache` -/
  | eval (entry : UserSessionCacheEntry) (redisExpiration : Int)
  /-- The compare-and-swap of `RotateUserSessionRefresh` -/
  | exchange (userID now : Int) (presentedHash nextHash : String) (previousValidUntil : Int)
  /-- The revoking update of `RotateUserSessionRefresh` -/
  | revokeReused (userID now : Int)
  /-- The transaction of `AdvanceUserSessionAuthVersion` -/
  | advance (userID now expectedSessionVersion expectedUserAuthVersion nextUserAuthVersion : Int)
  /-- The transaction of `RevokeUserSession` -/
  | revokeOwned (userID now : Int) (reason : String)
  /-- The transaction of `RevokeUserSessionByRefreshHash` -/
  | revokePresented (presentedHash : String) (now : Int) (reason : String)
  /-- The candidates of `revokeUserSessions` -/
  | candidates (userID now : Int)
  /-- The transaction of `revokeUserSessions` -/
  | revokeLocked (now : Int) (reason : String)
deriving DecidableEq

abbrev Answer : Op → Type
  | .now => Int
  | .hGetAll => Option UserSessionCacheEntry
  | .findBySID => Option UserSession
  | .findOwned _ => Option UserSession
  | .create _ => Bool
  | .countActive _ _ => Bool
  | .eval _ _ => Bool
  | .exchange _ _ _ _ _ => Bool
  | .revokeReused _ _ => Bool
  | .advance _ _ _ _ _ => Except SessionError UserSession
  | .revokeOwned _ _ _ => Except SessionError Bool
  | .revokePresented _ _ _ => Except SessionError (Option UserSession)
  | .candidates _ _ => Option UserSession
  | .revokeLocked _ _ => Option UserSession

def Shared.eval (shared : Shared) (entry : UserSessionCacheEntry)
    (redisExpiration : Int) : Shared × Bool :=
  let currentStatus := shared.visible.map (·.status)
  let currentVersion := (shared.visible.map (·.version)).getD 0
  if entry.status = .active ∧
      (currentStatus = some .revoking ∨ currentStatus = some .revoked) then
    (shared, false)
  else if currentVersion > entry.version then (shared, false)
  else if entry.status = .active then
    -- `PEXPIREAT` with a time that has passed deletes the key.
    if redisExpiration ≤ shared.clock / millisecond then ({ shared with cache := none }, true)
    else ({ shared with cache := some ⟨entry, redisExpiration⟩ }, true)
  else
    ({ shared with cache := some ⟨entry, shared.clock / millisecond + redisExpiration⟩ }, true)

def UserSession.afterFind (session : UserSession) : UserSession :=
  { session with previousRefreshHash := trimSpace session.previousRefreshHash }

def UserSession.inactiveAt (session : UserSession) (now : Int) : Bool :=
  session.status ≠ .active || session.revokedAt ≠ 0 || session.expiresAt ≤ now

def UserSession.revoke (session : UserSession) (now : Int) (reason : String) :
    UserSession :=
  { session with status := .revoked, revokedAt := now, revokedReason := reason }

def Shared.revokeRow (shared : Shared) (row : UserSession) (now : Int) (reason : String) : Shared :=
  { shared with row := some (row.revoke now reason), revokedSince := shared.clock }

def denyExpiration (ttlSeconds expiresAt now : Int) : Int :=
  let ttl := min (expiresAt * second - now) (ttlSeconds * second)
  let ttl := if ttl ≤ 0 then second else ttl
  let redisExpiration := ttl / millisecond
  if redisExpiration ≤ 0 then 1 else redisExpiration

def UserSession.denyEntry (session : UserSession) (status : SessionStatus)
    (now : Int) (reason : String) : UserSessionCacheEntry :=
  { session.cacheEntry with status := status, revokedAt := now, revokedReason := reason }

def Shared.perform (ttlSeconds : Int) :
    (op : Op) → Shared → Shared × Answer op
  | .now, shared => (shared, shared.clock)
  | .hGetAll, shared => (shared, shared.visible)
  | .findBySID, shared => (shared, shared.row.map (·.afterFind))
  | .findOwned userID, shared => (shared, (shared.row.filter (·.userID = userID)).map (·.afterFind))
  | .create session, shared =>
    match shared.row with
    | some _ => (shared, false)
    | none => ({ shared with row := some session }, true)
  | .countActive session now, shared =>
    (shared,
      match shared.row with
      | none => false
      | some row =>
        row.userID = session.userID && row.status = .active &&
          row.revokedAt = 0 && row.expiresAt > now &&
          row.version = session.version &&
          row.userAuthVersion = session.userAuthVersion)
  | .eval entry redisExpiration, shared => shared.eval entry redisExpiration
  | .exchange userID now presentedHash nextHash previousValidUntil, shared =>
    match shared.row with
    | none => (shared, false)
    | some row =>
      if row.userID = userID ∧ row.inactiveAt now = false ∧
          row.refreshHash = presentedHash then
        ({ shared with
            row := some { row with
              previousRefreshHash := presentedHash
              previousValidUntil := previousValidUntil
              refreshHash := nextHash
              lastActiveAt := now }
            exchanges := shared.exchanges ++ [(presentedHash, nextHash)] },
          true)
      else (shared, false)
  | .revokeReused userID now, shared =>
    match shared.row with
    | none => (shared, false)
    | some row =>
      if row.userID = userID ∧ row.inactiveAt now = false then
        (shared.revokeRow row now "refresh_reuse", true)
      else (shared, false)
  | .advance userID now expectedSessionVersion expectedUserAuthVersion
      nextUserAuthVersion, shared =>
      match shared.row.filter (·.userID = userID) with
      | none => (shared, .error .notFound)
      | some row =>
        if row.status ≠ .active ∨ row.expiresAt ≤ now ∨
            row.version ≠ expectedSessionVersion ∨
            row.userAuthVersion ≠ expectedUserAuthVersion then
          (shared, .error .inactive)
        else
          let advanced := { row with
            version := row.version + 1
            userAuthVersion := nextUserAuthVersion
            lastActiveAt := now }
          ({ shared with row := some advanced }, .ok advanced.afterFind)
  | .revokeOwned userID now reason, shared =>
    match shared.row.filter (·.userID = userID) with
    | none => (shared, .error .notFound)
    | some row =>
      if row.inactiveAt now then (shared, .ok false)
      else (shared.revokeRow row now reason, .ok true)
  | .revokePresented presentedHash now reason, shared =>
    match shared.row with
    | none => (shared, .ok none)
    | some row =>
      let session := row.afterFind
      let validCurrent := session.refreshHash = presentedHash
      let validPrevious := session.previousRefreshHash ≠ "" ∧
        now ≤ session.previousValidUntil ∧ session.previousRefreshHash = presentedHash
      if session.inactiveAt now then (shared, .ok none)
      else if ¬ validCurrent ∧ ¬ validPrevious then (shared, .ok none)
      else
        let (fenced, written) :=
          shared.eval (session.denyEntry .revoking now reason)
            (denyExpiration ttlSeconds session.expiresAt shared.clock)
        if written then (fenced.revokeRow row now reason, .ok (some (session.revoke now reason)))
        else (fenced, .error .inactive)
  | .candidates userID now, shared =>
    (shared, (shared.row.filter fun row =>
      row.userID = userID && row.status = .active && row.expiresAt > now).map (·.afterFind))
  | .revokeLocked now reason, shared =>
    match shared.row.filter (·.status = .active) with
    | none => (shared, none)
    | some row => (shared.revokeRow row now reason, some (row.afterFind.revoke now reason))

/-! ## Calls -/

inductive Outcome where
  /-- A session and no error. -/
  | session (session : UserSession)
  /-- A session with `ErrUserSessionRefreshRace`. -/
  | raced (session : UserSession)
  | created
  | revoked (revoked : Bool)
  /-- The sessions revoked, and an error of a later round. -/
  | affected (total : Nat) (error : Option SessionError)
  | failed (error : SessionError)
deriving DecidableEq

section Code

abbrev Code := Program Answer

abbrev request (op : Op) : Code (Answer op) := Program.perform op

variable (ttlSeconds : Int)

def userSessionCacheDeadline : Code Int := do
  let now ← request .now
  return now + ttlSeconds * second

def writeActiveSnapshot (entry : UserSessionCacheEntry) (cacheDeadline : Int) :
    Code (Option SessionError) := do
  let now ← request .now
  let sessionExpiresAt := entry.expiresAt * second
  if cacheDeadline - now ≤ 0 then return some .stale
  if sessionExpiresAt - now ≤ 0 then return some .inactive
  let cacheExpiresAt := min cacheDeadline sessionExpiresAt
  if cacheExpiresAt - now < millisecond then return some .stale
  let written ← request (.eval { entry with cacheSchema := userSessionCacheSchema }
      (cacheExpiresAt / millisecond))
  if written = false then return some .inactive
  let completedAt ← request .now
  if cacheDeadline ≤ completedAt then return some .stale
  if sessionExpiresAt ≤ completedAt then return some .inactive
  return none

def writeUserSessionCache (entry : UserSessionCacheEntry)
    (cacheDeadline : Option Int) : Code (Option SessionError) := do
  if entry.status = .active then
    match cacheDeadline with
    | none => return some .invalid
    | some cacheDeadline => writeActiveSnapshot entry cacheDeadline
  else
    let now ← request .now
    let written ← request (.eval { entry with cacheSchema := userSessionCacheSchema }
        (denyExpiration ttlSeconds entry.expiresAt now))
    if written = false then return some .inactive
    return none

def writeUserSessionDenyFence (session : UserSession) (status : SessionStatus)
    (now : Int) (reason : String) : Code (Option SessionError) :=
  writeUserSessionCache ttlSeconds (session.denyEntry status now reason) none

def confirmUserSessionActiveSnapshot (session : UserSession) :
    Code (Option SessionError) := do
  if session.sid = "" ∨ session.userID ≤ 0 ∨ session.version ≤ 0 ∨
      session.userAuthVersion ≤ 0 then
    return some .invalid
  let now ← request .now
  let found ← request (.countActive session (now / second))
  if found = false then return some .inactive
  return none

/-- What `getUserSessionCache` finds. -/
inductive CacheLookup where
  | hit (entry : UserSessionCacheEntry)
  | inactive
  /-- No entry, or one that is not a session. -/
  | miss

def getUserSessionCache : Code CacheLookup := do
  match ← request .hGetAll with
  | none => return .miss
  | some entry =>
    if entry.cacheSchema ≠ userSessionCacheSchema ∨ entry.userID ≤ 0 ∨
        entry.version ≤ 0 ∨ entry.userAuthVersion ≤ 0 then
      return .miss
    let now ← request .now
    if entry.status ≠ .active ∨ entry.revokedAt ≠ 0 ∨
        entry.expiresAt ≤ now / second then
      return .inactive
    return .hit entry

def getUserSessionStored : Code Outcome := do
  let cacheDeadline ← userSessionCacheDeadline ttlSeconds
  match ← request .findBySID with
  | none => return .failed .notFound
  | some session =>
    let now ← request .now
    if session.inactiveAt (now / second) then
      let _ ← writeUserSessionCache ttlSeconds { session.cacheEntry with status := .revoked } none
      return .failed .inactive
    match ← writeUserSessionCache ttlSeconds session.cacheEntry (some cacheDeadline) with
    | some .stale =>
      match ← confirmUserSessionActiveSnapshot session with
      | some error => return .failed error
      | none => return .session session
    | some .inactive => return .failed .inactive
    | _ => return .session session

def getUserSessionCached : Code Outcome := do
  match ← getUserSessionCache with
  | .hit entry => return .session entry.session
  | .inactive => return .failed .inactive
  | .miss => getUserSessionStored ttlSeconds

def UserSession.withDefaults (session : UserSession) (now : Int) : UserSession :=
  { session with
    version := if session.version ≤ 0 then 1 else session.version
    lastActiveAt := if session.lastActiveAt = 0 then now else session.lastActiveAt
    createdAt := if session.createdAt = 0 then now else session.createdAt }

def createUserSession (session : UserSession) : Code Outcome := do
  let cacheDeadline ← userSessionCacheDeadline ttlSeconds
  let clock ← request .now
  let now := clock / second
  if session.sid = "" ∨ session.userID ≤ 0 ∨ session.userAuthVersion ≤ 0 ∨
      session.refreshHash = "" ∨ session.expiresAt ≤ now then
    return .failed .invalid
  let session := session.withDefaults now
  if session.status ≠ .active ∨ session.revokedAt ≠ 0 then return .failed .invalid
  let inserted ← request (.create session)
  if inserted = false then return .failed .duplicate
  -- `publishCreatedUserSession`
  match ← writeUserSessionCache ttlSeconds session.cacheEntry (some cacheDeadline) with
  | some .stale =>
    match ← confirmUserSessionActiveSnapshot session with
    | some error => return .failed error
    | none => return .created
  | some .inactive => return .failed .inactive
  | _ => return .created

/-- What `RotateUserSessionRefresh` does with the session it has read; `again`
is the next round of its loop. -/
def rotateLoaded (userID : Int) (presentedHash nextHash : String)
    (now graceSeconds cacheDeadline : Int) (again : Code Outcome)
    (session : UserSession) : Code Outcome := do
  if session.inactiveAt now then return .failed .inactive
  if session.refreshHash = presentedHash then
    let exchanged ← request (.exchange userID now presentedHash nextHash (now + graceSeconds))
    if exchanged = false then again
    else
      let session := { session with
        previousRefreshHash := session.refreshHash
        previousValidUntil := now + graceSeconds
        refreshHash := nextHash
        lastActiveAt := now }
      match ← writeUserSessionCache ttlSeconds session.cacheEntry (some cacheDeadline) with
      | some .stale =>
        match ← confirmUserSessionActiveSnapshot session with
        | some error => return .failed error
        | none => return .session session
      | some .inactive => return .failed .inactive
      | _ => return .session session
  else if session.previousRefreshHash = "" ∨
      session.previousRefreshHash ≠ presentedHash then
    return .failed .refreshInvalid
  else if now ≤ session.previousValidUntil then return .raced session
  else
    match ← writeUserSessionDenyFence ttlSeconds session .revoking now "refresh_reuse" with
    | some error => return .failed error
    | none =>
      let revoked ← request (.revokeReused userID now)
      if revoked = false then return .failed .inactive
      let _ ← writeUserSessionCache ttlSeconds (session.revoke now "refresh_reuse").cacheEntry none
      return .failed .refreshReuse

def rotateRounds (userID : Int) (presentedHash nextHash : String)
    (now graceSeconds : Int) : Nat → Code Outcome
  | 0 => return .failed .refreshInvalid
  | rounds + 1 => do
      let cacheDeadline ← userSessionCacheDeadline ttlSeconds
      match ← request (.findOwned userID) with
      | none => return .failed .notFound
      | some session =>
        rotateLoaded ttlSeconds userID presentedHash nextHash now
          graceSeconds cacheDeadline
          (rotateRounds userID presentedHash nextHash now graceSeconds rounds) session

def rotateUserSessionRefresh (userID : Int) (presentedHash nextHash : String)
    (now grace : Int) : Code Outcome := do
  if userID ≤ 0 ∨ presentedHash = "" ∨ nextHash = "" ∨
      presentedHash = nextHash then
    return .failed .invalid
  let clock ← request .now
  let now := if now ≤ 0 then clock / second else now
  let graceSeconds := grace.tdiv second
  if graceSeconds < 0 then return .failed .invalid
  rotateRounds ttlSeconds userID presentedHash nextHash now graceSeconds 3

def revokeUserSession (userID : Int) (reason : String) : Code Outcome := do
  if userID ≤ 0 then return .failed .invalid
  let clock ← request .now
  let now := clock / second
  match ← request (.findOwned userID) with
  | none => return .revoked false
  | some candidate =>
    if candidate.inactiveAt now then return .revoked false
    match ← writeUserSessionDenyFence ttlSeconds candidate .revoking now reason with
    | some error => return .failed error
    | none =>
      match ← request (.revokeOwned userID now reason) with
      | .error error => return .failed error
      | .ok revoked =>
        if revoked then
          let _ ← writeUserSessionCache ttlSeconds (candidate.revoke now reason).cacheEntry none
        return .revoked revoked

def revokeUserSessionByRefreshHash (presentedHash reason : String) :
    Code Outcome := do
  if presentedHash = "" then return .failed .invalid
  let clock ← request .now
  let now := clock / second
  match ← request (.revokePresented presentedHash now reason) with
  | .error error => return .failed error
  | .ok none => return .revoked false
  | .ok (some session) =>
    let _ ← writeUserSessionCache ttlSeconds session.cacheEntry none
    return .revoked true

def advanceUserSessionAuthVersion (userID expectedSessionVersion
    expectedUserAuthVersion nextUserAuthVersion : Int) : Code Outcome := do
  if userID ≤ 0 ∨ expectedSessionVersion ≤ 0 ∨ expectedUserAuthVersion ≤ 0 ∨
      nextUserAuthVersion ≤ expectedUserAuthVersion then
    return .failed .invalid
  let cacheDeadline ← userSessionCacheDeadline ttlSeconds
  let clock ← request .now
  let now := clock / second
  match ← request (.advance userID now expectedSessionVersion expectedUserAuthVersion
        nextUserAuthVersion) with
  | .error error => return .failed error
  | .ok session =>
    match ← writeUserSessionCache ttlSeconds session.cacheEntry (some cacheDeadline) with
    | none => return .session session
    | some .stale =>
      match ← confirmUserSessionActiveSnapshot session with
      | some error => return .failed error
      | none => return .session session
    | some error => return .failed error

/-- The loop of `revokeUserSessions`; it does not return when the rounds run
out. -/
def revokeRounds (userID now : Int) (reason : String) :
    Nat → Nat → Code (Option Outcome)
  | 0, _ => return none
  | rounds + 1, total => do
      match ← request (.candidates userID now) with
      | none => return some (.affected total none)
      | some candidate =>
        match ← writeUserSessionDenyFence ttlSeconds candidate .revoking now reason with
        | some error => return some (.affected total (some error))
        | none =>
          match ← request (.revokeLocked now reason) with
          | none => revokeRounds userID now reason rounds total
          | some revoked =>
            let _ ← writeUserSessionCache ttlSeconds revoked.cacheEntry none
            revokeRounds userID now reason rounds (total + 1)

def revokeAllUserSessions (userID : Int) (reason : String) (rounds : Nat) :
    Code (Option Outcome) := do
  if userID ≤ 0 then return some (.affected 0 (some .invalid))
  let clock ← request .now
  revokeRounds ttlSeconds userID (clock / second) reason rounds 0

inductive Call where
  | get
  | create (session : UserSession)
  | rotate (userID : Int) (presentedHash nextHash : String) (now grace : Int)
  | advance (userID expectedSessionVersion expectedUserAuthVersion nextUserAuthVersion : Int)
  | revoke (userID : Int) (reason : String)
  | revokeByRefreshHash (presentedHash reason : String)
  | revokeAll (userID : Int) (reason : String) (rounds : Nat)
deriving DecidableEq

def Call.code : Call → Code (Option Outcome)
  | .get => some <$> getUserSessionCached ttlSeconds
  | .create session => some <$> createUserSession ttlSeconds session
  | .rotate userID presentedHash nextHash now grace =>
    some <$> rotateUserSessionRefresh ttlSeconds userID presentedHash nextHash now grace
  | .advance userID expectedSessionVersion expectedUserAuthVersion
      nextUserAuthVersion =>
      some <$> advanceUserSessionAuthVersion ttlSeconds userID
        expectedSessionVersion expectedUserAuthVersion nextUserAuthVersion
  | .revoke userID reason => some <$> revokeUserSession ttlSeconds userID reason
  | .revokeByRefreshHash presentedHash reason =>
    some <$> revokeUserSessionByRefreshHash ttlSeconds presentedHash reason
  | .revokeAll userID reason rounds => revokeAllUserSessions ttlSeconds userID reason rounds

def machine : Machine Answer Call Nat Shared (Option Outcome) where
  code := Call.code ttlSeconds
  perform := Shared.perform ttlSeconds
  outside elapsed shared := { shared with clock := shared.clock + elapsed }

end Code

end NewApi.Sessions
