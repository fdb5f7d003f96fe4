import NewApi.Channels.ChannelSelection

/-!
# The retry loop of a relay request

After a failure a request first rotates through other keys of its channel and
then fails over to other channels.  A `Turn` is what happens outside the loop in
one round: the random numbers, the reply of the upstream, and which of the
reported automatic disables reach the database.
-/

namespace NewApi.Relay

open GoStrings NewApi.Channels Transactions

def maxMultiKeyFailuresBeforeFailover : Nat := 3

structure MultiKeyRetryHold where
  channelID : Nat
  usedKeys : List String
  attempts : Nat

/-- The auto groups of a request, which `NormalizeNameList` made distinct. -/
structure AutoGroups where
  names : List String
  distinct : names.Nodup

inductive TokenGroup where
  | named (group : String)
  | auto (groups : AutoGroups) (crossGroupRetry : Bool)

structure RelaySettings where
  retryTimes : Nat
  tokenGroup : TokenGroup
  modelName : String
  requestPath : String
  channelFilter : Option (RoutedChannel → Bool)
  memoryCacheEnabled : Bool

/-- An error as the loop sees it: what `shouldRetry` says of it beside the
budget, and `SameChannelKeyRotationAllowed`. -/
structure RelayFailure where
  retryable : Bool
  rotationAllowed : Bool

structure RetryLoop where
  state : RoutingState
  /-- `failed_channel_ids`. -/
  failedChannelIds : List Nat
  retry : Nat
  autoGroupIndex : Option Nat
  /-- The group in which the current channel was selected. -/
  selectedGroup : String
  hold : Option MultiKeyRetryHold
  /-- `info.ChannelMeta != nil`. -/
  channelMeta : Bool
  channelId : Nat
  channelKey : String
  channelIsMultiKey : Bool
  /-- `use_channel`, with the group of each channel. -/
  useChannel : List (String × Nat)
  /-- The requests sent, by channel and key. -/
  sent : List (Nat × String)
  /-- The channels and keys given to `processChannelError`. -/
  reported : List (Nat × String)

structure Landing where
  report : Nat
  reason : String
  now : Int

structure Turn where
  beforeChoice : List Landing
  rolls : Nat → Nat
  beforeKey : List Landing
  /-- The refusals of the setup before it resolves a key. -/
  setupError : Option RelayFailure
  keyRoll : Nat
  keyError : RelayFailure
  /-- The price, the billing and the body are there. -/
  prepared : Bool
  /-- The handler comes to `InitChannelMeta`. -/
  reachesMeta : Bool
  reply : Option RelayFailure
  beforeRecord : List Landing

namespace RetryLoop

section Loop

variable [JsonCodec] [HostSort]

/-- `DisableChannel` for reports, in the order in which they land. -/
def land (loop : RetryLoop) : List Landing → RetryLoop
  | [] => loop
  | landing :: landings =>
    match loop.reported[landing.report]? with
    | none => loop.land landings
    | some (channelId, usingKey) =>
      let tables := commit loop.state.tables
        (loop.state.tables.updateChannelStatus channelId usingKey
          channelStatusAutoDisabled landing.reason landing.now)
      land { loop with state := { loop.state with tables := tables } } landings

def nextUnusedEnabledKey (channel : Channel) (used : List String) :
    Option String :=
  ((channel.getKeys.zipIdx.find? fun (key, index) =>
    trimSpace key ≠ "" && trimSpace key ∉ used &&
      multiKeyStatus channel.channelInfo.multiKeyStatusList index =
        channelStatusEnabled)).map fun (key, _) => trimSpace key

def clearHold (loop : RetryLoop) : RetryLoop := { loop with hold := none }

def rememberFailedMultiKey (loop : RetryLoop) (channelID : Nat) (failedKey : String) :
    RetryLoop × Bool :=
  let cleared := (loop.clearHold, false)
  if channelID = 0 ∨ loop.channelIsMultiKey = false then cleared
  else
    match loop.state.tables.channels.lookup channelID with
    | none => cleared
    | some channel =>
      if channel.channelInfo.isMultiKey = false ∨ channel.status ≠ channelStatusEnabled then cleared
      else
        let hold := (loop.hold.filter (·.channelID = channelID)).getD ⟨channelID, [], 0⟩
        let hold :=
          if trimSpace failedKey ≠ "" then
            { hold with usedKeys := trimSpace failedKey :: hold.usedKeys }
          else hold
        let hold := { hold with attempts := hold.attempts + 1 }
        if hold.attempts ≥ maxMultiKeyFailuresBeforeFailover then cleared
        else
          match nextUnusedEnabledKey channel hold.usedKeys with
          | none => cleared
          | some _ => ({ loop with hold := some hold }, true)

def takeMultiKeyRetryKey (loop : RetryLoop) :
    RetryLoop × Option (RoutedChannel × String) :=
  match loop.hold with
  | none => (loop, none)
  | some hold =>
    if hold.channelID = 0 then (loop, none)
    else
      match loop.state.find hold.channelID with
      | none => (loop.clearHold, none)
      | some channel =>
        if channel.status ≠ channelStatusEnabled ∨
            channel.channelInfo.isMultiKey = false then
          (loop.clearHold, none)
        else
          match nextUnusedEnabledKey channel.toChannel hold.usedKeys with
          | none => (loop.clearHold, none)
          | some key => (loop, some (channel, key))

def enabledIndexes (channel : Channel) : List Nat :=
  (List.range channel.getKeys.length).filter fun index =>
    trimSpace (channel.getKeys.getD index "") ≠ "" &&
      multiKeyStatus channel.channelInfo.multiKeyStatusList index = channelStatusEnabled

def getNextEnabledKey (tables : RoutingTables) (channel : Channel) (keyRoll : Nat) :
    Option (String × RoutingTables) :=
  if channel.channelInfo.isMultiKey = false then some (channel.key, tables)
  else
    match tables.channels.lookup channel.id with
    | none => none
    | some fresh =>
      let keys := fresh.getKeys
      let enabledIdx := enabledIndexes fresh
      match enabledIdx with
      | [] => none
      | first :: _ =>
        match fresh.channelInfo.multiKeyMode with
        | .random =>
          some (keys.getD (enabledIdx.getD (keyRoll % enabledIdx.length) first) "", tables)
        | .polling =>
          let cursor := fresh.channelInfo.multiKeyPollingIndex
          let start := if cursor < 0 ∨ cursor ≥ keys.length then 0 else cursor.toNat
          (RoutingTables.nextPollingIndex keys
            fresh.channelInfo.multiKeyStatusList start).map fun index =>
              (keys.getD index "", tables.getNextEnabledKey channel.id)
        | .other _ => some (keys.getD first "", tables)

def resolveReusableKey (tables : RoutingTables) (channel : Channel) (preferredKey : String)
    (keyRoll : Nat) : Option (String × RoutingTables) :=
  if trimSpace preferredKey = "" then getNextEnabledKey tables channel keyRoll
  else some (trimSpace preferredKey, tables)

def setupContextForSelectedChannelWithKey
    (loop : RetryLoop) (channel : RoutedChannel) (preferredKey : String)
    (turn : Turn) : RetryLoop × Option RelayFailure :=
  match turn.setupError with
  | some failure => (loop, some failure)
  | none =>
    let named := { loop with channelId := channel.id }
    match resolveReusableKey loop.state.tables channel.toChannel preferredKey turn.keyRoll with
    | none => (named, some turn.keyError)
    | some (key, tables) =>
      ({ named with
          state := { loop.state with tables := tables }
          channelKey := key
          channelIsMultiKey := channel.channelInfo.isMultiKey }, none)

inductive Selection where
  /-- An error, such as "auto groups is not enabled". -/
  | error
  | nobody
  | channel (channel : RoutedChannel)

def pickRequest (settings : RelaySettings) (loop : RetryLoop) (group : String)
    (priorityRetry : Nat) : PickRequest where
  group := group
  model := settings.modelName
  retry := priorityRetry
  excludeChannelIds := loop.failedChannelIds.map Int.ofNat
  requestPath := settings.requestPath
  channelFilter := settings.channelFilter

def pick (settings : RelaySettings) (loop : RetryLoop) (group : String)
    (priorityRetry roll : Nat) : Pick :=
  (loop.state.getRandomSatisfiedChannelWithExcludeAndFilter
    settings.memoryCacheEnabled
    (pickRequest settings loop group priorityRetry)).run roll

def searchGroups (settings : RelaySettings) (crossGroupRetry : Bool) (rolls : Nat → Nat) :
    RetryLoop → Nat → List String → RetryLoop × Selection
  | loop, _, [] => (loop, .nobody)
  | loop, index, group :: groups =>
    match pick settings loop group loop.retry (rolls index) with
    | .error _ => (loop, .error)
    | .ok (some channel) =>
      ({ loop with autoGroupIndex := some index, selectedGroup := group }, .channel channel)
    | .ok none =>
      if groups ≠ [] ∧ crossGroupRetry = false then (loop, .error)
      else
        searchGroups settings crossGroupRetry rolls
          { loop with autoGroupIndex := some (index + 1), retry := 0 }
          (index + 1) groups

def cacheGetRandomSatisfiedChannel
    (settings : RelaySettings) (loop : RetryLoop) (rolls : Nat → Nat) :
    RetryLoop × Selection :=
  match settings.tokenGroup with
  | .auto groups crossGroupRetry =>
    if groups.names = [] then (loop, .error)
    else
      let startGroupIndex := loop.autoGroupIndex.getD 0
      searchGroups settings crossGroupRetry rolls loop startGroupIndex
        (groups.names.drop startGroupIndex)
  | .named group =>
    match pick settings loop group loop.retry (rolls 0) with
    | .error _ => (loop, .error)
    | .ok none => (loop, .nobody)
    | .ok (some channel) => ({ loop with selectedGroup := group }, .channel channel)

inductive Chosen where
  | channel (id : Nat)
  /-- An error for a channel that was selected. -/
  | refused (id : Nat) (failure : RelayFailure)
  /-- An error without a channel. -/
  | missing

def chosenAfterSetup (id : Nat) (failure : Option RelayFailure) : Chosen :=
  match failure with
  | none => .channel id
  | some failure => .refused id failure

def getChannel (settings : RelaySettings) (loop : RetryLoop) (turn : Turn) :
    RetryLoop × Chosen :=
  match loop.takeMultiKeyRetryKey with
  | (loop, some (channel, key)) =>
    let (next, failure) := setupContextForSelectedChannelWithKey
      (loop.land turn.beforeKey) channel key turn
    (if failure.isSome then next.clearHold else next, chosenAfterSetup channel.id failure)
  | (loop, none) =>
    if loop.channelMeta = false ∧ loop.channelId ≠ 0 ∧
        loop.channelId ∉ loop.failedChannelIds then
      (loop, .channel loop.channelId)
    else
      match cacheGetRandomSatisfiedChannel settings loop turn.rolls with
      | (loop, .error) => (loop, .missing)
      | (loop, .nobody) => (loop, .missing)
      | (loop, .channel channel) =>
        let (next, failure) := setupContextForSelectedChannelWithKey
          (loop.land turn.beforeKey) channel "" turn
        (next, chosenAfterSetup channel.id failure)

def addFailedChannel (loop : RetryLoop) (channelId : Nat) : RetryLoop :=
  if channelId = 0 ∨ channelId ∈ loop.failedChannelIds then loop
  else { loop with failedChannelIds := loop.failedChannelIds ++ [channelId] }

def addUsedChannel (loop : RetryLoop) (channelId : Nat) : RetryLoop :=
  { loop with useChannel := loop.useChannel ++ [(loop.selectedGroup, channelId)] }

def processChannelError (loop : RetryLoop) (channelId : Nat) : RetryLoop :=
  { loop with reported := loop.reported ++ [(channelId, loop.channelKey)] }

def increaseRetry (loop : RetryLoop) : RetryLoop := { loop with retry := loop.retry + 1 }

def shouldRetry (settings : RelaySettings) (loop : RetryLoop) (failure : RelayFailure) :
    Bool :=
  loop.retry < settings.retryTimes && failure.retryable

inductive Round where
  | again (loop : RetryLoop)
  | ended (loop : RetryLoop)

def afterFailure (settings : RelaySettings) (loop : RetryLoop) (channelId : Nat)
    (failure : RelayFailure) : Round :=
  let (remembered, rotatedKey) := loop.rememberFailedMultiKey channelId loop.channelKey
  let recorded := if rotatedKey then remembered else remembered.addFailedChannel channelId
  let processed := recorded.processChannelError channelId
  if rotatedKey ∧ failure.rotationAllowed then .again processed
  else if shouldRetry settings processed failure = false then .ended processed
  else if rotatedKey then .again processed
  else .again processed.increaseRetry

def attempt (settings : RelaySettings) (loop : RetryLoop) (channelId : Nat) (turn : Turn) : Round :=
  let used := loop.addUsedChannel channelId
  if turn.prepared = false then .ended used
  else
    let sent :=
      { used with
        channelMeta := used.channelMeta || turn.reachesMeta
        sent := used.sent ++ [(channelId, used.channelKey)] }
    match turn.reply with
    | none => .ended sent
    | some failure => afterFailure settings (sent.land turn.beforeRecord) channelId failure

def round (settings : RelaySettings) (loop : RetryLoop) (turn : Turn) : Round :=
  match getChannel settings (loop.land turn.beforeChoice) turn with
  | (loop, .missing) => .ended loop
  | (loop, .refused channelId failure) =>
    let processed := ((loop.addUsedChannel channelId).addFailedChannel
      channelId).processChannelError channelId
    if shouldRetry settings processed failure then .again processed.increaseRetry
    else .ended processed
  | (loop, .channel channelId) => attempt settings loop channelId turn

def relay (settings : RelaySettings) : RetryLoop → List Turn → Round
  | loop, [] => .again loop
  | loop, turn :: turns =>
    match round settings loop turn with
    | .again next => relay settings next turns
    | .ended final => .ended final

end Loop

end RetryLoop

end NewApi.Relay
