import NewApi.Channels.ChannelRow
import NewApi.Lib.BulkStatements
import NewApi.Lib.Transactions

/-!
# Channels and abilities

Routing reads the table of abilities, which repeats for each group and model of
a channel what the row of the channel says.  Every operation on channels runs
in a transaction over both tables; a failed one leaves them as they were.
-/

namespace NewApi.Channels

open GoStrings Distinct Transactions

structure Ability where
  group : String
  model : String
  channelId : Nat
  enabled : Bool
  priority : Option Int
  weight : Nat
  tag : Option String
deriving DecidableEq

def Ability.key (ability : Ability) : String × String × Nat :=
  (ability.group, ability.model, ability.channelId)

def Ability.withEnabled (ability : Ability) (enabled : Bool) : Ability :=
  { ability with enabled := enabled }

theorem Ability.key_withEnabled (enabled : Bool) (ability : Ability) :
    (ability.withEnabled enabled).key = ability.key :=
  rfl

def Ability.withColumns (ability : Ability) (tag : Option String) (priority : Option Int)
    (weight : Option Nat) : Ability :=
  { ability with
    tag := tag <|> ability.tag
    priority := priority <|> ability.priority
    weight := weight.getD ability.weight }

theorem Ability.key_withColumns (tag : Option String) (priority : Option Int) (weight : Option Nat)
    (ability : Ability) :
    (ability.withColumns tag priority weight).key = ability.key :=
  rfl

structure RoutingTables where
  channels : KeyedTable Channel.id
  abilities : KeyedTable Ability.key

def RoutingTables.empty : RoutingTables where
  channels := KeyedTable.empty
  abilities := KeyedTable.empty

inductive RoutingError where
  /-- "channel ID is 0", "channel id is required". -/
  | idZero
  | recordNotFound
  | duplicatedKey
  /-- "multi-key index out of range". -/
  | multiKeyIndexOutOfRange
  /-- "cannot delete the last multi-key". -/
  | cannotDeleteLastMultiKey
  /-- "no auto-disabled multi-key". -/
  | noAutoDisabledMultiKey
  /-- "no disableable multi-key". -/
  | noDisableableMultiKey
  /-- "channel routing unchanged". -/
  | channelRoutingUnchanged
  /-- "failed to disable channel #%d by tag". -/
  | tagDisableRefused (id : Nat)
deriving DecidableEq

abbrev RoutingResult := Except RoutingError RoutingTables

/-- The ability of a channel in a group for a model.  `Create` writes the
column default for a missing priority. -/
def Channel.ability (channel : Channel) (group model : String) : Ability where
  group := group
  model := model
  channelId := channel.id
  enabled := channel.status = channelStatusEnabled
  priority := some channel.getPriority
  weight := channel.getWeight
  tag := channel.tag

def namePairs (models group : String) : List (String × String) :=
  (splitCommaSeparated models).flatMap fun model =>
    (splitCommaSeparated group).map fun group => (group, model)

def pairKey (pair : String × String) : String := pair.1 ++ "|" ++ pair.2

def RoutingColumns.abilityPairs (columns : RoutingColumns) :
    List (String × String) :=
  distinctBy pairKey [] (namePairs columns.models columns.group)

def Channel.abilityRows (channel : Channel) : List Ability :=
  channel.abilityPairs.map fun pair => channel.ability pair.1 pair.2

namespace RoutingTables

def addAbilities (tables : RoutingTables) (channel : Channel) : RoutingTables :=
  { tables with abilities := tables.abilities.insertAllIgnore channel.abilityRows }

def deleteAbilities (tables : RoutingTables) (ids : List Nat) : RoutingTables :=
  { tables with abilities := tables.abilities.deleteWhere fun row => row.channelId ∈ ids }

def updateAbilities (tables : RoutingTables) (id : Nat) : RoutingResult :=
  match tables.channels.lookup id with
  | none => .error .recordNotFound
  | some stored => .ok ((tables.deleteAbilities [id]).addAbilities stored)

def updateAbilitiesOf (tables : RoutingTables) : List Nat → RoutingResult
  | [] => .ok tables
  | id :: ids => (tables.updateAbilities id).bind fun tables => tables.updateAbilitiesOf ids

def updateAbilityRows (tables : RoutingTables) (test : Ability → Bool) (change : Ability → Ability)
    (sameKey : ∀ row, (change row).key = row.key) : RoutingTables :=
  { tables with abilities := tables.abilities.update test change sameKey }

def updateAbilityEnabled (tables : RoutingTables) (channelId : Nat) (enabled : Bool) :
    RoutingTables :=
  tables.updateAbilityRows (fun row => row.channelId = channelId)
    (·.withEnabled enabled) (Ability.key_withEnabled enabled)

def updateAbilityStatusByTag
    (tables : RoutingTables) (tag : String) (status : Bool) : RoutingTables :=
  tables.updateAbilityRows (fun row => row.tag = some tag)
    (·.withEnabled status) (Ability.key_withEnabled status)

/-- `updateAbilityByTagIDs`; without ids it is `updateAbilityByTag`. -/
def updateAbilityByTagIDs (tables : RoutingTables) (channelIDs : Option (List Nat)) (tag : String)
    (newTag : Option String) (priority : Option Int) (weight : Option Nat) :
    RoutingTables :=
  tables.updateAbilityRows
    (fun row => row.tag = some tag && channelIDs.all (row.channelId ∈ ·))
    (·.withColumns newTag priority weight)
    (Ability.key_withColumns newTag priority weight)

def updateChannels (tables : RoutingTables) (test : Channel → Bool) (change : Channel → Channel)
    (sameId : ∀ row, (change row).id = row.id) : RoutingTables :=
  { tables with channels := tables.channels.update test change sameId }

def lockChannelForUpdate (tables : RoutingTables) (channelID : Nat) :
    Except RoutingError Channel :=
  if channelID = 0 then .error .idZero
  else
    match tables.channels.lookup channelID with
    | none => .error .recordNotFound
    | some channel => .ok channel

def channelsByTag (tables : RoutingTables) (tag : String) : List Channel :=
  tables.channels.listing fun row => row.tag = some tag

/-- The columns that `channelUpdateColumns` may name.  The texts, the key and
the key document are those of the receiver. -/
structure ColumnUpdates where
  key : Bool
  models : Bool
  group : Bool
  channelInfo : Bool
  status : Option Int
  otherInfo : Option OtherInfo
  priority : Option (Option Int)
  weight : Option (Option Nat)
  tag : Option (Option String)

def ColumnUpdates.apply (updates : ColumnUpdates) (channel stored : Channel) : Channel :=
  { stored with
    key := if updates.key then channel.key else stored.key
    models := if updates.models then channel.models else stored.models
    group := if updates.group then channel.group else stored.group
    channelInfo := if updates.channelInfo then channel.channelInfo else stored.channelInfo
    status := updates.status.getD stored.status
    otherInfo := updates.otherInfo.getD stored.otherInfo
    priority := updates.priority.getD stored.priority
    weight := updates.weight.getD stored.weight
    tag := updates.tag.getD stored.tag }

theorem ColumnUpdates.id_apply (updates : ColumnUpdates) (channel stored : Channel) :
    (updates.apply channel stored).id = stored.id :=
  rfl

/-- The arguments of `EditChannelByTag` beside the tag.  `otherColumns` says
that a model mapping or an override is among them. -/
structure TagEdit where
  newTag : Option String
  models : Option String
  group : Option String
  priority : Option Int
  weight : Option Nat
  otherColumns : Bool

def TagEdit.isEmpty (edit : TagEdit) (tag : String) : Bool :=
  edit.newTag.all (· = tag) && edit.models.isNone && edit.group.isNone &&
    edit.priority.isNone && edit.weight.isNone && !edit.otherColumns

def TagEdit.apply (edit : TagEdit) (stored : Channel) : Channel :=
  { stored with
    tag := edit.newTag <|> stored.tag
    models := (edit.models.map normalizeCommaSeparated).getD stored.models
    group := (edit.group.map normalizeCommaSeparated).getD stored.group
    priority := edit.priority <|> stored.priority
    weight := edit.weight <|> stored.weight }

theorem TagEdit.id_apply (edit : TagEdit) (stored : Channel) : (edit.apply stored).id = stored.id :=
  rfl

section Statements

variable [JsonCodec]

def saveStatusState (tables : RoutingTables) (snapshot : ChannelSnapshot) :
    RoutingTables :=
  tables.updateChannels (fun row => row.id = snapshot.channel.id)
    snapshot.statusRow snapshot.id_statusRow

def saveKeyManagementState (tables : RoutingTables) (snapshot : ChannelSnapshot)
    (includeKey : Bool) : RoutingResult :=
  (tables.updateChannels (fun row => row.id = snapshot.channel.id)
    (snapshot.keyManagementRow includeKey)
    (snapshot.id_keyManagementRow includeKey)).updateAbilities snapshot.channel.id

def persistMultiKeyPollingIndex (tables : RoutingTables) (channelID : Nat) (nextIndex : Int) :
    RoutingResult :=
  if (tables.channels.lookup channelID).any (·.channelInfo.isMultiKey) then
    .ok (tables.updateChannels (fun row => row.id = channelID)
      (·.withPollingIndex nextIndex) (Channel.id_withPollingIndex nextIndex))
  else .error .recordNotFound

def disableMultiKey (tables : RoutingTables) (channelID : Nat) (keyIndex : Int) (now : Int) :
    RoutingResult :=
  (tables.lockChannelForUpdate channelID).bind fun channel =>
    if keyIndex < 0 ∨ keyIndex ≥ channel.channelInfo.multiKeySize then
      .error .multiKeyIndexOutOfRange
    else
      let index := keyIndex.toNat
      let synced := syncChannelStatusWithEnabledKeys
        { channel with
          channelInfo := channel.channelInfo.disableKey index
            channelStatusManuallyDisabled "manual disable" now }
        "key disabled" now
      let touched :=
        { synced with
          channelInfo := synced.channelInfo.withMaps
            (AList.singleton index channelStatusManuallyDisabled)
            (AList.singleton index "manual disable")
            (AList.singleton index now) }
      tables.saveKeyManagementState touched.snapshot false

def enableMultiKey (tables : RoutingTables) (channelID : Nat) (keyIndex : Int) (now : Int) :
    RoutingResult :=
  (tables.lockChannelForUpdate channelID).bind fun channel =>
    if keyIndex < 0 ∨ keyIndex ≥ channel.channelInfo.multiKeySize then
      .error .multiKeyIndexOutOfRange
    else
      let index := keyIndex.toNat
      let synced := syncChannelStatusWithEnabledKeys
        { channel with channelInfo := channel.channelInfo.clearKey index } "" now
      let touched := { synced with channelInfo := synced.channelInfo.withMaps ∅ ∅ ∅ }
      tables.saveKeyManagementState (touched.snapshot.markMultiKeyStatusCleared index) false

def enableAllMultiKeys (tables : RoutingTables) (channelID : Nat) (now : Int) : RoutingResult :=
  (tables.lockChannelForUpdate channelID).bind fun channel =>
    let synced := syncChannelStatusWithEnabledKeys
      { channel with channelInfo := channel.channelInfo.withMaps ∅ ∅ ∅ } "" now
    tables.saveKeyManagementState synced.snapshot.markMultiKeyStatusReplaced false

def disableableKeys (info : ChannelInfo) : List Nat :=
  (List.range info.multiKeySize).filter fun index =>
    multiKeyStatus info.multiKeyStatusList index = channelStatusEnabled

def disableAllMultiKeys (tables : RoutingTables) (channelID : Nat) (now : Int) : RoutingResult :=
  (tables.lockChannelForUpdate channelID).bind fun channel =>
    let indexes := disableableKeys channel.channelInfo
    if indexes = [] then .error .noDisableableMultiKey
    else
      let info := indexes.foldl
        (fun info index => info.disableKey index channelStatusManuallyDisabled "manual disable" now)
        channel.channelInfo
      let synced := syncChannelStatusWithEnabledKeys
        { channel with channelInfo := info } "all keys disabled" now
      tables.saveKeyManagementState synced.snapshot false

def noKeys : Reindexed := ⟨[], ∅, ∅, ∅⟩

def keptWithoutKey (channel : Channel) (index : Nat) : Reindexed :=
  reindexKeys channel.channelInfo (· = index)
    (Reindexed.keep channel.channelInfo) noKeys 0 channel.getKeys

def deleteMultiKeyAtIndex (tables : RoutingTables) (channelID : Nat) (keyIndex : Int) (now : Int) :
    RoutingResult :=
  (tables.lockChannelForUpdate channelID).bind fun channel =>
    if keyIndex < 0 ∨ keyIndex ≥ channel.getKeys.length then .error .multiKeyIndexOutOfRange
    else
      let kept := keptWithoutKey channel keyIndex.toNat
      if kept.remaining = [] then .error .cannotDeleteLastMultiKey
      else
        let cursor := shiftMultiKeyPollingIndex
          channel.channelInfo.multiKeyPollingIndex [keyIndex.toNat]
          kept.remaining.length
        (tables.saveKeyManagementState
          (applyReindexedKeys channel kept "key deleted" now) true).bind
          fun tables => tables.persistMultiKeyPollingIndex channelID cursor

def isAutoDisabled (info : ChannelInfo) (index : Nat) : Bool :=
  multiKeyStatus info.multiKeyStatusList index = channelStatusAutoDisabled

def keptWithoutAutoDisabled (channel : Channel) : Reindexed :=
  reindexKeys channel.channelInfo (isAutoDisabled channel.channelInfo)
    (Reindexed.keepDisabled channel.channelInfo) noKeys 0 channel.getKeys

def deleteAutoDisabledMultiKeys
    (tables : RoutingTables) (channelID : Nat) (now : Int) : RoutingResult :=
  (tables.lockChannelForUpdate channelID).bind fun channel =>
    let removed := (List.range channel.getKeys.length).filter (isAutoDisabled channel.channelInfo)
    if removed = [] then .error .noAutoDisabledMultiKey
    else
      let kept := keptWithoutAutoDisabled channel
      let cursor := shiftMultiKeyPollingIndex
        channel.channelInfo.multiKeyPollingIndex removed kept.remaining.length
      (tables.saveKeyManagementState
        (applyReindexedKeys channel kept "disabled keys deleted" now) true).bind
        fun tables => tables.persistMultiKeyPollingIndex channelID cursor

def updateChannelStatus (tables : RoutingTables) (channelId : Nat) (usingKey : String)
    (status : Int) (reason : String) (now : Int) : RoutingResult :=
  let refreshReasonOnly := decide (status = channelStatusAutoDisabled ∧ trimSpace reason ≠ "")
  (tables.lockChannelForUpdate channelId).bind fun channel =>
    match applyChannelStatusLocked channel usingKey status reason refreshReasonOnly now with
    | none => .error .channelRoutingUnchanged
    | some (snapshot, abilitiesFollow) =>
      let saved := tables.saveStatusState snapshot
      .ok (if abilitiesFollow then
          saved.updateAbilityEnabled channelId (snapshot.channel.status = channelStatusEnabled)
        else saved)

def nextPollingIndex (keys : List String) (statusList : IndexMap Int) (start : Nat) :
    Option Nat :=
  ((List.range keys.length).map fun step => (start + step) % keys.length).find?
    fun index =>
      trimSpace (keys.getD index "") ≠ "" && multiKeyStatus statusList index = channelStatusEnabled

/-- The tables after `GetNextEnabledKey`: the polling mode moves the
cursor, and a failure to store it is only logged. -/
def getNextEnabledKey (tables : RoutingTables) (channelID : Nat) :
    RoutingTables :=
  match tables.channels.lookup channelID with
  | none => tables
  | some fresh =>
    if fresh.channelInfo.isMultiKey ∧
        fresh.channelInfo.multiKeyMode = .polling then
      let keys := fresh.getKeys
      let cursor := fresh.channelInfo.multiKeyPollingIndex
      let start := if cursor < 0 ∨ cursor ≥ keys.length then 0 else cursor.toNat
      match nextPollingIndex keys fresh.channelInfo.multiKeyStatusList start with
      | none => tables
      | some index =>
        commit tables (tables.persistMultiKeyPollingIndex channelID
          ((index + 1) % keys.length : Nat))
    else tables

/-! ## Operations on channels -/

def normalizeNames (channel : Channel) : Channel :=
  { channel with
    models := normalizeCommaSeparated channel.models
    group := normalizeCommaSeparated channel.group }

/-- `Create` writes the column defaults for zero values. -/
def withColumnDefaults (channel : Channel) : Channel :=
  { channel with
    status := if channel.status = 0 then 1 else channel.status
    group := if channel.group = "" then "default" else channel.group
    priority := some channel.getPriority
    weight := some channel.getWeight }

/-- `tx.Create` of a channel whose id the database or the caller chose. -/
def create (tables : RoutingTables) (channel : Channel) : RoutingResult :=
  match tables.channels.create channel with
  | none => .error .duplicatedKey
  | some channels => .ok { tables with channels := channels }

def insert (tables : RoutingTables) (channel : Channel) : RoutingResult :=
  let channel := withColumnDefaults (normalizeNames channel)
  (tables.create channel).map fun tables => tables.addAbilities channel

def insertChunk (tables : RoutingTables) (chunk : List Channel) :
    RoutingResult :=
  let channels := chunk.map fun channel => withColumnDefaults (normalizeNames channel)
  (channels.foldlM create tables).map fun tables => channels.foldl addAbilities tables

def batchInsertChannels (tables : RoutingTables) (channels : List Channel) :
    RoutingResult :=
  (channels.toChunks 50).foldlM insertChunk tables

def dropBeyond {α : Type} (map : IndexMap α) (size : Nat) : IndexMap α :=
  (map.keys.filter (size ≤ ·)).foldl (fun map index => map.erase index) map

def prepareForUpdate (tables : RoutingTables) (channel : Channel) : Channel :=
  let named := normalizeNames channel
  if channel.channelInfo.isMultiKey then
    let keyStr :=
      if channel.key ≠ "" then channel.key
      else ((tables.channels.lookup channel.id).map (·.key)).getD ""
    let size := (parseChannelKeyList keyStr).length
    let info := channel.channelInfo
    { named with
      channelInfo :=
        { info.withMaps (dropBeyond info.multiKeyStatusList size)
            (dropBeyond info.multiKeyDisabledReason size)
            (dropBeyond info.multiKeyDisabledTime size) with
          multiKeySize := size } }
  else named

def updateColumns (tables : RoutingTables) (channel : Channel) (updates : ColumnUpdates) :
    RoutingResult :=
  let prepared := tables.prepareForUpdate channel
  (tables.updateChannels (fun row => row.id = channel.id)
    (updates.apply prepared) (updates.id_apply prepared)).updateAbilities channel.id

def delete (tables : RoutingTables) (id : Nat) : RoutingResult :=
  if id = 0 then .error .idZero
  else
    .ok (deleteAbilities { tables with channels := tables.channels.delete id } [id])

def deleteChunk (tables : RoutingTables) (chunk : List Nat) : RoutingTables :=
  deleteAbilities
    { tables with channels := tables.channels.deleteWhere fun row => row.id ∈ chunk } chunk

def batchDeleteChannels (tables : RoutingTables) (ids : List Nat) :
    RoutingTables :=
  (ids.toChunks 200).foldl deleteChunk tables

def batchSetChannelTag (tables : RoutingTables) (ids : List Nat) (tag : Option String) :
    RoutingResult :=
  (tables.updateChannels (fun row => row.id ∈ ids)
    (·.withTag tag) (Channel.id_withTag tag)).updateAbilitiesOf
      ((tables.channels.rows.filter fun row => row.id ∈ ids).map Channel.id)

def fixAbility (tables : RoutingTables) : RoutingTables :=
  tables.channels.rows.foldl addAbilities { tables with abilities := KeyedTable.empty }

def tagEnabled (channel : Channel) (now : Int) : ChannelSnapshot :=
  let enabled :=
    ({ channel with status := channelStatusEnabled } : Channel).withReason "tag enabled" now
  if channel.channelInfo.isMultiKey then
    ({ enabled with channelInfo := channel.channelInfo.withMaps ∅ ∅ ∅ }
      : Channel).snapshot.markMultiKeyStatusReplaced
  else enabled.snapshot

def enableChannelByTag (tables : RoutingTables) (tag : String) (now : Int) :
    RoutingTables :=
  ((tables.channelsByTag tag).foldl
    (fun tables channel => tables.saveStatusState (tagEnabled channel now))
    tables).updateAbilityStatusByTag tag true

def disableExhausted (now : Int) :
    RoutingTables → List Channel → RoutingResult
  | tables, [] => .ok tables
  | tables, channel :: channels =>
    if channel.channelInfo.isMultiKey = false ∨
        channel.otherInfo.statusReason ≠ some "All keys are disabled" then
      disableExhausted now tables channels
    else if channel.status = channelStatusManuallyDisabled then
      .error (.tagDisableRefused channel.id)
    else
      disableExhausted now
        (tables.saveStatusState (handlerMultiKeyUpdate channel ""
          channelStatusManuallyDisabled "manual tag operation" now).snapshot)
        channels

def disableChannelByTag (tables : RoutingTables) (tag : String) (now : Int) :
    RoutingResult :=
  (disableExhausted now tables (tables.channelsByTag tag)).map fun tables =>
    (tables.updateChannels (fun row => row.tag = some tag)
      (·.withStatus channelStatusManuallyDisabled)
      (Channel.id_withStatus channelStatusManuallyDisabled)).updateAbilityStatusByTag tag false

def editChannelByTag (tables : RoutingTables) (tag : String) (edit : TagEdit) :
    RoutingResult :=
  if edit.isEmpty tag then
    .ok (tables.updateAbilityByTagIDs none tag edit.newTag edit.priority edit.weight)
  else
    let ids := (tables.channelsByTag tag).map Channel.id
    if ids = [] then .ok tables
    else
      let edited := tables.updateChannels (fun row => row.id ∈ ids) edit.apply edit.id_apply
      if edit.models.isNone && edit.group.isNone then
        .ok (edited.updateAbilityByTagIDs (some ids) tag edit.newTag edit.priority edit.weight)
      else edited.updateAbilitiesOf ids

inductive Operation where
  | insert (channel : Channel)
  | batchInsertChannels (channels : List Channel)
  | updateColumns (channel : Channel) (updates : ColumnUpdates)
  | updateChannelStatus (id : Nat) (usingKey : String) (status : Int) (reason : String)
  | disableMultiKey (id : Nat) (keyIndex : Int)
  | enableMultiKey (id : Nat) (keyIndex : Int)
  | enableAllMultiKeys (id : Nat)
  | disableAllMultiKeys (id : Nat)
  | deleteMultiKeyAtIndex (id : Nat) (keyIndex : Int)
  | deleteAutoDisabledMultiKeys (id : Nat)
  | getNextEnabledKey (id : Nat)
  | enableChannelByTag (tag : String)
  | disableChannelByTag (tag : String)
  | editChannelByTag (tag : String) (edit : TagEdit)
  | batchSetChannelTag (ids : List Nat) (tag : Option String)
  | delete (id : Nat)
  | batchDeleteChannels (ids : List Nat)
  | fixAbility

structure Call where
  operation : Operation
  now : Int

def Call.run (call : Call) (tables : RoutingTables) : RoutingResult :=
  match call.operation with
  | .insert channel => tables.insert channel
  | .batchInsertChannels channels => tables.batchInsertChannels channels
  | .updateColumns channel updates => tables.updateColumns channel updates
  | .updateChannelStatus id usingKey status reason =>
    tables.updateChannelStatus id usingKey status reason call.now
  | .disableMultiKey id keyIndex => tables.disableMultiKey id keyIndex call.now
  | .enableMultiKey id keyIndex => tables.enableMultiKey id keyIndex call.now
  | .enableAllMultiKeys id => tables.enableAllMultiKeys id call.now
  | .disableAllMultiKeys id => tables.disableAllMultiKeys id call.now
  | .deleteMultiKeyAtIndex id keyIndex => tables.deleteMultiKeyAtIndex id keyIndex call.now
  | .deleteAutoDisabledMultiKeys id => tables.deleteAutoDisabledMultiKeys id call.now
  | .getNextEnabledKey id => .ok (tables.getNextEnabledKey id)
  | .enableChannelByTag tag => .ok (tables.enableChannelByTag tag call.now)
  | .disableChannelByTag tag => tables.disableChannelByTag tag call.now
  | .editChannelByTag tag edit => tables.editChannelByTag tag edit
  | .batchSetChannelTag ids tag => tables.batchSetChannelTag ids tag
  | .delete id => tables.delete id
  | .batchDeleteChannels ids => .ok (tables.batchDeleteChannels ids)
  | .fixAbility => .ok tables.fixAbility

def step (tables : RoutingTables) (call : Call) : RoutingTables := commit tables (call.run tables)

end Statements

end RoutingTables

end NewApi.Channels
