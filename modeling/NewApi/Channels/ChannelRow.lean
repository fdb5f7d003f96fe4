import Mathlib.Data.List.AList
import NewApi.Lib.Distinct
import NewApi.Lib.GoStrings

/-!
# The row of a channel

A channel holds its credentials in one text and what is known of each of them
in maps from the index in that text.  The functions below change a channel in
memory; `ChannelSnapshot.write` is the row after such a channel is saved.
-/

namespace NewApi.Channels

open GoStrings Distinct

def normalizeNameList (values : List String) : List String :=
  distinctBy id [] ((values.map trimSpace).filter (· ≠ ""))

def splitCommaSeparated (value : String) : List String :=
  if value = "" then []
  else normalizeNameList ((value.toList.splitOn ',').map String.ofList)

def normalizeCommaSeparated (value : String) : String := ",".intercalate (splitCommaSeparated value)

def channelStatusEnabled : Int := 1

def channelStatusManuallyDisabled : Int := 2

def channelStatusAutoDisabled : Int := 3

inductive MultiKeyMode where
  | random
  | polling
  | other (name : String)
deriving DecidableEq

abbrev IndexMap (α : Type) := AList fun _ : Nat => α

structure ChannelInfo where
  isMultiKey : Bool
  multiKeySize : Nat
  multiKeyStatusList : IndexMap Int
  multiKeyDisabledReason : IndexMap String
  multiKeyDisabledTime : IndexMap Int
  multiKeyPollingIndex : Int
  multiKeyMode : MultiKeyMode

structure OtherInfo where
  statusReason : Option String
  statusTime : Option Int
deriving DecidableEq

structure RoutingColumns where
  models : String
  group : String
  priority : Option Int
  weight : Option Nat
  tag : Option String
deriving DecidableEq

structure Channel extends RoutingColumns where
  id : Nat
  key : String
  status : Int
  otherInfo : OtherInfo
  channelInfo : ChannelInfo

namespace RoutingColumns

def getModels (columns : RoutingColumns) : List String := splitCommaSeparated columns.models

def getGroups (columns : RoutingColumns) : List String := splitCommaSeparated columns.group

def getPriority (columns : RoutingColumns) : Int := columns.priority.getD 0

def getWeight (columns : RoutingColumns) : Nat := columns.weight.getD 0

end RoutingColumns

def Channel.withReason (channel : Channel) (reason : String) (now : Int) :
    Channel :=
  { channel with otherInfo := ⟨some reason, some now⟩ }

def Channel.withStatus (channel : Channel) (status : Int) : Channel :=
  { channel with status := status }

@[simp]
theorem Channel.id_withStatus (status : Int) (channel : Channel) :
    (channel.withStatus status).id = channel.id :=
  rfl

def Channel.withTag (channel : Channel) (tag : Option String) : Channel :=
  { channel with tag := tag }

@[simp]
theorem Channel.id_withTag (tag : Option String) (channel : Channel) :
    (channel.withTag tag).id = channel.id :=
  rfl

def Channel.withPollingIndex (channel : Channel) (index : Int) : Channel :=
  { channel with channelInfo := { channel.channelInfo with multiKeyPollingIndex := index } }

@[simp]
theorem Channel.id_withPollingIndex (index : Int) (channel : Channel) :
    (channel.withPollingIndex index).id = channel.id :=
  rfl

/-- What the maps hold of a key with a status other than enabled. -/
def ChannelInfo.disableKey (info : ChannelInfo) (index : Nat) (status : Int) (reason : String)
    (now : Int) : ChannelInfo :=
  { info with
    multiKeyStatusList := info.multiKeyStatusList.insert index status
    multiKeyDisabledReason := info.multiKeyDisabledReason.insert index reason
    multiKeyDisabledTime := info.multiKeyDisabledTime.insert index now }

def ChannelInfo.clearKey (info : ChannelInfo) (index : Nat) : ChannelInfo :=
  { info with
    multiKeyStatusList := info.multiKeyStatusList.erase index
    multiKeyDisabledReason := info.multiKeyDisabledReason.erase index
    multiKeyDisabledTime := info.multiKeyDisabledTime.erase index }

def ChannelInfo.withMaps (info : ChannelInfo) (status : IndexMap Int) (reason : IndexMap String)
    (time : IndexMap Int) : ChannelInfo :=
  { info with
    multiKeyStatusList := status
    multiKeyDisabledReason := reason
    multiKeyDisabledTime := time }

/-- A channel in memory with the marks that say how its maps are saved. -/
structure ChannelSnapshot where
  channel : Channel
  keyStatusClearIndexes : List Nat
  keyStatusReplaceMaps : Bool
  keyStatusWriteStructure : Bool

def Channel.snapshot (channel : Channel) : ChannelSnapshot where
  channel := channel
  keyStatusClearIndexes := []
  keyStatusReplaceMaps := false
  keyStatusWriteStructure := false

def ChannelSnapshot.markMultiKeyStatusCleared
    (snapshot : ChannelSnapshot) (index : Nat) : ChannelSnapshot :=
  { snapshot with keyStatusClearIndexes := snapshot.keyStatusClearIndexes ++ [index] }

def ChannelSnapshot.markMultiKeyStatusReplaced (snapshot : ChannelSnapshot) : ChannelSnapshot :=
  { snapshot with keyStatusReplaceMaps := true }

def ChannelSnapshot.markMultiKeyStructureReplaced (snapshot : ChannelSnapshot) : ChannelSnapshot :=
  { snapshot with
    keyStatusReplaceMaps := true
    keyStatusWriteStructure := true }

/-- A stored map after a patch: entries of the patch win, and cleared indexes
are null in it. -/
def mergePatch {α : Type} (patch stored : IndexMap α) (cleared : List Nat) :
    IndexMap α :=
  cleared.foldl (fun map index => map.erase index) (patch ∪ stored)

def ChannelSnapshot.channelInfoUpdate
    (snapshot : ChannelSnapshot) (stored : ChannelInfo) : ChannelInfo :=
  let info := snapshot.channel.channelInfo
  if snapshot.keyStatusReplaceMaps ∨ snapshot.keyStatusWriteStructure then
    let replaced :=
      stored.withMaps info.multiKeyStatusList info.multiKeyDisabledReason info.multiKeyDisabledTime
    if snapshot.keyStatusWriteStructure then
      { replaced with
        multiKeySize := info.multiKeySize
        isMultiKey := info.isMultiKey
        multiKeyMode := info.multiKeyMode }
    else replaced
  else
    stored.withMaps
      (mergePatch info.multiKeyStatusList stored.multiKeyStatusList snapshot.keyStatusClearIndexes)
      (mergePatch info.multiKeyDisabledReason stored.multiKeyDisabledReason
        snapshot.keyStatusClearIndexes)
      (mergePatch info.multiKeyDisabledTime stored.multiKeyDisabledTime
        snapshot.keyStatusClearIndexes)

def ChannelSnapshot.statusRow (snapshot : ChannelSnapshot) (stored : Channel) : Channel :=
  { stored with
    status := snapshot.channel.status
    otherInfo := snapshot.channel.otherInfo
    channelInfo :=
      if snapshot.channel.channelInfo.isMultiKey ∨
          snapshot.keyStatusReplaceMaps ∨ snapshot.keyStatusWriteStructure then
        snapshot.channelInfoUpdate stored.channelInfo
      else stored.channelInfo }

def ChannelSnapshot.keyManagementRow
    (snapshot : ChannelSnapshot) (includeKey : Bool) (stored : Channel) :
    Channel :=
  { stored with
    status := snapshot.channel.status
    otherInfo := snapshot.channel.otherInfo
    channelInfo := snapshot.channelInfoUpdate stored.channelInfo
    key := if includeKey then snapshot.channel.key else stored.key }

@[simp]
theorem ChannelSnapshot.id_statusRow (snapshot : ChannelSnapshot) (stored : Channel) :
    (snapshot.statusRow stored).id = stored.id :=
  rfl

@[simp]
theorem ChannelSnapshot.id_keyManagementRow
    (snapshot : ChannelSnapshot) (includeKey : Bool) (stored : Channel) :
    (snapshot.keyManagementRow includeKey stored).id = stored.id :=
  rfl

/-- An item of a decoded JSON array.  What is neither null nor a string is
known by its encoding. -/
inductive JsonItem where
  | null
  | string (value : String)
  | other (encoded : String)

/-- The JSON engine of the host: `Unmarshal` into a list, and `Marshal` of
its items, whose text is compact. -/
class JsonCodec where
  unmarshalArray : String → Option (List JsonItem)
  encoded_compact :
    ∀ text items encoded, unmarshalArray text = some items →
      JsonItem.other encoded ∈ items → trimSpace encoded = encoded ∧ '\n' ∉ encoded.toList

def JsonItem.key : JsonItem → Option String
  | .null => none
  | .string value =>
    if trimSpace value = "" then none else some (trimSpace value)
  | .other encoded => if encoded = "" then none else some encoded

def trimLines (text : List Char) : List Char :=
  ((text.dropWhile (· = '\n')).reverse.dropWhile (· = '\n')).reverse

def keyLines (keys : String) : List String :=
  ((trimLines keys.toList).splitOn '\n').map fun part => trimSpace (String.ofList part)

section Keys

variable [JsonCodec]

def parseChannelKeyList (keys : String) : List String :=
  if keys = "" then []
  else if hasPrefix (trimSpace keys) "[" then
    match JsonCodec.unmarshalArray (trimSpace keys) with
    | some items => items.filterMap JsonItem.key
    | none => keyLines keys
  else keyLines keys

def Channel.getKeys (channel : Channel) : List String := parseChannelKeyList channel.key

def multiKeyStatus (statusList : IndexMap Int) (index : Nat) : Int :=
  (statusList.lookup index).getD channelStatusEnabled

def hasEnabledMultiKey (keys : List String) (statusList : IndexMap Int) : Bool :=
  keys.zipIdx.any fun (key, index) =>
    trimSpace key ≠ "" && multiKeyStatus statusList index = channelStatusEnabled

def keyIndexOf (keys : List String) (usingKey : String) : Option Nat :=
  keys.findIdx? fun key => trimSpace key = trimSpace usingKey

def preserveManualDisable (current requested : Int) : Int :=
  if current = channelStatusManuallyDisabled ∧ requested = channelStatusAutoDisabled then current
  else requested

def keyedEnableReopensManualDisable (current : Int) (usingKey : String) (requested : Int) : Bool :=
  current = channelStatusManuallyDisabled &&
    requested = channelStatusEnabled && trimSpace usingKey ≠ ""

def syncChannelStatusWithEnabledKeys (channel : Channel) (reason : String) (now : Int) : Channel :=
  if channel.channelInfo.isMultiKey = false then channel
  else if channel.status = channelStatusManuallyDisabled then channel
  else if hasEnabledMultiKey channel.getKeys
      channel.channelInfo.multiKeyStatusList then
    { channel with status := channelStatusEnabled }
  else
    { channel with status := channelStatusAutoDisabled }.withReason
      (if reason = "" then "All keys are disabled" else reason) now

def handlerMultiKeyUpdate (channel : Channel) (usingKey : String) (status : Int) (reason : String)
    (now : Int) : Channel :=
  let keys := channel.getKeys
  if keys = [] then
    { channel with status := preserveManualDisable channel.status status }
  else
    match keyIndexOf keys usingKey with
    | none =>
      if trimSpace usingKey ≠ "" then channel
      else
        let next := preserveManualDisable channel.status status
        let info :=
          if status = channelStatusEnabled then channel.channelInfo.withMaps ∅ ∅ ∅
          else channel.channelInfo
        let changed := { channel with status := next, channelInfo := info }
        if next = status then changed.withReason reason now else changed
    | some index =>
      let info :=
        if status = channelStatusEnabled then channel.channelInfo.clearKey index
        else channel.channelInfo.disableKey index status reason now
      let changed := { channel with channelInfo := info }
      if hasEnabledMultiKey keys info.multiKeyStatusList = false then
        let next := preserveManualDisable channel.status channelStatusAutoDisabled
        if next ≠ channel.status then
          { changed with status := next }.withReason
            (if reason ≠ "" then reason else "All keys are disabled") now
        else changed
      else if status = channelStatusEnabled ∧
          keyedEnableReopensManualDisable channel.status usingKey status = false then
        { changed with status := channelStatusEnabled }
      else changed

def limitStatusWriteToMultiKey (channel : Channel) (keyIndex : Option Nat) (status : Int) :
    ChannelSnapshot :=
  match keyIndex with
  | none => channel.snapshot
  | some index =>
    let info := channel.channelInfo
    if status = channelStatusEnabled then
      ({ channel with channelInfo := info.withMaps ∅ ∅ ∅ }
        : Channel).snapshot.markMultiKeyStatusCleared index
    else
      ({ channel with
          channelInfo := info.withMaps
            (AList.singleton index ((info.multiKeyStatusList.lookup index).getD status))
            (AList.singleton index ((info.multiKeyDisabledReason.lookup index).getD ""))
            (AList.singleton index ((info.multiKeyDisabledTime.lookup index).getD 0)) }
        : Channel).snapshot

def prepareMultiKeyStatusWrite
    (channel : Channel) (usingKey : String) (status : Int) : ChannelSnapshot :=
  if trimSpace usingKey = "" then
    if status = channelStatusEnabled then channel.snapshot.markMultiKeyStatusReplaced
    else channel.snapshot
  else
    limitStatusWriteToMultiKey channel (keyIndexOf channel.getKeys usingKey) status

/-- `applyChannelStatusLocked`: what is saved, and whether the abilities
follow; `none` is `errChannelRoutingUnchanged`. -/
def applyChannelStatusLocked
    (channel : Channel) (usingKey : String) (status : Int) (reason : String)
    (refreshReasonOnly : Bool) (now : Int) : Option (ChannelSnapshot × Bool) :=
  let handled :=
    let changed := handlerMultiKeyUpdate channel usingKey status reason now
    some (prepareMultiKeyStatusWrite changed usingKey status,
      decide (channel.status ≠ changed.status))
  if status = channelStatusEnabled ∧ trimSpace usingKey ≠ "" ∧
      keyedEnableReopensManualDisable channel.status usingKey status then none
  else if channel.status = status then
    if channel.channelInfo.isMultiKey ∧ trimSpace usingKey ≠ "" then handled
    else if refreshReasonOnly = false then none
    else some ((channel.withReason reason now).snapshot, false)
  else if channel.channelInfo.isMultiKey then handled
  else if keyedEnableReopensManualDisable channel.status usingKey status ∨
      preserveManualDisable channel.status status ≠ status then none
  else
    some (({ channel with status := status } : Channel).withReason reason now |>.snapshot, true)

def shiftMultiKeyPollingIndex (cursor : Int) (removed : List Nat) (newLen : Nat) : Int :=
  if newLen = 0 then 0
  else
    let cursor := if cursor < 0 then 0 else cursor
    let shifted := cursor - (removed.filter fun index => (index : Int) < cursor).length
    if shifted ≥ newLen then 0 else shifted

/-- The keys that stay with their new maps, while a list of keys is
reindexed. -/
structure Reindexed where
  remaining : List String
  newStatus : IndexMap Int
  newTime : IndexMap Int
  newReason : IndexMap String

def carryOver {α : Type} (map : IndexMap α) (next : Nat) (value : Option α) :
    IndexMap α :=
  match value with
  | some value => map.insert next value
  | none => map

def Reindexed.keep (info : ChannelInfo) (kept : Reindexed) (key : String) (index : Nat) :
    Reindexed where
  remaining := kept.remaining ++ [key]
  newStatus := carryOver kept.newStatus kept.remaining.length
    ((info.multiKeyStatusList.lookup index).filter (· ≠ channelStatusEnabled))
  newTime := carryOver kept.newTime kept.remaining.length (info.multiKeyDisabledTime.lookup index)
  newReason := carryOver kept.newReason kept.remaining.length
    (info.multiKeyDisabledReason.lookup index)

/-- One key kept by `DeleteAutoDisabledMultiKeys`: an enabled key has no time
and no reason. -/
def Reindexed.keepDisabled (info : ChannelInfo) (kept : Reindexed) (key : String) (index : Nat) :
    Reindexed :=
  if multiKeyStatus info.multiKeyStatusList index = channelStatusEnabled then
    { kept with remaining := kept.remaining ++ [key] }
  else kept.keep info key index

def reindexKeys (info : ChannelInfo) (removes : Nat → Bool)
    (keep : Reindexed → String → Nat → Reindexed) :
    Reindexed → Nat → List String → Reindexed
  | kept, _, [] => kept
  | kept, index, key :: keys =>
    reindexKeys info removes keep
      (if removes index then kept else keep kept key index) (index + 1) keys

def applyReindexedKeys (channel : Channel) (kept : Reindexed) (syncReason : String) (now : Int) :
    ChannelSnapshot :=
  let info :=
    { channel.channelInfo.withMaps kept.newStatus kept.newReason kept.newTime with
      multiKeySize := kept.remaining.length }
  (syncChannelStatusWithEnabledKeys
    { channel with
      key := "\n".intercalate kept.remaining
      channelInfo := info } syncReason now).snapshot.markMultiKeyStructureReplaced

end Keys

end NewApi.Channels
