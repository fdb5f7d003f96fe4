import NewApi.Channels.AbilityProduct
import NewApi.Channels.KeyTable

/-!
# Key statuses follow their keys

Every operation on the keys of a channel acts on the list of keys with their
states, as long as each deletion leaves keys that the stored text can hold.
-/

namespace NewApi.Channels

open GoStrings Transactions ChannelInfo ChannelSnapshot Channel Reindexed AList

variable {info : ChannelInfo} {index : Nat}

theorem keyState_disabled {status : Int} {reason : String}
    {time : Int} (disabled : status ≠ channelStatusEnabled)
    (hasStatus : info.multiKeyStatusList.lookup index = some status)
    (hasReason : info.multiKeyDisabledReason.lookup index = some reason)
    (hasTime : info.multiKeyDisabledTime.lookup index = some time) :
    info.keyState index = .disabled status (some reason) (some time) := by
  simp [keyState, keyStateOf, multiKeyStatus, hasStatus, hasReason, hasTime, disabled]

theorem keyState_enabled (noStatus : info.multiKeyStatusList.lookup index = none) :
    info.keyState index = .enabled := by
  simp [keyState, keyStateOf, multiKeyStatus, noStatus]

theorem keyState_congr {old new : ChannelInfo}
    (status : new.multiKeyStatusList.lookup index = old.multiKeyStatusList.lookup index)
    (reason : new.multiKeyDisabledReason.lookup index = old.multiKeyDisabledReason.lookup index)
    (time : new.multiKeyDisabledTime.lookup index = old.multiKeyDisabledTime.lookup index) :
    new.keyState index = old.keyState index := by
  simp only [keyState, keyStateOf, multiKeyStatus, status, reason, time]
  rfl

theorem mergeOne_keyState
    (snapshot : ChannelSnapshot) (stored : ChannelInfo) {status : Int} {reason : String}
    {time : Int} (disabled : status ≠ channelStatusEnabled)
    (merges : snapshot.keyStatusReplaceMaps = false ∧ snapshot.keyStatusWriteStructure = false ∧
      snapshot.keyStatusClearIndexes = [])
    (one : snapshot.channel.channelInfo.multiKeyStatusList = singleton index status ∧
      snapshot.channel.channelInfo.multiKeyDisabledReason = singleton index reason ∧
      snapshot.channel.channelInfo.multiKeyDisabledTime = singleton index time) :
    (snapshot.channelInfoUpdate stored).keyState index =
        .disabled status (some reason) (some time) ∧
      ∀ other, other ≠ index →
        (snapshot.channelInfoUpdate stored).keyState other = stored.keyState other := by
  have merged : snapshot.channelInfoUpdate stored =
      stored.withMaps (mergePatch (singleton index status) stored.multiKeyStatusList [])
        (mergePatch (singleton index reason) stored.multiKeyDisabledReason [])
        (mergePatch (singleton index time) stored.multiKeyDisabledTime []) := by
    simp [channelInfoUpdate, merges, one]
  rw [merged]
  constructor
  · apply keyState_disabled disabled
    all_goals simp [withMaps, lookup_mergePatch, lookup_singleton]
  · intro other different
    apply keyState_congr
    all_goals simp [withMaps, lookup_mergePatch, lookup_singleton, different]

theorem mergeCleared_keyState (snapshot : ChannelSnapshot) (stored : ChannelInfo)
    (merges : snapshot.keyStatusReplaceMaps = false ∧ snapshot.keyStatusWriteStructure = false ∧
      snapshot.keyStatusClearIndexes = [index])
    (empty : snapshot.channel.channelInfo.multiKeyStatusList = ∅ ∧
      snapshot.channel.channelInfo.multiKeyDisabledReason = ∅ ∧
      snapshot.channel.channelInfo.multiKeyDisabledTime = ∅) :
    (snapshot.channelInfoUpdate stored).keyState index = .enabled ∧
      ∀ other, other ≠ index →
        (snapshot.channelInfoUpdate stored).keyState other = stored.keyState other := by
  have merged : snapshot.channelInfoUpdate stored =
      stored.withMaps (mergePatch ∅ stored.multiKeyStatusList [index])
        (mergePatch ∅ stored.multiKeyDisabledReason [index])
        (mergePatch ∅ stored.multiKeyDisabledTime [index]) := by
    simp [channelInfoUpdate, merges, empty]
  rw [merged]
  constructor
  · apply keyState_enabled
    simp [withMaps, lookup_mergePatch]
  · intro other different
    apply keyState_congr
    all_goals simp [withMaps, lookup_mergePatch, different]

def LeavesAt {α : Type} (patch stored : IndexMap α) (index : Nat) : Prop :=
  patch.lookup index = none ∨ patch.lookup index = stored.lookup index

structure LeavesKey (patch stored : ChannelInfo) (index : Nat) : Prop where
  status : LeavesAt patch.multiKeyStatusList stored.multiKeyStatusList index
  reason : LeavesAt patch.multiKeyDisabledReason stored.multiKeyDisabledReason index
  time : LeavesAt patch.multiKeyDisabledTime stored.multiKeyDisabledTime index

theorem leavesKey_refl (info : ChannelInfo) (index : Nat) : LeavesKey info info index where
  status := Or.inr rfl
  reason := Or.inr rfl
  time := Or.inr rfl

theorem lookup_mergePatch_left {α : Type} {patch stored : IndexMap α}
    {index : Nat} (left : LeavesAt patch stored index) :
    (mergePatch patch stored []).lookup index = stored.lookup index := by
  rw [lookup_mergePatch]
  rcases left with missing | same
  · simp [missing]
  · simp [same]

structure Merges (snapshot : ChannelSnapshot) : Prop where
  multiKey : snapshot.channel.channelInfo.isMultiKey = true
  replaces : snapshot.keyStatusReplaceMaps = false
  structured : snapshot.keyStatusWriteStructure = false
  clears : snapshot.keyStatusClearIndexes = []

theorem merge_keyState_left {snapshot : ChannelSnapshot} (merges : Merges snapshot)
    {stored : ChannelInfo} {index : Nat}
    (left : LeavesKey snapshot.channel.channelInfo stored index) :
    (snapshot.channelInfoUpdate stored).keyState index = stored.keyState index := by
  have merged : snapshot.channelInfoUpdate stored =
      stored.withMaps
        (mergePatch snapshot.channel.channelInfo.multiKeyStatusList stored.multiKeyStatusList [])
        (mergePatch snapshot.channel.channelInfo.multiKeyDisabledReason
          stored.multiKeyDisabledReason [])
        (mergePatch snapshot.channel.channelInfo.multiKeyDisabledTime
          stored.multiKeyDisabledTime []) := by
    simp [channelInfoUpdate, merges.replaces, merges.structured, merges.clears]
  rw [merged]
  apply keyState_congr
  · exact lookup_mergePatch_left left.status
  · exact lookup_mergePatch_left left.reason
  · exact lookup_mergePatch_left left.time

theorem merge_isMultiKey (snapshot : ChannelSnapshot) (stored : ChannelInfo)
    (merges : snapshot.keyStatusReplaceMaps = false ∧ snapshot.keyStatusWriteStructure = false) :
    (snapshot.channelInfoUpdate stored).isMultiKey = stored.isMultiKey := by
  simp [channelInfoUpdate, merges, withMaps]

theorem statusRow_multiKey {snapshot : ChannelSnapshot} {row : Channel}
    (multiKey : snapshot.channel.channelInfo.isMultiKey = true) :
    (snapshot.statusRow row).channelInfo = snapshot.channelInfoUpdate row.channelInfo := by
  unfold statusRow
  rw [if_pos (Or.inl multiKey)]

theorem replace_channelInfo (snapshot : ChannelSnapshot) (stored : ChannelInfo)
    (marked : snapshot.keyStatusWriteStructure = true)
    (written : snapshot.channel.channelInfo = info) :
    snapshot.channelInfoUpdate stored =
      { info with multiKeyPollingIndex := stored.multiKeyPollingIndex } := by
  simp [channelInfoUpdate, marked, written, withMaps]

theorem Reindexed.remaining_eq (kept : Reindexed) : kept.remaining = kept.entries.map Prod.fst :=
  (map_fst_keyEntries _ _ 0).symm

namespace RoutingTables

variable {tables : RoutingTables} {row : Channel}

theorem saveKeyManagementState_row
    {next : RoutingTables} {snapshot : ChannelSnapshot} {includeKey : Bool}
    (saved : tables.saveKeyManagementState snapshot includeKey = .ok next)
    (found : tables.channels.lookup row.id = some row) (same : snapshot.channel.id = row.id) :
    next.channels.lookup row.id = some (snapshot.keyManagementRow includeKey row) := by
  have rows := (updateAbilities_ok saved).1
  rw [rows]
  refine (lookup_updateChannels tables _ (snapshot.id_keyManagementRow includeKey) row.id).trans ?_
  rw [found, Option.map_some, if_pos (decide_eq_true same.symm)]

theorem persistMultiKeyPollingIndex_row {next : RoutingTables} {id : Nat} {nextIndex : Int}
    (persisted : tables.persistMultiKeyPollingIndex id nextIndex = .ok next)
    (found : tables.channels.lookup id = some row) (same : row.id = id) :
    next.channels.lookup id = some (row.withPollingIndex nextIndex) := by
  unfold persistMultiKeyPollingIndex at persisted
  split at persisted
  · rw [← Except.ok.inj persisted]
    refine (lookup_updateChannels tables _ (id_withPollingIndex nextIndex) id).trans ?_
    rw [found, Option.map_some, if_pos (decide_eq_true same)]
  · cases persisted

theorem lock_found {channel : Channel} (found : tables.channels.lookup row.id = some row)
    (locked : tables.lockChannelForUpdate row.id = .ok channel) :
    channel = row :=
  Option.some.inj ((lock_ok locked).1.symm.trans found)

end RoutingTables

section Keys

variable [JsonCodec]

def Channel.keyTable (channel : Channel) : List (String × KeyState) :=
  keyEntries channel.channelInfo.keyState 0 channel.getKeys

theorem map_fst_keyTable (channel : Channel) : channel.keyTable.map Prod.fst = channel.getKeys :=
  map_fst_keyEntries _ _ 0

theorem syncChannelStatus_keys (channel : Channel) (reason : String) (now : Int) :
    (syncChannelStatusWithEnabledKeys channel reason now).key = channel.key ∧
      (syncChannelStatusWithEnabledKeys channel reason now).channelInfo = channel.channelInfo := by
  unfold syncChannelStatusWithEnabledKeys
  split_ifs <;> exact ⟨rfl, rfl⟩

variable {index : Nat} {state : KeyState}

theorem keyTable_modify {old new : Channel} (sameKey : new.key = old.key)
    (states : new.channelInfo.keyState index = state ∧
      ∀ other, other ≠ index → new.channelInfo.keyState other = old.channelInfo.keyState other) :
    new.keyTable = old.keyTable.modify index fun entry => (entry.1, state) := by
  have keys : new.getKeys = old.getKeys := by simp only [getKeys, sameKey]
  unfold keyTable
  rw [keys]
  exact keyEntries_modify states.1 states.2 old.getKeys

theorem keyTable_keyManagementRow (snapshot : ChannelSnapshot) (row : Channel)
    (states : (snapshot.channelInfoUpdate row.channelInfo).keyState index = state ∧
      ∀ other, other ≠ index →
        (snapshot.channelInfoUpdate row.channelInfo).keyState other =
          row.channelInfo.keyState other) :
    (snapshot.keyManagementRow false row).keyTable =
      row.keyTable.modify index fun entry => (entry.1, state) := by
  have sameKey : (snapshot.keyManagementRow false row).key = row.key := rfl
  exact keyTable_modify sameKey states

theorem keyTable_statusRow {snapshot : ChannelSnapshot} {row : Channel}
    (multiKey : snapshot.channel.channelInfo.isMultiKey = true)
    (states : (snapshot.channelInfoUpdate row.channelInfo).keyState index = state ∧
      ∀ other, other ≠ index →
        (snapshot.channelInfoUpdate row.channelInfo).keyState other =
          row.channelInfo.keyState other) :
    (snapshot.statusRow row).keyTable =
      row.keyTable.modify index fun entry => (entry.1, state) := by
  have sameKey : (snapshot.statusRow row).key = row.key := rfl
  apply keyTable_modify sameKey
  rw [statusRow_multiKey multiKey]
  exact states

namespace RoutingTables

/-! ## One operation on the list of keys -/

inductive KeyAction where
  | disable (keyIndex : Int)
  | enable (keyIndex : Int)
  | report (usingKey : String) (named : trimSpace usingKey ≠ "") (status : Int) (reason : String)
  | deleteAt (keyIndex : Int)
  | deleteAutoDisabled

structure KeyCall where
  action : KeyAction
  now : Int

def KeyCall.call (id : Nat) (call : KeyCall) : Call where
  operation :=
    match call.action with
    | .disable keyIndex => .disableMultiKey id keyIndex
    | .enable keyIndex => .enableMultiKey id keyIndex
    | .report usingKey _ status reason => .updateChannelStatus id usingKey status reason
    | .deleteAt keyIndex => .deleteMultiKeyAtIndex id keyIndex
    | .deleteAutoDisabled => .deleteAutoDisabledMultiKeys id
  now := call.now

def reportedState (status : Int) (reason : String) (now : Int) : KeyState :=
  if status = channelStatusEnabled then .enabled
  else .disabled status (some reason) (some now)

def withStateAt (keyIndex : Option Nat) (state : KeyState)
    (table : List (String × KeyState)) : List (String × KeyState) :=
  match keyIndex with
  | none => table
  | some index => table.modify index fun entry => (entry.1, state)

/-- What a call does to keys that carry their states with them. -/
def KeyCall.apply (call : KeyCall) (table : List (String × KeyState)) :
    List (String × KeyState) :=
  match call.action with
  | .disable keyIndex =>
    table.modify keyIndex.toNat fun entry =>
      (entry.1, .disabled channelStatusManuallyDisabled (some "manual disable") (some call.now))
  | .enable keyIndex => table.modify keyIndex.toNat fun entry => (entry.1, .enabled)
  | .report usingKey _ status reason =>
    withStateAt
      (table.findIdx? fun entry => trimSpace entry.1 = trimSpace usingKey)
      (reportedState status reason call.now) table
  | .deleteAt keyIndex => table.eraseIdx keyIndex.toNat
  | .deleteAutoDisabled => table.filter fun entry => !entry.2.isAutoDisabled

def KeyCall.Storable (call : KeyCall) (row : Channel) : Prop :=
  match call.action with
  | .deleteAt keyIndex =>
    0 ≤ keyIndex → keyIndex < row.getKeys.length → Rejoinable (row.getKeys.eraseIdx keyIndex.toNat)
  | .deleteAutoDisabled =>
    (∃ entry ∈ row.keyTable, entry.2.isAutoDisabled = true) →
      Rejoinable ((row.keyTable.filter fun entry => !entry.2.isAutoDisabled).map Prod.fst)
  | _ => True

variable {tables next : RoutingTables} {row : Channel} {keyIndex now : Int}

theorem disableMultiKey_keyTable (found : tables.channels.lookup row.id = some row)
    (done : tables.disableMultiKey row.id keyIndex now = .ok next) :
    ∃ new, next.channels.lookup row.id = some new ∧
      new.channelInfo.isMultiKey = row.channelInfo.isMultiKey ∧
      new.keyTable = row.keyTable.modify keyIndex.toNat fun entry =>
        (entry.1, .disabled channelStatusManuallyDisabled (some "manual disable") (some now)) := by
  obtain ⟨channel, locked, rest⟩ := bind_ok_iff.mp done
  have same := lock_found found locked
  subst same
  split at rest
  · cases rest
  have saved := saveKeyManagementState_row rest found (syncChannelStatus_columns _ _ now).2
  refine ⟨_, saved, ?_, ?_⟩
  · exact merge_isMultiKey _ _ ⟨rfl, rfl⟩
  · apply keyTable_keyManagementRow
    exact mergeOne_keyState _ _ (by decide) ⟨rfl, rfl, rfl⟩ ⟨rfl, rfl, rfl⟩

theorem enableMultiKey_keyTable (found : tables.channels.lookup row.id = some row)
    (done : tables.enableMultiKey row.id keyIndex now = .ok next) :
    ∃ new, next.channels.lookup row.id = some new ∧
      new.channelInfo.isMultiKey = row.channelInfo.isMultiKey ∧
      new.keyTable = row.keyTable.modify keyIndex.toNat fun entry =>
        (entry.1, .enabled) := by
  obtain ⟨channel, locked, rest⟩ := bind_ok_iff.mp done
  have same := lock_found found locked
  subst same
  split at rest
  · cases rest
  have saved := saveKeyManagementState_row rest found (syncChannelStatus_columns _ _ now).2
  refine ⟨_, saved, ?_, ?_⟩
  · exact merge_isMultiKey _ _ ⟨rfl, rfl⟩
  · apply keyTable_keyManagementRow
    exact mergeCleared_keyState _ _ ⟨rfl, rfl, rfl⟩ ⟨rfl, rfl, rfl⟩

variable {usingKey : String}

theorem handlerMultiKeyUpdate_keys (channel : Channel) {status : Int}
    (one : trimSpace usingKey ≠ "" ∨ status ≠ channelStatusEnabled) (reason : String) (now : Int) :
    (handlerMultiKeyUpdate channel usingKey status reason now).key = channel.key ∧
      (handlerMultiKeyUpdate channel usingKey status reason now).channelInfo =
        match keyIndexOf channel.getKeys usingKey with
        | none => channel.channelInfo
        | some index =>
          if status = channelStatusEnabled then channel.channelInfo.clearKey index
          else channel.channelInfo.disableKey index status reason now := by
  unfold handlerMultiKeyUpdate
  dsimp only
  by_cases noKeys : channel.getKeys = []
  · rw [if_pos noKeys, noKeys]
    exact ⟨rfl, rfl⟩
  · rw [if_neg noKeys]
    cases keyIndexOf channel.getKeys usingKey with
    | none =>
      dsimp only
      rcases one with named | disables
      · rw [if_pos named]
        exact ⟨rfl, rfl⟩
      · rw [if_neg disables]
        split_ifs <;> exact ⟨rfl, rfl⟩
    | some index =>
      dsimp only
      split_ifs <;> exact ⟨rfl, rfl⟩

variable {status : Int} {reason : String}

theorem applyChannelStatusLocked_multiKey {channel : Channel}
    {refreshReasonOnly : Bool} {snapshot : ChannelSnapshot}
    {follow : Bool} (multiKey : channel.channelInfo.isMultiKey = true)
    (named : trimSpace usingKey ≠ "")
    (applied : applyChannelStatusLocked channel usingKey status reason
      refreshReasonOnly now = some (snapshot, follow)) :
    snapshot = limitStatusWriteToMultiKey (handlerMultiKeyUpdate channel usingKey status reason now)
      (keyIndexOf channel.getKeys usingKey) status := by
  have sameKeys :
      (handlerMultiKeyUpdate channel usingKey status reason now).getKeys = channel.getKeys := by
    unfold getKeys
    rw [(handlerMultiKeyUpdate_keys channel (Or.inl named) reason now).1]
  have handled : ∀ {abilitiesFollow : Bool},
      some (prepareMultiKeyStatusWrite
          (handlerMultiKeyUpdate channel usingKey status reason now) usingKey
          status, abilitiesFollow) = some (snapshot, follow) →
        snapshot = limitStatusWriteToMultiKey
          (handlerMultiKeyUpdate channel usingKey status reason now)
          (keyIndexOf channel.getKeys usingKey) status := by
    intro abilitiesFollow outcome
    obtain ⟨written, _⟩ := Prod.mk.inj (Option.some.inj outcome)
    rw [← written]
    unfold prepareMultiKeyStatusWrite
    rw [if_neg named, sameKeys]
  unfold applyChannelStatusLocked at applied
  split at applied
  · cases applied
  split at applied
  · rw [if_pos ⟨multiKey, named⟩] at applied
    exact handled applied
  · exact handled applied

theorem limitStatusWrite_keyTable {changed : Channel} {keyIndex : Option Nat}
    (multiKey : row.channelInfo.isMultiKey = true)
    (info : changed.channelInfo =
      match keyIndex with
      | none => row.channelInfo
      | some index =>
        if status = channelStatusEnabled then row.channelInfo.clearKey index
        else row.channelInfo.disableKey index status reason now) :
    ((limitStatusWriteToMultiKey changed keyIndex status).statusRow
        row).channelInfo.isMultiKey = true ∧
      ((limitStatusWriteToMultiKey changed keyIndex status).statusRow row).keyTable =
        withStateAt keyIndex (reportedState status reason now) row.keyTable := by
  have kind : ∀ snapshot : ChannelSnapshot, snapshot.channel.channelInfo.isMultiKey = true →
      snapshot.keyStatusReplaceMaps = false ∧ snapshot.keyStatusWriteStructure = false →
      (snapshot.statusRow row).channelInfo.isMultiKey = true := by
    intro snapshot marked merges
    rw [statusRow_multiKey marked, merge_isMultiKey snapshot _ merges]
    exact multiKey
  cases keyIndex with
  | none =>
    have same : changed.channelInfo = row.channelInfo := info
    have marked : changed.snapshot.channel.channelInfo.isMultiKey = true :=
      (congrArg isMultiKey same).trans multiKey
    refine ⟨kind _ marked ⟨rfl, rfl⟩, ?_⟩
    change keyEntries _ 0 row.getKeys = keyEntries _ 0 row.getKeys
    apply keyEntries_congr
    intro index _ _
    have saved : (changed.snapshot.statusRow row).channelInfo = _ := statusRow_multiKey marked
    rw [limitStatusWriteToMultiKey, saved]
    apply merge_keyState_left ⟨marked, rfl, rfl, rfl⟩
    exact same ▸ leavesKey_refl changed.channelInfo index
  | some index =>
    unfold limitStatusWriteToMultiKey withStateAt
    dsimp only at info ⊢
    by_cases enables : status = channelStatusEnabled
    · rw [if_pos enables] at info
      rw [if_pos enables, reportedState, if_pos enables]
      have marked : changed.channelInfo.isMultiKey = true :=
        (congrArg isMultiKey info).trans multiKey
      refine ⟨kind _ marked ⟨rfl, rfl⟩, ?_⟩
      apply keyTable_statusRow marked
      exact mergeCleared_keyState _ _ ⟨rfl, rfl, rfl⟩ ⟨rfl, rfl, rfl⟩
    · rw [if_neg enables] at info
      rw [if_neg enables, reportedState, if_neg enables]
      have marked : changed.channelInfo.isMultiKey = true :=
        (congrArg isMultiKey info).trans multiKey
      refine ⟨kind _ marked ⟨rfl, rfl⟩, ?_⟩
      apply keyTable_statusRow marked
      apply mergeOne_keyState _ _ enables ⟨rfl, rfl, rfl⟩
      rw [info]
      simp [snapshot, withMaps, disableKey, lookup_insert]

theorem updateChannelStatus_ok (found : tables.channels.lookup row.id = some row)
    (done : tables.updateChannelStatus row.id usingKey status reason now = .ok next) :
    ∃ (snapshot : ChannelSnapshot) (refreshReasonOnly follow : Bool),
      applyChannelStatusLocked row usingKey status reason refreshReasonOnly
          now = some (snapshot, follow) ∧
        next.channels = (tables.saveStatusState snapshot).channels ∧
        next.channels.lookup row.id = some (snapshot.statusRow row) := by
  obtain ⟨channel, locked, rest⟩ := bind_ok_iff.mp done
  have same := lock_found found locked
  subst same
  split at rest
  · cases rest
  rename_i snapshot follow applied
  have sameId := (applyChannelStatusLocked_some applied).1
  have left : next.channels = (tables.saveStatusState snapshot).channels := by
    rw [← Except.ok.inj rest]
    split_ifs <;> rfl
  refine ⟨snapshot, _, follow, applied, left, ?_⟩
  rw [left]
  refine (lookup_saveStatusState tables snapshot channel.id).trans ?_
  rw [found, Option.map_some, if_pos sameId.symm]

theorem updateChannelStatus_keyTable (multiKey : row.channelInfo.isMultiKey = true)
    (named : trimSpace usingKey ≠ "") (found : tables.channels.lookup row.id = some row)
    (done : tables.updateChannelStatus row.id usingKey status reason now = .ok next) :
    ∃ new, next.channels.lookup row.id = some new ∧ new.channelInfo.isMultiKey = true ∧
      new.keyTable =
        withStateAt (keyIndexOf row.getKeys usingKey)
          (reportedState status reason now) row.keyTable := by
  obtain ⟨snapshot, refreshReasonOnly, follow, applied, _, saved⟩ :=
    updateChannelStatus_ok found done
  refine ⟨snapshot.statusRow row, saved, ?_⟩
  rw [applyChannelStatusLocked_multiKey multiKey named applied]
  exact limitStatusWrite_keyTable multiKey
    (handlerMultiKeyUpdate_keys row (Or.inl named) reason now).2

theorem reindexed_row {kept : Reindexed} {cursor : Int}
    (found : tables.channels.lookup row.id = some row)
    (done : ((tables.saveKeyManagementState
      (applyReindexedKeys row kept reason now) true).bind fun tables =>
        tables.persistMultiKeyPollingIndex row.id cursor) = .ok next) :
    ∃ new, next.channels.lookup row.id = some new ∧
      new.key = "\n".intercalate kept.remaining ∧
      new.channelInfo =
        { row.channelInfo.withMaps kept.newStatus kept.newReason kept.newTime with
          multiKeySize := kept.remaining.length
          multiKeyPollingIndex := cursor } := by
  obtain ⟨middle, saves, persisted⟩ := bind_ok_iff.mp done
  have saved := saveKeyManagementState_row saves found (syncChannelStatus_columns _ _ now).2
  have moved := persistMultiKeyPollingIndex_row persisted saved rfl
  have written := syncChannelStatus_keys
    { row with
      key := "\n".intercalate kept.remaining
      channelInfo :=
        { row.channelInfo.withMaps kept.newStatus kept.newReason kept.newTime with
          multiKeySize := kept.remaining.length } }
    reason now
  have info := replace_channelInfo (applyReindexedKeys row kept reason now) row.channelInfo rfl
    written.2
  refine ⟨_, moved, written.1, ?_⟩
  exact congrArg (fun info : ChannelInfo => { info with multiKeyPollingIndex := cursor }) info

theorem reindexed_keyTable {kept : Reindexed} {cursor : Int}
    (found : tables.channels.lookup row.id = some row)
    (trimmed : ∀ key ∈ kept.remaining, trimSpace key = key) (joinable : Rejoinable kept.remaining)
    (done : ((tables.saveKeyManagementState
      (applyReindexedKeys row kept reason now) true).bind fun tables =>
        tables.persistMultiKeyPollingIndex row.id cursor) = .ok next) :
    ∃ new, next.channels.lookup row.id = some new ∧
      new.channelInfo.isMultiKey = row.channelInfo.isMultiKey ∧
      new.keyTable = kept.entries := by
  obtain ⟨new, located, key, info⟩ := reindexed_row found done
  refine ⟨new, located, ?_, ?_⟩
  · rw [info]
    rfl
  · unfold keyTable getKeys
    rw [key, info, parseChannelKeyList_joined trimmed joinable]
    rfl

theorem keptWithoutKey_entries (channel : Channel) (index : Nat) :
    (keptWithoutKey channel index).entries = channel.keyTable.eraseIdx index := by
  unfold keptWithoutKey
  rw [reindexKeys_entries channel.channelInfo _
    (fun kept fresh key index => keep_entries channel.channelInfo fresh key index)
    channel.getKeys noKeys 0 noKeys_fresh]
  exact survivors_eraseIdx _ index channel.getKeys 0 (Nat.zero_le index)

theorem keptWithoutAutoDisabled_entries (channel : Channel) :
    (keptWithoutAutoDisabled channel).entries =
      channel.keyTable.filter fun entry => !entry.2.isAutoDisabled := by
  unfold keptWithoutAutoDisabled
  rw [reindexKeys_entries channel.channelInfo _
    (fun kept fresh key index => keepDisabled_entries channel.channelInfo fresh key index)
    channel.getKeys noKeys 0 noKeys_fresh]
  exact survivors_filter channel.channelInfo channel.getKeys 0

theorem trimmed_of_sublist {channel : Channel} {kept : Reindexed}
    (sublist : kept.entries.Sublist channel.keyTable) :
    ∀ key ∈ kept.remaining, trimSpace key = key := by
  have keys : kept.remaining.Sublist channel.getKeys := by
    rw [remaining_eq, ← map_fst_keyTable]
    exact sublist.map Prod.fst
  intro key member
  exact parseChannelKeyList_trimmed channel.key key (keys.subset member)

theorem deleteMultiKeyAtIndex_keyTable (found : tables.channels.lookup row.id = some row)
    (storable : KeyCall.Storable ⟨.deleteAt keyIndex, now⟩ row)
    (done : tables.deleteMultiKeyAtIndex row.id keyIndex now = .ok next) :
    ∃ new, next.channels.lookup row.id = some new ∧
      new.channelInfo.isMultiKey = row.channelInfo.isMultiKey ∧
      new.keyTable = row.keyTable.eraseIdx keyIndex.toNat := by
  obtain ⟨channel, locked, rest⟩ := bind_ok_iff.mp done
  have same := lock_found found locked
  subst same
  dsimp only at rest
  split at rest
  · cases rest
  split at rest
  · cases rest
  have entries := keptWithoutKey_entries channel keyIndex.toNat
  have remaining : (keptWithoutKey channel keyIndex.toNat).remaining =
      channel.getKeys.eraseIdx keyIndex.toNat := by
    rw [remaining_eq, entries, ← map_fst_keyTable, List.eraseIdx_map]
  have joinable := storable (by omega) (by omega)
  rw [← remaining] at joinable
  rw [← entries]
  apply reindexed_keyTable found _ joinable rest
  apply trimmed_of_sublist
  rw [entries]
  exact List.eraseIdx_sublist _ _

theorem exists_autoDisabled (channel : Channel)
    (removes : (List.range channel.getKeys.length).filter
      (isAutoDisabled channel.channelInfo) ≠ []) :
    ∃ entry ∈ channel.keyTable, entry.2.isAutoDisabled = true := by
  obtain ⟨index, listed⟩ := List.exists_mem_of_ne_nil _ removes
  obtain ⟨inside, auto⟩ := List.mem_filter.mp listed
  have below : index < channel.keyTable.length := by
    simpa [keyTable, keyEntries] using inside
  refine ⟨channel.keyTable[index], List.getElem_mem below, ?_⟩
  have entry : channel.keyTable[index].2 = channel.channelInfo.keyState index := by
    simp [keyTable, keyEntries]
  rw [entry, isAutoDisabled_keyState]
  exact auto

theorem deleteAutoDisabledMultiKeys_keyTable (found : tables.channels.lookup row.id = some row)
    (storable : KeyCall.Storable ⟨.deleteAutoDisabled, now⟩ row)
    (done : tables.deleteAutoDisabledMultiKeys row.id now = .ok next) :
    ∃ new, next.channels.lookup row.id = some new ∧
      new.channelInfo.isMultiKey = row.channelInfo.isMultiKey ∧
      new.keyTable = row.keyTable.filter fun entry =>
        !entry.2.isAutoDisabled := by
  obtain ⟨channel, locked, rest⟩ := bind_ok_iff.mp done
  have same := lock_found found locked
  subst same
  dsimp only at rest
  split at rest
  · cases rest
  rename_i removes
  have entries := keptWithoutAutoDisabled_entries channel
  have joinable := storable (exists_autoDisabled channel removes)
  rw [← entries, ← remaining_eq] at joinable
  rw [← entries]
  apply reindexed_keyTable found _ joinable rest
  apply trimmed_of_sublist
  rw [entries]
  exact List.filter_sublist

theorem run_keyTable {call : KeyCall} (multiKey : row.channelInfo.isMultiKey = true)
    (found : tables.channels.lookup row.id = some row) (storable : call.Storable row)
    (done : (call.call row.id).run tables = .ok next) :
    ∃ new, next.channels.lookup row.id = some new ∧ new.channelInfo.isMultiKey = true ∧
      new.keyTable = call.apply row.keyTable := by
  obtain ⟨action, now⟩ := call
  rw [← multiKey]
  cases action with
  | disable keyIndex => exact disableMultiKey_keyTable found done
  | enable keyIndex => exact enableMultiKey_keyTable found done
  | report usingKey named status reason =>
    obtain ⟨new, located, kind, table⟩ := updateChannelStatus_keyTable multiKey named found done
    refine ⟨new, located, kind.trans multiKey.symm, ?_⟩
    rw [table, ← findIdx_keyEntries row.channelInfo.keyState usingKey row.getKeys 0]
    rfl
  | deleteAt keyIndex => exact deleteMultiKeyAtIndex_keyTable found storable done
  | deleteAutoDisabled => exact deleteAutoDisabledMultiKeys_keyTable found storable done

/-- The keys of a channel with what the calls of a run have written for them.
A call that fails writes nothing. -/
def writtenKeys (id : Nat) :
    RoutingTables → List KeyCall → List (String × KeyState) → List (String × KeyState)
  | _, [], table => table
  | tables, call :: calls, table =>
    writtenKeys id (step tables (call.call id)) calls
      (match (call.call id).run tables with
        | .ok _ => call.apply table
        | .error _ => table)

def executeKeyCalls (id : Nat) (tables : RoutingTables) (calls : List KeyCall) :
    RoutingTables :=
  execute (fun tables (call : KeyCall) => step tables (call.call id)) tables calls

/-- The stored text is read back as the keys that no call has deleted, each
with the status, the reason and the time last written for it. -/
def KeysFollow (id : Nat) (tables : RoutingTables) (calls : List KeyCall) :
    Prop :=
  ∀ row, tables.channels.lookup id = some row →
    row.channelInfo.isMultiKey = true →
      ∃ new, (executeKeyCalls id tables calls).channels.lookup id = some new ∧
        new.getKeys = (writtenKeys id tables calls row.keyTable).map Prod.fst ∧
        new.keyTable = writtenKeys id tables calls row.keyTable

def StorableRun (id : Nat) (tables : RoutingTables) (calls : List KeyCall) :
    Prop :=
  GuardedRun (fun tables (call : KeyCall) => step tables (call.call id))
    (fun tables call => ∀ row, tables.channels.lookup id = some row → call.Storable row)
    tables calls

/-- Key statuses follow their keys, as long as every deletion leaves keys that
can be stored. -/
theorem key_statuses_follow (id : Nat) (calls : List KeyCall) :
    ∀ tables : RoutingTables, StorableRun id tables calls → KeysFollow id tables calls := by
  induction calls with
  | nil =>
    intro tables _ row found _
    exact ⟨row, found, (map_fst_keyTable row).symm, rfl⟩
  | cons call calls ih =>
    intro tables run row found multiKey
    have storable := run.1
    have rest : StorableRun id (step tables (call.call id)) calls := run.2
    have rowId : row.id = id := KeyedTable.key_of_lookup found
    have reached : executeKeyCalls id tables (call :: calls) =
        executeKeyCalls id (step tables (call.call id)) calls :=
      rfl
    rw [reached]
    unfold writtenKeys
    cases outcome : (call.call id).run tables with
    | error err =>
      have after : step tables (call.call id) = tables := by rw [step, outcome, commit_error]
      rw [after] at rest ⊢
      exact ih tables rest row found multiKey
    | ok next =>
      have after : step tables (call.call id) = next := by rw [step, outcome, commit_ok]
      rw [after] at rest ⊢
      have allowed := storable row found
      subst rowId
      obtain ⟨new, located, newMultiKey, table⟩ := run_keyTable multiKey found allowed outcome
      have follows := ih next rest new located newMultiKey
      rw [table] at follows
      exact follows

end RoutingTables

end Keys

namespace RoutingTables

def newMultiKey (key : String) (size : Nat) : Channel :=
  { newChannel "default" "a" with
    key := key
    channelInfo := ⟨true, size, ∅, ∅, ∅, 0, .random⟩ }

def multiKeyTables (key : String) (size : Nat) : RoutingTables :=
  @step linesOnly RoutingTables.empty ⟨.insert (newMultiKey key size), 0⟩

def reportThenDelete : List KeyCall :=
  [⟨.report "b" (by decide +kernel) channelStatusAutoDisabled "quota", 1⟩, ⟨.deleteAt 0, 2⟩]

/-- Without a blank line the report follows its key. -/
theorem key_statuses_follow_deletion :
    @StorableRun linesOnly 1 (multiKeyTables "a\nb\nc" 3) reportThenDelete ∧
      @KeysFollow linesOnly 1 (multiKeyTables "a\nb\nc" 3) reportThenDelete := by
  have storable :
      @StorableRun linesOnly 1 (multiKeyTables "a\nb\nc" 3)
        reportThenDelete := by
    refine ⟨fun _ _ => trivial, ?_, trivial⟩
    intro row found _ _
    have keys : (((@step linesOnly (multiKeyTables "a\nb\nc" 3)
        (KeyCall.call 1 ⟨.report "b" (by decide +kernel)
          channelStatusAutoDisabled "quota", 1⟩)).channels.lookup 1).map
            fun row => @Channel.getKeys linesOnly row) =
        some ["a", "b", "c"] := by
      decide +kernel
    rw [found, Option.map_some] at keys
    rw [Option.some.inj keys]
    refine @Rejoinable.mk linesOnly _ ?_ ?_ ?_ ?_
    · decide +kernel
    · decide +kernel
    · decide +kernel
    · exact fun _ => rfl
  exact ⟨storable, @key_statuses_follow linesOnly 1 reportThenDelete _ storable⟩

/-- The list "a", "", "b" is stored as "\n" and "b" after the deletion of "a".
The blank line is lost when the text is read back, and the failed key is at an
index without a status. -/
theorem key_status_lost :
    ¬ @KeysFollow linesOnly 1 (multiKeyTables "a\n\nb" 3) reportThenDelete := by
  intro follows
  obtain ⟨row, found⟩ : ∃ row, (multiKeyTables "a\n\nb" 3).channels.lookup 1 = some row :=
    Option.isSome_iff_exists.mp (by decide +kernel)
  have multiKey : ((multiKeyTables "a\n\nb" 3).channels.lookup 1).all
      (·.channelInfo.isMultiKey) = true := by
    decide +kernel
  have written : ((multiKeyTables "a\n\nb" 3).channels.lookup 1).map
      (fun row => @writtenKeys linesOnly 1 (multiKeyTables "a\n\nb" 3)
        reportThenDelete (@Channel.keyTable linesOnly row)) =
      some [("", .enabled), ("b", .disabled channelStatusAutoDisabled
        (some "quota") (some 1))] := by
    decide +kernel
  have readBack : ((@executeKeyCalls linesOnly 1 (multiKeyTables "a\n\nb" 3)
      reportThenDelete).channels.lookup 1).map (fun row => @Channel.keyTable linesOnly row) =
      some [("b", .enabled)] := by
    decide +kernel
  rw [found] at multiKey written
  obtain ⟨new, located, _, table⟩ := follows row found multiKey
  rw [located, Option.map_some, table] at readBack
  exact absurd (readBack.symm.trans written) (by decide)

end RoutingTables

end NewApi.Channels
