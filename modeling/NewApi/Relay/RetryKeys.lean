import Mathlib.Data.List.GetD
import NewApi.Channels.KeyStatuses
import NewApi.Relay.RetryLoop

/-!
# Keys left for a rotation

A rotation needs an enabled key of an enabled channel that the request has not
used.  The disables that the request reports itself name used keys, so they
take no such key away.
-/

namespace NewApi.Relay

open GoStrings NewApi.Channels Transactions RoutingTables Channel

section Keys

variable [JsonCodec]

def Unused (used : List String) (entry : String × KeyState) : Prop :=
  trimSpace entry.1 ≠ "" ∧ trimSpace entry.1 ∉ used ∧ entry.2 = .enabled

instance (used : List String) : DecidablePred (Unused used) := fun _ =>
  inferInstanceAs (Decidable (_ ∧ _ ∧ _))

structure RotationReady (channel : Channel) (used : List String) : Prop where
  enabled : channel.status = channelStatusEnabled
  multiKey : channel.channelInfo.isMultiKey = true
  unused : ∃ entry ∈ channel.keyTable, Unused used entry

omit [JsonCodec] in
theorem keyState_enabled_iff (info : ChannelInfo) (index : Nat) : info.keyState index = .enabled ↔
      multiKeyStatus info.multiKeyStatusList index = channelStatusEnabled := by
  unfold ChannelInfo.keyState keyStateOf
  by_cases enabled : multiKeyStatus info.multiKeyStatusList index = channelStatusEnabled
  · simp [enabled]
  · simp [enabled]

theorem nextUnusedEnabledKey_eq (channel : Channel) (used : List String) :
    RetryLoop.nextUnusedEnabledKey channel used =
      (channel.keyTable.find? fun entry => Unused used entry).map
        fun entry => trimSpace entry.1 := by
  unfold RetryLoop.nextUnusedEnabledKey keyTable keyEntries
  rw [List.mapIdx_eq_zipIdx_map, List.find?_map, Option.map_map]
  congr 1
  congr 1
  funext entry
  simp only [Function.comp_apply, Unused, Nat.zero_add, keyState_enabled_iff,
    Bool.decide_and, Bool.and_assoc]

theorem nextUnusedEnabledKey_isSome (channel : Channel) (used : List String) :
    (RetryLoop.nextUnusedEnabledKey channel used).isSome = true ↔
      ∃ entry ∈ channel.keyTable, Unused used entry := by
  rw [nextUnusedEnabledKey_eq, Option.isSome_map, List.find?_isSome]
  simp only [decide_eq_true_eq]

variable {channel : Channel} {used : List String}

theorem nextUnusedEnabledKey_some {key : String}
    (found : RetryLoop.nextUnusedEnabledKey channel used = some key) :
    trimSpace key = key ∧ key ≠ "" ∧ key ∉ used := by
  rw [nextUnusedEnabledKey_eq] at found
  obtain ⟨entry, located, rfl⟩ := Option.map_eq_some_iff.mp found
  have passes := List.find?_some located
  have unused : Unused used entry := of_decide_eq_true passes
  exact ⟨trimSpace_trimSpace entry.1, unused.1, unused.2.1⟩

/-! ## Disables -/

variable {usingKey : String}

omit [JsonCodec] in
theorem exists_unused_withStateAt {table : List (String × KeyState)}
    (usedKey : trimSpace usingKey ∈ used)
    (unused : ∃ entry ∈ table, Unused used entry) (state : KeyState) :
    ∃ entry ∈ withStateAt
        (table.findIdx? fun entry => trimSpace entry.1 = trimSpace usingKey)
        state table, Unused used entry := by
  obtain ⟨entry, member, fits⟩ := unused
  refine ⟨entry, ?_, fits⟩
  unfold withStateAt
  cases located : table.findIdx? fun entry => trimSpace entry.1 = trimSpace usingKey with
  | none => exact member
  | some index =>
    obtain ⟨below, named, _⟩ := List.findIdx?_eq_some_iff_getElem.mp located
    obtain ⟨position, inside, atPosition⟩ := List.mem_iff_getElem.mp member
    have different : index ≠ position := by
      intro same
      have sameKey : trimSpace entry.1 = trimSpace usingKey := by
        rw [← atPosition]
        subst same
        exact of_decide_eq_true named
      exact fits.2.1 (sameKey ▸ usedKey)
    apply List.mem_iff_getElem.mpr
    refine ⟨position, by simpa using inside, ?_⟩
    rw [List.getElem_modify, if_neg different]
    exact atPosition

theorem hasEnabledMultiKey_of_unused (unused : ∃ entry ∈ channel.keyTable, Unused used entry) :
    hasEnabledMultiKey channel.getKeys channel.channelInfo.multiKeyStatusList = true := by
  obtain ⟨entry, member, fits⟩ := unused
  unfold keyTable keyEntries at member
  rw [List.mapIdx_eq_zipIdx_map] at member
  obtain ⟨⟨key, index⟩, listed, rfl⟩ := List.mem_map.mp member
  apply List.any_eq_true.mpr
  refine ⟨(key, index), listed, ?_⟩
  have enabled := (keyState_enabled_iff channel.channelInfo index).mp (by simpa using fits.2.2)
  simp only [enabled, decide_true, Bool.and_true, decide_eq_true_eq]
  exact fits.1

omit [JsonCodec] in
theorem disableKey_keyState (info : ChannelInfo) (index : Nat) {status : Int}
    (disabled : status ≠ channelStatusEnabled) (reason : String) (now : Int) :
    (info.disableKey index status reason now).keyState index =
        .disabled status (some reason) (some now) ∧
      ∀ other, other ≠ index →
        (info.disableKey index status reason now).keyState other = info.keyState other := by
  constructor
  · apply keyState_disabled disabled
    all_goals exact AList.lookup_insert _
  · intro other different
    apply keyState_congr
    all_goals exact AList.lookup_insert_ne different

theorem handlerMultiKeyUpdate_status
    (ready : RotationReady channel used) (usedKey : trimSpace usingKey ∈ used)
    (named : trimSpace usingKey ≠ "") (reason : String) (now : Int) :
    (handlerMultiKeyUpdate channel usingKey channelStatusAutoDisabled reason
      now).status = channel.status := by
  have some_key : channel.getKeys ≠ [] := by
    obtain ⟨entry, member, _⟩ := ready.unused
    intro noKeys
    unfold keyTable keyEntries at member
    rw [noKeys] at member
    cases member
  unfold handlerMultiKeyUpdate
  rw [if_neg some_key]
  cases located : keyIndexOf channel.getKeys usingKey with
  | none => rw [if_pos named]
  | some index =>
    have disabled : channelStatusAutoDisabled ≠ channelStatusEnabled := by decide
    let changed : Channel :=
      { channel with
        channelInfo := channel.channelInfo.disableKey index channelStatusAutoDisabled reason now }
    have table : changed.keyTable = channel.keyTable.modify index
        fun entry => (entry.1, .disabled channelStatusAutoDisabled (some reason) (some now)) := by
      have sameKey : changed.key = channel.key := rfl
      exact keyTable_modify sameKey
        (disableKey_keyState channel.channelInfo index disabled reason now)
    have unused : ∃ entry ∈ changed.keyTable, Unused used entry := by
      have kept := exists_unused_withStateAt usedKey ready.unused
        (.disabled channelStatusAutoDisabled (some reason) (some now))
      unfold keyTable at kept
      rw [findIdx_keyEntries, located] at kept
      rw [table]
      exact kept
    have enabled : hasEnabledMultiKey channel.getKeys
        (channel.channelInfo.disableKey index channelStatusAutoDisabled reason
          now).multiKeyStatusList = true :=
      hasEnabledMultiKey_of_unused unused
    dsimp only
    rw [if_neg disabled, enabled]
    simp [disabled]

variable {tables next : RoutingTables}

theorem RotationReady.disabled {row : Channel}
    {reason : String} {now : Int} (ready : RotationReady row used)
    (usedKey : trimSpace usingKey ∈ used) (named : trimSpace usingKey ≠ "")
    (found : tables.channels.lookup row.id = some row)
    (done : tables.updateChannelStatus row.id usingKey
      channelStatusAutoDisabled reason now = .ok next) :
    ∃ new, next.channels.lookup row.id = some new ∧ RotationReady new used := by
  obtain ⟨snapshot, refreshReasonOnly, follow, applied, _, saved⟩ :=
    updateChannelStatus_ok found done
  obtain ⟨new, located, multiKey, table⟩ :=
    updateChannelStatus_keyTable ready.multiKey named found done
  have same : snapshot.statusRow row = new := Option.some.inj (saved.symm.trans located)
  refine ⟨new, located, ?_, multiKey, ?_⟩
  · have written := applyChannelStatusLocked_multiKey ready.multiKey named applied
    have status : snapshot.channel.status =
        (handlerMultiKeyUpdate row usingKey channelStatusAutoDisabled reason now).status := by
      rw [written]
      unfold limitStatusWriteToMultiKey
      split
      · rfl
      · split <;> rfl
    rw [← same]
    exact (status.trans (handlerMultiKeyUpdate_status ready usedKey named reason
      now)).trans ready.enabled
  · rw [table, ← findIdx_keyEntries row.channelInfo.keyState usingKey row.getKeys 0]
    exact exists_unused_withStateAt usedKey ready.unused _

def SameChannels (tables next : RoutingTables) : Prop :=
  ∀ id, (next.channels.lookup id).isSome = (tables.channels.lookup id).isSome

omit [JsonCodec] in
theorem sameChannels_updateChannels
    (tables : RoutingTables) (test : Channel → Bool) {change : Channel → Channel}
    (sameId : ∀ row, (change row).id = row.id) :
    SameChannels tables (tables.updateChannels test change sameId) := by
  intro id
  rw [lookup_updateChannels, Option.isSome_map]

theorem updateChannelStatus_frame {channelId : Nat} {status : Int} {reason : String} {now : Int}
    (done : tables.updateChannelStatus channelId usingKey status reason now = .ok next) :
    SameChannels tables next ∧
      ∀ id, id ≠ channelId → next.channels.lookup id = tables.channels.lookup id := by
  obtain ⟨channel, locked, _⟩ := bind_ok_iff.mp done
  obtain ⟨found, sameId⟩ := lock_ok locked
  subst sameId
  obtain ⟨snapshot, _, _, applied, left, _⟩ := updateChannelStatus_ok found done
  have savedId := (applyChannelStatusLocked_some applied).1
  have rows : ∀ id, next.channels.lookup id = (tables.channels.lookup id).map fun row =>
        if row.id = snapshot.channel.id then snapshot.statusRow row else row := by
    intro id
    rw [left]
    exact lookup_saveStatusState tables snapshot id
  constructor
  · intro id
    rw [rows id, Option.isSome_map]
  · intro id different
    rw [rows id]
    cases located : tables.channels.lookup id with
    | none => rfl
    | some row =>
      have rowId : row.id = id := KeyedTable.key_of_lookup located
      have other : row.id ≠ snapshot.channel.id := by
        rw [rowId, savedId]
        exact different
      rw [Option.map_some, if_neg other]

theorem getNextEnabledKey_sameChannels (tables : RoutingTables) (id : Nat) :
    SameChannels tables (tables.getNextEnabledKey id) := by
  unfold getNextEnabledKey
  split
  · exact fun _ => rfl
  split
  · dsimp only
    split
    · exact fun _ => rfl
    · unfold persistMultiKeyPollingIndex
      split
      · exact sameChannels_updateChannels tables _ (id_withPollingIndex _)
      · exact fun _ => rfl
  · exact fun _ => rfl

theorem trimmed_getD (channel : Channel) (index : Nat) :
    trimSpace (channel.getKeys.getD index "") = channel.getKeys.getD index "" := by
  by_cases inside : index < channel.getKeys.length
  · rw [List.getD_eq_getElem _ _ inside]
    exact parseChannelKeyList_trimmed channel.key _ (List.getElem_mem inside)
  · rw [List.getD_eq_default _ _ (Nat.le_of_not_lt inside), trimSpace_empty]

def GoodKey (key : String) : Prop := trimSpace key = key ∧ key ≠ ""

theorem goodKey_getD {index : Nat} (named : trimSpace (channel.getKeys.getD index "") ≠ "") :
    GoodKey (channel.getKeys.getD index "") := by
  have trimmed := trimmed_getD channel index
  rw [trimmed] at named
  exact ⟨trimmed, named⟩

theorem goodKey_enabledIndexes {index : Nat} (listed : index ∈ RetryLoop.enabledIndexes channel) :
    GoodKey (channel.getKeys.getD index "") := by
  have fits := (List.mem_filter.mp listed).2
  simp only [Bool.and_eq_true, decide_eq_true_eq] at fits
  exact goodKey_getD fits.1

theorem getNextEnabledKey_some {keyRoll : Nat} {key : String}
    (chosen : RetryLoop.getNextEnabledKey tables channel keyRoll = some (key, next)) :
    SameChannels tables next ∧ (channel.channelInfo.isMultiKey = true → GoodKey key) := by
  have same : SameChannels tables tables := fun _ => rfl
  unfold RetryLoop.getNextEnabledKey at chosen
  by_cases single : channel.channelInfo.isMultiKey = false
  · rw [if_pos single] at chosen
    cases chosen
    refine ⟨same, fun multiKey => ?_⟩
    rw [single] at multiKey
    cases multiKey
  · rw [if_neg single] at chosen
    split at chosen
    · cases chosen
    rename_i fresh _
    dsimp only at chosen
    split at chosen
    · cases chosen
    rename_i first others listed
    have firstListed : first ∈ RetryLoop.enabledIndexes fresh := by
      rw [listed]
      exact List.mem_cons_self
    split at chosen
    · cases chosen
      refine ⟨same, fun _ => goodKey_enabledIndexes ?_⟩
      rw [List.getD_eq_getElem?_getD]
      cases position : (RetryLoop.enabledIndexes fresh)[keyRoll %
          (RetryLoop.enabledIndexes fresh).length]? with
      | none => exact firstListed
      | some index => exact List.mem_of_getElem? position
    · obtain ⟨index, polled, parts⟩ := Option.map_eq_some_iff.mp chosen
      cases parts
      refine ⟨getNextEnabledKey_sameChannels tables channel.id, fun _ => ?_⟩
      have fits := List.find?_some polled
      simp only [Bool.and_eq_true, decide_eq_true_eq] at fits
      exact goodKey_getD fits.1
    · cases chosen
      exact ⟨same, fun _ => goodKey_enabledIndexes firstListed⟩

end Keys

end NewApi.Relay
