import NewApi.Channels.AbilityProduct

/-!
# The disable of an operator

Automatic operations report a key as broken or recovered, manage single keys
or poll for one.  None of them takes a channel out of the status that an
operator gave it, on any of the branches of the status flow.
-/

namespace NewApi.Channels

open GoStrings Transactions RoutingTables

theorem preserveManualDisable_auto :
    preserveManualDisable channelStatusManuallyDisabled
      channelStatusAutoDisabled = channelStatusManuallyDisabled :=
  rfl

section Guards

variable [JsonCodec]

/-- The third guard: keys do not open or close a manually disabled channel. -/
theorem syncChannelStatus_manual
    (channel : Channel) (manual : channel.status = channelStatusManuallyDisabled)
    (reason : String) (now : Int) :
    syncChannelStatusWithEnabledKeys channel reason now = channel := by
  unfold syncChannelStatusWithEnabledKeys
  split <;> rfl

theorem handlerMultiKeyUpdate_manual
    {channel : Channel} (manual : channel.status = channelStatusManuallyDisabled)
    (usingKey reason : String) (now : Int) :
    (handlerMultiKeyUpdate channel usingKey channelStatusAutoDisabled reason
      now).status = channelStatusManuallyDisabled := by
  have kept : preserveManualDisable channel.status channelStatusAutoDisabled =
      channelStatusManuallyDisabled := by
    rw [manual, preserveManualDisable_auto]
  have notEnabled : channelStatusAutoDisabled ≠ channelStatusEnabled := by decide
  unfold handlerMultiKeyUpdate
  simp only [notEnabled, if_false, false_and]
  split
  · exact kept
  split
  · split
    · exact manual
    · split
      · exact kept
      · exact kept
  · split
    · split
      · exact kept
      · exact manual
    · exact manual

/-- What automation may ask for: a disable for any key, or an enable for a key
that is not blank. -/
def AutomaticStatus (usingKey : String) (status : Int) : Prop :=
  status = channelStatusAutoDisabled ∨ (status = channelStatusEnabled ∧ trimSpace usingKey ≠ "")

/-- All guards together: whatever is saved of a manually disabled channel, it
is saved as manually disabled. -/
theorem applyChannelStatusLocked_manual
    {channel : Channel} {usingKey : String} {status : Int} {reason : String}
    {refreshReasonOnly : Bool} {now : Int} {snapshot : ChannelSnapshot}
    {follow : Bool} (manual : channel.status = channelStatusManuallyDisabled)
    (automatic : AutomaticStatus usingKey status)
    (applied : applyChannelStatusLocked channel usingKey status reason
      refreshReasonOnly now = some (snapshot, follow)) :
    snapshot.channel.status = channelStatusManuallyDisabled := by
  unfold applyChannelStatusLocked at applied
  rcases automatic with rfl | ⟨rfl, keyed⟩
  · have differs : channel.status ≠ channelStatusAutoDisabled := by
      rw [manual]
      decide
    rw [if_neg (fun guard => absurd guard.1 (by decide)), if_neg differs] at applied
    split at applied
    · have saved : prepareMultiKeyStatusWrite (handlerMultiKeyUpdate channel
          usingKey channelStatusAutoDisabled reason now) usingKey
            channelStatusAutoDisabled = snapshot :=
        congrArg Prod.fst (Option.some.inj applied)
      rw [← saved, (prepareMultiKeyStatusWrite_channel _ _ _).2]
      exact handlerMultiKeyUpdate_manual manual usingKey reason now
    · have refused : preserveManualDisable channel.status
          channelStatusAutoDisabled ≠ channelStatusAutoDisabled := by
        rw [manual]
        decide
      rw [if_pos (Or.inr refused)] at applied
      cases applied
  · have reopens : keyedEnableReopensManualDisable channel.status usingKey
        channelStatusEnabled = true := by
      simp [keyedEnableReopensManualDisable, manual, keyed]
    rw [if_pos ⟨rfl, keyed, reopens⟩] at applied
    cases applied

end Guards

namespace RoutingTables

def ManuallyDisabled (tables : RoutingTables) (id : Nat) : Prop :=
  (∃ row, tables.channels.lookup id = some row ∧ row.status = channelStatusManuallyDisabled) ∧
  ∀ group model ability, tables.abilityAt group model id = some ability → ability.enabled = false

variable {tables : RoutingTables} {id : Nat}

/-- Where abilities reflect their rows, the status of the row decides. -/
theorem manuallyDisabled_of_reflectsAt {row : Channel} (reflects : tables.ReflectsAt id)
    (found : tables.channels.lookup id = some row)
    (manual : row.status = channelStatusManuallyDisabled) :
    tables.ManuallyDisabled id := by
  refine ⟨⟨row, found, manual⟩, ?_⟩
  intro group model ability located
  rw [reflects, found, Option.bind_some, Channel.abilityFor] at located
  split at located
  · rw [← Option.some.inj located]
    simp [Channel.ability, manual, channelStatusManuallyDisabled, channelStatusEnabled]
  · cases located

variable {next : RoutingTables}

theorem ManuallyDisabled.of_rows (before : tables.ManuallyDisabled id)
    (rows : ∀ row, tables.channels.lookup id = some row →
      ∃ new, next.channels.lookup id = some new ∧ new.status = row.status)
    (abilities : ∀ group model, next.abilityAt group model id = tables.abilityAt group model id) :
    next.ManuallyDisabled id := by
  obtain ⟨⟨row, found, manual⟩, off⟩ := before
  obtain ⟨new, located, kept⟩ := rows row found
  refine ⟨⟨new, located, kept.trans manual⟩, ?_⟩
  intro group model ability stored
  rw [abilities] at stored
  exact off group model ability stored

theorem saveKeyManagementState_manual {snapshot : ChannelSnapshot} {includeKey : Bool}
    (saved : tables.saveKeyManagementState snapshot includeKey = .ok next)
    (kept : snapshot.channel.id = id → snapshot.channel.status = channelStatusManuallyDisabled)
    (before : tables.ManuallyDisabled id) : next.ManuallyDisabled id := by
  obtain ⟨rows, reflects, others⟩ := updateAbilities_ok saved
  have located := lookup_updateChannels tables (fun row => row.id = snapshot.channel.id)
    (snapshot.id_keyManagementRow includeKey) id
  rw [← rows] at located
  obtain ⟨⟨row, found, manual⟩, off⟩ := before
  have rowId : row.id = id := KeyedTable.key_of_lookup found
  rw [found, Option.map_some] at located
  by_cases same : snapshot.channel.id = id
  · rw [same] at reflects
    rw [if_pos (by simp [rowId, same])] at located
    exact manuallyDisabled_of_reflectsAt reflects located (kept same)
  · rw [if_neg (by simp [rowId, Ne.symm same])] at located
    refine ManuallyDisabled.of_rows ⟨⟨row, found, manual⟩, off⟩ ?_ (others id (Ne.symm same))
    intro old oldFound
    rw [found] at oldFound
    exact ⟨row, located, congrArg Channel.status (Option.some.inj oldFound)⟩

variable {channelID : Nat}

theorem persistMultiKeyPollingIndex_manual {nextIndex : Int}
    (persisted : tables.persistMultiKeyPollingIndex channelID nextIndex = .ok next)
    (before : tables.ManuallyDisabled id) : next.ManuallyDisabled id := by
  unfold persistMultiKeyPollingIndex at persisted
  split at persisted
  · rw [← Except.ok.inj persisted]
    refine before.of_rows ?_ fun _ _ => rfl
    intro row found
    have located := lookup_updateChannels tables (fun row => row.id = channelID)
      (Channel.id_withPollingIndex nextIndex) id
    rw [found, Option.map_some] at located
    refine ⟨_, located, ?_⟩
    split <;> rfl
  · cases persisted

theorem saveReindexed_manual {snapshot : ChannelSnapshot} {cursor : Int}
    (done : (tables.saveKeyManagementState snapshot true).bind
      (fun tables => tables.persistMultiKeyPollingIndex channelID cursor) = .ok next)
    (kept : snapshot.channel.id = id → snapshot.channel.status = channelStatusManuallyDisabled)
    (before : tables.ManuallyDisabled id) : next.ManuallyDisabled id := by
  obtain ⟨middle, saved, persisted⟩ := bind_ok_iff.mp done
  exact persistMultiKeyPollingIndex_manual persisted
    (saveKeyManagementState_manual saved kept before)

theorem ManuallyDisabled.locked {channel : Channel} (before : tables.ManuallyDisabled id)
    (locked : tables.lockChannelForUpdate channelID = .ok channel) (same : channelID = id) :
    channel.status = channelStatusManuallyDisabled := by
  obtain ⟨⟨row, found, manual⟩, _⟩ := before
  have stored := (lock_ok locked).1
  rw [same, found] at stored
  rw [← Option.some.inj stored]
  exact manual

/-! ## Operations -/

section Operations

variable [JsonCodec]

variable {tables : RoutingTables} {channelID id : Nat}

theorem ManuallyDisabled.synced {channel : Channel} (before : tables.ManuallyDisabled id)
    (locked : tables.lockChannelForUpdate channelID = .ok channel)
    (key : String) (info : ChannelInfo) (reason : String) (now : Int) :
    let synced := syncChannelStatusWithEnabledKeys
      { channel with key := key, channelInfo := info } reason now
    synced.id = id → synced.status = channelStatusManuallyDisabled := by
  intro synced same
  have syncedId : synced.id = channel.id := (syncChannelStatus_columns _ reason now).2
  have channelId : channelID = id := by
    rw [← same, syncedId]
    exact (lock_ok locked).2.symm
  have manual : channel.status = channelStatusManuallyDisabled := before.locked locked channelId
  have unchanged : synced = { channel with key := key, channelInfo := info } :=
    syncChannelStatus_manual { channel with key := key, channelInfo := info } manual reason now
  rw [unchanged]
  exact manual

variable {next : RoutingTables} {keyIndex now : Int}

theorem disableMultiKey_manual (done : tables.disableMultiKey channelID keyIndex now = .ok next)
    (before : tables.ManuallyDisabled id) : next.ManuallyDisabled id := by
  obtain ⟨channel, locked, rest⟩ := bind_ok_iff.mp done
  split at rest
  · cases rest
  refine saveKeyManagementState_manual rest ?_ before
  exact before.synced locked _ _ _ now

theorem enableMultiKey_manual (done : tables.enableMultiKey channelID keyIndex now = .ok next)
    (before : tables.ManuallyDisabled id) : next.ManuallyDisabled id := by
  obtain ⟨channel, locked, rest⟩ := bind_ok_iff.mp done
  split at rest
  · cases rest
  refine saveKeyManagementState_manual rest ?_ before
  exact before.synced locked _ _ _ now

theorem enableAllMultiKeys_manual (done : tables.enableAllMultiKeys channelID now = .ok next)
    (before : tables.ManuallyDisabled id) : next.ManuallyDisabled id := by
  obtain ⟨channel, locked, rest⟩ := bind_ok_iff.mp done
  refine saveKeyManagementState_manual rest ?_ before
  exact before.synced locked _ _ _ now

theorem disableAllMultiKeys_manual (done : tables.disableAllMultiKeys channelID now = .ok next)
    (before : tables.ManuallyDisabled id) : next.ManuallyDisabled id := by
  obtain ⟨channel, locked, rest⟩ := bind_ok_iff.mp done
  obtain ⟨-, rest⟩ := guard_ok_iff.mp rest
  refine saveKeyManagementState_manual rest ?_ before
  exact before.synced locked _ _ _ now

theorem deleteMultiKeyAtIndex_manual
    (done : tables.deleteMultiKeyAtIndex channelID keyIndex now = .ok next)
    (before : tables.ManuallyDisabled id) : next.ManuallyDisabled id := by
  obtain ⟨channel, locked, rest⟩ := bind_ok_iff.mp done
  obtain ⟨-, rest⟩ := guard_ok_iff.mp rest
  obtain ⟨-, rest⟩ := guard_ok_iff.mp rest
  refine saveReindexed_manual rest ?_ before
  exact before.synced locked _ _ _ now

theorem deleteAutoDisabledMultiKeys_manual
    (done : tables.deleteAutoDisabledMultiKeys channelID now = .ok next)
    (before : tables.ManuallyDisabled id) : next.ManuallyDisabled id := by
  obtain ⟨channel, locked, rest⟩ := bind_ok_iff.mp done
  obtain ⟨-, rest⟩ := guard_ok_iff.mp rest
  refine saveReindexed_manual rest ?_ before
  exact before.synced locked _ _ _ now

theorem getNextEnabledKey_manual (channelID : Nat) (before : tables.ManuallyDisabled id) :
    (tables.getNextEnabledKey channelID).ManuallyDisabled id := by
  unfold getNextEnabledKey
  cases tables.channels.lookup channelID with
  | none => exact before
  | some fresh =>
    dsimp only
    split
    · split
      · exact before
      · rename_i index _
        cases outcome : tables.persistMultiKeyPollingIndex channelID
            ((index + 1) % fresh.getKeys.length : Nat) with
        | ok next => exact persistMultiKeyPollingIndex_manual outcome before
        | error err => exact before
    · exact before

theorem updateChannelStatus_manual {usingKey : String} {status : Int} {reason : String}
    (automatic : AutomaticStatus usingKey status)
    (done : tables.updateChannelStatus channelID usingKey status reason now = .ok next)
    (before : tables.ManuallyDisabled id) : next.ManuallyDisabled id := by
  obtain ⟨channel, locked, rest⟩ := bind_ok_iff.mp done
  obtain ⟨found, channelId⟩ := lock_ok locked
  cases outcome : applyChannelStatusLocked channel usingKey status reason
      (decide (status = channelStatusAutoDisabled ∧ trimSpace reason ≠ ""))
      now with
  | none =>
    simp only [outcome] at rest
    cases rest
  | some written =>
    obtain ⟨snapshot, follow⟩ := written
    have snapshotId : snapshot.channel.id = channelID :=
      (applyChannelStatusLocked_some outcome).1.trans channelId
    simp only [outcome] at rest
    rw [← Except.ok.inj rest]
    have rows := lookup_saveStatusState tables snapshot id
    obtain ⟨⟨row, located, manual⟩, off⟩ := before
    have rowId : row.id = id := KeyedTable.key_of_lookup located
    rw [located, Option.map_some, rowId, snapshotId] at rows
    have savedManual : id = channelID →
        snapshot.channel.status = channelStatusManuallyDisabled := by
      intro same
      have stored : channel = row := by
        rw [same, found] at located
        exact Option.some.inj located
      exact applyChannelStatusLocked_manual (stored ▸ manual) automatic outcome
    have saved : (tables.saveStatusState snapshot).ManuallyDisabled id := by
      refine ⟨?_, off⟩
      by_cases same : id = channelID
      · rw [if_pos same] at rows
        exact ⟨_, rows, savedManual same⟩
      · rw [if_neg same] at rows
        exact ⟨row, rows, manual⟩
    cases follow with
    | false => exact saved
    | true =>
      refine ⟨saved.1, ?_⟩
      intro group model ability stored
      have updated := (abilityAt_updateAbilityEnabled (tables.saveStatusState snapshot) channelID
        (snapshot.channel.status = channelStatusEnabled) group model
        id).symm.trans stored
      obtain ⟨old, oldStored, rfl⟩ := Option.map_eq_some_iff.mp updated
      have owner : old.channelId = id := (abilityAt_key oldStored).2.2
      rw [owner]
      by_cases same : id = channelID
      · rw [if_pos same, savedManual same]
        rfl
      · rw [if_neg same]
        exact saved.2 group model old oldStored

def Automatic (call : Call) : Prop :=
  match call.operation with
  | .updateChannelStatus _ usingKey status _ => AutomaticStatus usingKey status
  | .disableMultiKey _ _ => True
  | .enableMultiKey _ _ => True
  | .enableAllMultiKeys _ => True
  | .disableAllMultiKeys _ => True
  | .deleteMultiKeyAtIndex _ _ => True
  | .deleteAutoDisabledMultiKeys _ => True
  | .getNextEnabledKey _ => True
  | _ => False

theorem run_manual {call : Call} (automatic : Automatic call) (done : call.run tables = .ok next)
    (before : tables.ManuallyDisabled id) : next.ManuallyDisabled id := by
  obtain ⟨operation, now⟩ := call
  cases operation with
  | updateChannelStatus channelID usingKey status reason =>
    exact updateChannelStatus_manual automatic done before
  | disableMultiKey channelID keyIndex => exact disableMultiKey_manual done before
  | enableMultiKey channelID keyIndex => exact enableMultiKey_manual done before
  | enableAllMultiKeys channelID => exact enableAllMultiKeys_manual done before
  | disableAllMultiKeys channelID => exact disableAllMultiKeys_manual done before
  | deleteMultiKeyAtIndex channelID keyIndex => exact deleteMultiKeyAtIndex_manual done before
  | deleteAutoDisabledMultiKeys channelID => exact deleteAutoDisabledMultiKeys_manual done before
  | getNextEnabledKey channelID =>
    rw [← Except.ok.inj done]
    exact getNextEnabledKey_manual channelID before
  | insert | batchInsertChannels | updateColumns | enableChannelByTag
  | disableChannelByTag | editChannelByTag | batchSetChannelTag | delete
  | batchDeleteChannels | fixAbility => exact False.elim automatic

theorem step_manual {call : Call}
    (automatic : Automatic call) (before : tables.ManuallyDisabled id) :
    (step tables call).ManuallyDisabled id := by
  unfold step
  cases outcome : call.run tables with
  | ok next => exact run_manual automatic outcome before
  | error err => exact before

/-- A channel that an operator disabled stays disabled, and so do its
abilities, whatever automation does. -/
theorem manual_disable_survives (calls : List Call) :
    ∀ tables : RoutingTables, ∀ id : Nat, tables.ManuallyDisabled id →
      (∀ call ∈ calls, Automatic call) →
      (execute step tables calls).ManuallyDisabled id := by
  induction calls with
  | nil => exact fun _ _ before _ => before
  | cons call calls ih =>
    intro tables id before automatic
    apply ih
    · exact step_manual (automatic call List.mem_cons_self) before
    · exact fun other member => automatic other (List.mem_cons_of_mem _ member)

end Operations

def insertDisabled : Call where
  operation := .insert { newChannel "default" "a" with status := channelStatusManuallyDisabled }
  now := 0

def disabledChannel : RoutingTables := @step linesOnly RoutingTables.empty insertDisabled

theorem disabledChannel_manual : disabledChannel.ManuallyDisabled 1 := by
  have reflects : disabledChannel.Reflects :=
    (@step_maintains linesOnly empty insertDisabled).reflects reflects_empty
  exact manuallyDisabled_of_reflectsAt (reflects 1) rfl (by decide +kernel)

theorem manual_disable_survives_recovery :
    (execute (@step linesOnly) disabledChannel
      [⟨.updateChannelStatus 1 "sk-1" channelStatusAutoDisabled "quota", 1⟩,
        ⟨.updateChannelStatus 1 "sk-1" channelStatusEnabled "", 2⟩]).ManuallyDisabled
      1 := by
  refine @manual_disable_survives linesOnly _ disabledChannel 1 disabledChannel_manual ?_
  intro call listed
  rcases List.mem_cons.mp listed with rfl | later
  · exact Or.inl rfl
  · rw [List.mem_singleton.mp later]
    exact Or.inr ⟨rfl, by decide +kernel⟩

/-- A key of blanks counts as no key: with it an enable is that of an
operator. -/
theorem blank_key_enables : disabledChannel.ManuallyDisabled 1 ∧ " " ≠ "" ∧
      ¬ (execute (@step linesOnly) disabledChannel
        [⟨.updateChannelStatus 1 " " channelStatusEnabled "", 1⟩]).ManuallyDisabled 1 := by
  refine ⟨disabledChannel_manual, by decide, ?_⟩
  rintro ⟨⟨row, found, manual⟩, _⟩
  have enabled : ((execute (@step linesOnly) disabledChannel
      [⟨.updateChannelStatus 1 " " channelStatusEnabled "",
        1⟩]).channels.lookup 1).map Channel.status =
      some channelStatusEnabled := by
    decide +kernel
  rw [found, Option.map_some, manual] at enabled
  exact absurd enabled (by decide)

end RoutingTables

end NewApi.Channels
