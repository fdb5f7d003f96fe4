import NewApi.Relay.RetryBudget

/-!
# The invariant of the retry loop

Between two rounds every request that was sent went to a channel that is
excluded by now or to the channel that is held, with a key that is marked as
used.
-/

namespace NewApi.Relay

open GoStrings NewApi.Channels Transactions

namespace RetryLoop

section Invariant

variable [JsonCodec] [HostSort]

def Held (loop : RetryLoop) (channel : Nat) (key : String) : Prop :=
  ∃ hold, loop.hold = some hold ∧ hold.channelID = channel ∧ trimSpace key ∈ hold.usedKeys

def sentTo (loop : RetryLoop) (channel : Nat) : List (Nat × String) :=
  loop.sent.filter (·.1 = channel)

structure Records (loop : RetryLoop) : Prop where
  nodup : loop.sent.Nodup
  count : ∀ channel, (loop.sentTo channel).length ≤ maxMultiKeyFailuresBeforeFailover
  sent : ∀ pair ∈ loop.sent, pair.1 ∈ loop.failedChannelIds ∨ loop.Held pair.1 pair.2
  reported : ∀ pair ∈ loop.reported,
    pair.1 ∈ loop.failedChannelIds ∨ (loop.Held pair.1 pair.2 ∧ trimSpace pair.2 ≠ "")

def HoldReady (loop : RetryLoop) (hold : MultiKeyRetryHold) : Prop :=
  ∃ row, loop.state.tables.channels.lookup hold.channelID = some row ∧
    RotationReady row hold.usedKeys

structure HoldValid (loop : RetryLoop) (hold : MultiKeyRetryHold) : Prop where
  unfailed : hold.channelID ∉ loop.failedChannelIds
  attempts : hold.attempts < maxMultiKeyFailuresBeforeFailover
  count : (loop.sentTo hold.channelID).length ≤ hold.attempts
  used : (loop.selectedGroup, hold.channelID) ∈ loop.useChannel

/-- What is known of a channel that the distributor selected, as long as it
was not tried. -/
structure Preselected (settings : RelaySettings) (loop : RetryLoop) : Prop where
  stored : (loop.state.tables.channels.lookup loop.channelId).isSome = true
  key : loop.channelIsMultiKey = true → GoodKey loop.channelKey
  unused : loop.useChannel = []
  behind : 0 < settings.retryTimes → loop.selectedGroup ∉ groupsAhead settings loop

structure Inv (settings : RelaySettings) (ids : Finset Nat) (loop : RetryLoop) :
    Prop where
  stored : ∀ id, (loop.state.tables.channels.lookup id).isSome = true ↔ id ∈ ids
  positive : 0 ∉ ids
  records : loop.Records
  spent : Spent settings loop loop.pendingChannels
  hold : ∀ hold, loop.hold = some hold →
    loop.HoldValid hold ∧ loop.HoldReady hold ∧ loop.channelId = hold.channelID
  preselected : loop.hold = none → loop.channelMeta = false →
    loop.channelId ≠ 0 → loop.channelId ∉ loop.failedChannelIds → Preselected settings loop

omit [JsonCodec] [HostSort] in
theorem Records.frame {loop next : RetryLoop} (records : loop.Records)
    (sent : next.sent = loop.sent) (failed : next.failedChannelIds = loop.failedChannelIds)
    (hold : next.hold = loop.hold) (reported : next.reported = loop.reported) : next.Records := by
  have held : ∀ channel key, loop.Held channel key → next.Held channel key := by
    intro channel key before
    unfold Held
    rw [hold]
    exact before
  constructor
  · rw [sent]
    exact records.nodup
  · intro channel
    unfold sentTo
    rw [sent]
    exact records.count channel
  · intro pair listed
    rw [sent] at listed
    rw [failed]
    exact (records.sent pair listed).imp id (held _ _)
  · intro pair listed
    rw [reported] at listed
    rw [failed]
    exact (records.reported pair listed).imp id fun before => ⟨held _ _ before.1, before.2⟩

omit [JsonCodec] [HostSort] in
theorem Spent.frame {settings : RelaySettings} {loop next : RetryLoop} {pending : Nat}
    (spent : Spent settings loop pending) (useChannel : next.useChannel = loop.useChannel)
    (retry : next.retry = loop.retry) (index : next.autoGroupIndex = loop.autoGroupIndex) :
    Spent settings next pending := by
  have channels : ∀ group, next.groupChannels group = loop.groupChannels group := by
    intro group
    unfold groupChannels
    rw [useChannel]
  have current : currentGroup settings next = currentGroup settings loop := by
    unfold currentGroup
    rw [index]
  have ahead : groupsAhead settings next = groupsAhead settings loop := by
    unfold groupsAhead
    rw [index]
  constructor
  · rw [retry]
    exact spent.retry
  · intro group
    rw [channels]
    exact spent.bounded group
  · intro group here
    rw [current] at here
    rw [channels, retry]
    exact spent.current group here
  · intro budget group listed
    rw [ahead] at listed
    rw [channels]
    exact spent.ahead budget group listed
  · rw [useChannel]
    exact spent.idle

def withTables (loop : RetryLoop) (tables : RoutingTables) : RetryLoop :=
  { loop with state := { loop.state with tables := tables } }

omit [HostSort] in
/-- Own disables change the tables only, and keep a held channel ready. -/
theorem land_spec (landings : List Landing) :
    ∀ loop : RetryLoop, ∃ tables,
      loop.land landings = loop.withTables tables ∧ SameChannels loop.state.tables tables ∧
        ∀ (id : Nat) (used : List String),
          (∀ pair ∈ loop.reported, pair.1 = id → trimSpace pair.2 ∈ used ∧ trimSpace pair.2 ≠ "") →
          (∃ row, loop.state.tables.channels.lookup id = some row ∧ RotationReady row used) →
          ∃ row, tables.channels.lookup id = some row ∧ RotationReady row used := by
  induction landings with
  | nil =>
    intro loop
    exact ⟨loop.state.tables, rfl, fun _ => rfl, fun _ _ _ ready => ready⟩
  | cons landing landings ih =>
    intro loop
    unfold land
    split
    · exact ih loop
    rename_i channelId usingKey reported
    have listed := List.mem_of_getElem? reported
    cases outcome : loop.state.tables.updateChannelStatus channelId usingKey
        channelStatusAutoDisabled landing.reason landing.now with
    | error err => exact ih loop
    | ok next =>
      obtain ⟨tables, after, same, ready⟩ := ih (loop.withTables next)
      obtain ⟨sameChannels, others⟩ := updateChannelStatus_frame outcome
      refine ⟨tables, after, fun id => (same id).trans (sameChannels id), ?_⟩
      intro id used own before
      apply ready id used own
      obtain ⟨row, located, rotation⟩ := before
      by_cases target : id = channelId
      · have rowId : row.id = id := KeyedTable.key_of_lookup located
        obtain ⟨usedKey, named⟩ := own _ listed target.symm
        rw [← rowId] at located target ⊢
        rw [← target] at outcome
        exact rotation.disabled usedKey named located outcome
      · exact ⟨row, (others id target).trans located, rotation⟩

omit [HostSort] in
theorem Inv.land {settings : RelaySettings} {ids : Finset Nat} {loop : RetryLoop}
    (inv : Inv settings ids loop) (landings : List Landing) :
    Inv settings ids (loop.land landings) ∧
      ∃ tables, loop.land landings = loop.withTables tables := by
  obtain ⟨tables, after, same, ready⟩ := land_spec landings loop
  refine ⟨?_, tables, after⟩
  rw [after]
  constructor
  · intro id
    rw [← inv.stored id, ← same id]
    rfl
  · exact inv.positive
  · exact inv.records.frame rfl rfl rfl rfl
  · exact inv.spent.frame rfl rfl rfl
  · intro hold held
    obtain ⟨valid, holdReady, current⟩ := inv.hold hold held
    have stillValid : (loop.withTables tables).HoldValid hold :=
      { unfailed := valid.unfailed
        attempts := valid.attempts
        count := valid.count
        used := valid.used }
    refine ⟨stillValid, ?_, current⟩
    apply ready hold.channelID hold.usedKeys _ holdReady
    intro pair listed target
    rcases inv.records.reported pair listed with failed | ⟨heldPair, named⟩
    · exact absurd (target ▸ failed) valid.unfailed
    · obtain ⟨other, sameHold, _, usedKey⟩ := heldPair
      have equal : other = hold := Option.some.inj (sameHold.symm.trans held)
      rw [equal] at usedKey
      exact ⟨usedKey, named⟩
  · intro noHold noMeta named unfailed
    have before := inv.preselected noHold noMeta named unfailed
    exact
      { stored := (same loop.channelId).trans before.stored
        key := before.key
        unused := before.unused
        behind := before.behind }

/-- A channel that the round may use up: whatever was sent or reported went to
it or to an excluded channel. -/
structure Candidate (settings : RelaySettings) (ids : Finset Nat) (loop : RetryLoop) (id : Nat) :
    Prop where
  stored : ∀ id, (loop.state.tables.channels.lookup id).isSome = true ↔ id ∈ ids
  member : id ∈ ids
  unfailed : id ∉ loop.failedChannelIds
  nodup : loop.sent.Nodup
  count : ∀ channel, (loop.sentTo channel).length ≤ maxMultiKeyFailuresBeforeFailover
  sent : ∀ pair ∈ loop.sent, pair.1 ∈ loop.failedChannelIds ∨ pair.1 = id
  reported : ∀ pair ∈ loop.reported, pair.1 ∈ loop.failedChannelIds ∨ pair.1 = id
  spent : Spent settings (loop.addUsedChannel id) 1
  settled : loop.channelMeta = false → loop.channelId ≠ 0 →
    loop.channelId ∈ loop.failedChannelIds ∨ loop.channelId = id

def heldAttempts (loop : RetryLoop) : Nat := (loop.hold.map (·.attempts)).getD 0

structure Sendable (loop : RetryLoop) (id : Nat) : Prop where
  current : loop.channelId = id
  key : loop.channelIsMultiKey = true → GoodKey loop.channelKey
  fresh : (id, loop.channelKey) ∉ loop.sent
  hold : ∀ hold, loop.hold = some hold → hold.channelID = id
  attempts : loop.heldAttempts < maxMultiKeyFailuresBeforeFailover
  count : (loop.sentTo id).length ≤ loop.heldAttempts
  sent : ∀ pair ∈ loop.sent, pair.1 = id → loop.Held id pair.2
  reported : ∀ pair ∈ loop.reported, pair.1 = id → loop.Held id pair.2 ∧ trimSpace pair.2 ≠ ""

omit [JsonCodec] [HostSort] in
theorem sentTo_eq_nil {loop : RetryLoop} {id : Nat} (unsent : ∀ pair ∈ loop.sent, pair.1 ≠ id) :
    loop.sentTo id = [] := by
  apply List.filter_eq_nil_iff.mpr
  intro pair listed
  simpa using unsent pair listed

omit [JsonCodec] [HostSort] in
theorem Records.sent_failed
    {loop : RetryLoop} (records : loop.Records) (noHold : loop.hold = none) :
    (∀ pair ∈ loop.sent, pair.1 ∈ loop.failedChannelIds) ∧
      ∀ pair ∈ loop.reported, pair.1 ∈ loop.failedChannelIds := by
  have notHeld : ∀ channel key, ¬ loop.Held channel key := by
    rintro channel key ⟨hold, held, _⟩
    rw [noHold] at held
    cases held
  constructor
  · intro pair listed
    exact (records.sent pair listed).resolve_right (notHeld _ _)
  · intro pair listed
    exact (records.reported pair listed).resolve_right fun held => notHeld _ _ held.1

omit [HostSort] in
theorem take_held {loop : RetryLoop} {hold : MultiKeyRetryHold}
    (held : loop.hold = some hold) (positive : hold.channelID ≠ 0) (ready : loop.HoldReady hold) :
    ∃ (channel : RoutedChannel) (key : String),
      loop.takeMultiKeyRetryKey = (loop, some (channel, key)) ∧ channel.id = hold.channelID ∧
        (loop.state.tables.channels.lookup hold.channelID).isSome = true ∧
        trimSpace key = key ∧ key ≠ "" ∧ key ∉ hold.usedKeys := by
  obtain ⟨row, located, rotation⟩ := ready
  have found : loop.state.find hold.channelID = some (loop.state.load row) := by
    unfold RoutingState.find
    rw [located]
    rfl
  obtain ⟨key, next⟩ := Option.isSome_iff_exists.mp
    ((nextUnusedEnabledKey_isSome row hold.usedKeys).mpr rotation.unused)
  have enabled : (loop.state.load row).status = channelStatusEnabled := rotation.enabled
  have multiKey : (loop.state.load row).channelInfo.isMultiKey = true := rotation.multiKey
  have available : ¬ ((loop.state.load row).status ≠ channelStatusEnabled ∨
      (loop.state.load row).channelInfo.isMultiKey = false) := by
    rw [enabled, multiKey]
    simp
  refine ⟨loop.state.load row, key, ?_, KeyedTable.key_of_lookup located, ?_,
    nextUnusedEnabledKey_some next⟩
  · unfold takeMultiKeyRetryKey
    rw [held]
    dsimp only
    rw [if_neg positive, found]
    dsimp only
    rw [if_neg available]
    have nextKey : nextUnusedEnabledKey (loop.state.load row).toChannel
        hold.usedKeys = some key := next
    rw [nextKey]
  · rw [located]
    rfl

end Invariant

end RetryLoop

end NewApi.Relay
