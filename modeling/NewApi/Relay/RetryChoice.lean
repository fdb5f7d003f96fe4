import NewApi.Relay.RetryInvariant

/-!
# Choosing a channel in a round

The channel that a round takes is the held one with an unused key, or one to
which nothing was sent.
-/

namespace NewApi.Relay

open GoStrings NewApi.Channels Transactions

namespace RetryLoop

section Choice

variable [JsonCodec] [HostSort]

/-- A step that keeps the books of the request and the channels of the
tables. -/
structure Carries (loop next : RetryLoop) : Prop where
  rows : SameChannels loop.state.tables next.state.tables
  failed : next.failedChannelIds = loop.failedChannelIds
  retry : next.retry = loop.retry
  index : next.autoGroupIndex = loop.autoGroupIndex
  group : next.selectedGroup = loop.selectedGroup
  channelMeta : next.channelMeta = loop.channelMeta
  used : next.useChannel = loop.useChannel
  sent : next.sent = loop.sent
  reported : next.reported = loop.reported

variable {loop next : RetryLoop}

omit [JsonCodec] [HostSort] in
theorem Carries.trans {middle : RetryLoop} (first : Carries loop middle)
    (second : Carries middle next) : Carries loop next where
  rows := fun id => (second.rows id).trans (first.rows id)
  failed := second.failed.trans first.failed
  retry := second.retry.trans first.retry
  index := second.index.trans first.index
  group := second.group.trans first.group
  channelMeta := second.channelMeta.trans first.channelMeta
  used := second.used.trans first.used
  sent := second.sent.trans first.sent
  reported := second.reported.trans first.reported

variable {settings : RelaySettings} {ids : Finset Nat} {id : Nat}

omit [JsonCodec] [HostSort] in
theorem Candidate.carried (candidate : Candidate settings ids loop id) (carries : Carries loop next)
    (current : next.channelId = loop.channelId ∨ next.channelId = id) :
    Candidate settings ids next id := by
  have sentTo : ∀ channel, next.sentTo channel = loop.sentTo channel := by
    intro channel
    unfold RetryLoop.sentTo
    rw [carries.sent]
  have used : (next.addUsedChannel id).useChannel = (loop.addUsedChannel id).useChannel := by
    unfold addUsedChannel
    rw [carries.used, carries.group]
  constructor
  · intro other
    rw [carries.rows other]
    exact candidate.stored other
  · exact candidate.member
  · rw [carries.failed]
    exact candidate.unfailed
  · rw [carries.sent]
    exact candidate.nodup
  · intro channel
    rw [sentTo]
    exact candidate.count channel
  · rw [carries.sent, carries.failed]
    exact candidate.sent
  · rw [carries.reported, carries.failed]
    exact candidate.reported
  · exact candidate.spent.frame used carries.retry carries.index
  · intro noMeta named
    rw [carries.channelMeta] at noMeta
    rcases current with same | chosen
    · rw [same] at named ⊢
      rw [carries.failed]
      exact candidate.settled noMeta named
    · exact Or.inr chosen

omit [HostSort] in
theorem land_carries (loop : RetryLoop) (landings : List Landing) :
    Carries loop (loop.land landings) ∧ (loop.land landings).hold = loop.hold ∧
      (loop.land landings).channelId = loop.channelId := by
  obtain ⟨tables, after, same, _⟩ := land_spec landings loop
  rw [after]
  exact ⟨⟨same, rfl, rfl, rfl, rfl, rfl, rfl, rfl, rfl⟩, rfl, rfl⟩

structure SetsUp (loop : RetryLoop) (channel : RoutedChannel) (preferredKey : String)
    (result : RetryLoop × Option RelayFailure) : Prop where
  carries : Carries loop result.1
  hold : result.1.hold = loop.hold
  current : result.1.channelId = loop.channelId ∨ result.1.channelId = channel.id
  named : result.2 = none → result.1.channelId = channel.id
  key : result.2 = none → result.1.channelIsMultiKey = true → GoodKey result.1.channelKey
  preferred : result.2 = none → GoodKey preferredKey → result.1.channelKey = preferredKey

omit [HostSort] in
theorem resolveReusableKey_some {tables next : RoutingTables} {channel : Channel}
    {preferredKey key : String} {keyRoll : Nat}
    (resolved : resolveReusableKey tables channel preferredKey keyRoll = some (key, next)) :
    SameChannels tables next ∧ (channel.channelInfo.isMultiKey = true → GoodKey key) ∧
      (GoodKey preferredKey → key = preferredKey) := by
  unfold resolveReusableKey at resolved
  split at resolved
  · rename_i blank
    obtain ⟨same, good⟩ := getNextEnabledKey_some resolved
    refine ⟨same, good, fun preferred => ?_⟩
    exact absurd (preferred.1.symm.trans blank) preferred.2
  · rename_i named
    cases resolved
    refine ⟨fun _ => rfl, fun _ => ⟨trimSpace_trimSpace _, named⟩, ?_⟩
    exact fun preferred => preferred.1

omit [HostSort] in
theorem setup_setsUp (loop : RetryLoop) (channel : RoutedChannel) (preferredKey : String)
    (turn : Turn) :
    SetsUp loop channel preferredKey
      (setupContextForSelectedChannelWithKey loop channel preferredKey turn) := by
  have unchanged : Carries loop loop := ⟨fun _ => rfl, rfl, rfl, rfl, rfl, rfl, rfl, rfl, rfl⟩
  unfold setupContextForSelectedChannelWithKey
  split
  · exact ⟨unchanged, rfl, Or.inl rfl, (nomatch ·), (nomatch ·), (nomatch ·)⟩
  split
  · exact ⟨⟨fun _ => rfl, rfl, rfl, rfl, rfl, rfl, rfl, rfl, rfl⟩, rfl,
      Or.inr rfl, (nomatch ·), (nomatch ·), (nomatch ·)⟩
  · rename_i key tables resolved
    obtain ⟨same, good, preferred⟩ := resolveReusableKey_some resolved
    exact ⟨⟨same, rfl, rfl, rfl, rfl, rfl, rfl, rfl, rfl⟩, rfl, Or.inr rfl,
      fun _ => rfl, fun _ => good, fun _ => preferred⟩

/-! ## Choosing a channel -/

/-- What is promised of a request: no channel and key twice, few keys of a
channel and few channels of a group. -/
structure Good (settings : RelaySettings) (loop : RetryLoop) : Prop where
  nodup : loop.sent.Nodup
  keys : ∀ channel, (loop.sentTo channel).length ≤ maxMultiKeyFailuresBeforeFailover
  channels : ∀ group, (loop.groupChannels group).card ≤ settings.retryTimes + 1

omit [HostSort] in
theorem Inv.good (inv : Inv settings ids loop) : Good settings loop :=
  ⟨inv.records.nodup, inv.records.count, inv.spent.bounded⟩

omit [HostSort] in
theorem Inv.heldAttempts_lt (inv : Inv settings ids loop) :
    loop.heldAttempts < maxMultiKeyFailuresBeforeFailover := by
  unfold heldAttempts
  cases held : loop.hold with
  | none => decide
  | some hold => exact (inv.hold hold held).1.attempts

variable {hold : MultiKeyRetryHold}

omit [HostSort] in
theorem Inv.candidate_held (inv : Inv settings ids loop) (held : loop.hold = some hold) :
    Candidate settings ids loop hold.channelID := by
  obtain ⟨valid, ⟨row, located, _⟩, current⟩ := inv.hold hold held
  have own : ∀ channel key, loop.Held channel key → channel = hold.channelID := by
    rintro channel key ⟨other, sameHold, named, _⟩
    have equal : other = hold := Option.some.inj (sameHold.symm.trans held)
    rw [← named, equal]
  constructor
  · exact inv.stored
  · apply (inv.stored hold.channelID).mp
    rw [located]
    rfl
  · exact valid.unfailed
  · exact inv.records.nodup
  · exact inv.records.count
  · intro pair listed
    exact (inv.records.sent pair listed).imp id (own _ _)
  · intro pair listed
    exact (inv.records.reported pair listed).imp id fun heldPair => own _ _ heldPair.1
  · have pending : loop.pendingChannels = 1 := by
      unfold pendingChannels
      rw [held]
      rfl
    have spent := inv.spent
    rw [pending] at spent
    have channels := groupChannels_addUsedChannel_of_mem valid.used
    exact
      { retry := spent.retry
        bounded := fun group => by
          rw [channels]
          exact spent.bounded group
        current := fun group here => by
          rw [channels]
          exact spent.current group here
        ahead := fun budget group listed => by
          rw [channels]
          exact spent.ahead budget group listed
        idle := nofun }
  · exact fun _ _ => Or.inr current

omit [HostSort] in
theorem Inv.candidate_new (inv : Inv settings ids loop) (noHold : loop.hold = none)
    {retry : Nat} {index : Option Nat} {group : String}
    (member : id ∈ ids) (unfailed : id ∉ loop.failedChannelIds)
    (spent : Spent settings ((loop.moved retry index group).addUsedChannel id) 1)
    (settled : loop.channelMeta = false → loop.channelId ≠ 0 →
      loop.channelId ∈ loop.failedChannelIds ∨ loop.channelId = id) :
    Candidate settings ids (loop.moved retry index group) id := by
  obtain ⟨sent, reported⟩ := inv.records.sent_failed noHold
  exact
    { stored := inv.stored
      member := member
      unfailed := unfailed
      nodup := inv.records.nodup
      count := inv.records.count
      sent := fun pair listed => Or.inl (sent pair listed)
      reported := fun pair listed => Or.inl (reported pair listed)
      spent := spent
      settled := settled }

omit [JsonCodec] [HostSort] in
theorem sendable_new (noHold : loop.hold = none) (unfailed : id ∉ loop.failedChannelIds)
    (sent : ∀ pair ∈ loop.sent, pair.1 ∈ loop.failedChannelIds)
    (reported : ∀ pair ∈ loop.reported, pair.1 ∈ loop.failedChannelIds)
    (current : loop.channelId = id)
    (key : loop.channelIsMultiKey = true → GoodKey loop.channelKey) :
    loop.Sendable id := by
  have unsent : ∀ pair ∈ loop.sent, pair.1 ≠ id := by
    intro pair listed same
    exact unfailed (same ▸ sent pair listed)
  have noAttempts : loop.heldAttempts = 0 := by
    unfold heldAttempts
    rw [noHold]
    rfl
  constructor
  · exact current
  · exact key
  · exact fun listed => unsent _ listed rfl
  · intro hold held
    rw [noHold] at held
    cases held
  · rw [noAttempts]
    decide
  · rw [sentTo_eq_nil unsent]
    exact Nat.zero_le _
  · exact fun pair listed same => absurd same (unsent pair listed)
  · intro pair listed same
    exact absurd (same ▸ reported pair listed) unfailed

omit [HostSort] in
theorem Inv.sendable_held (inv : Inv settings ids loop)
    (held : loop.hold = some hold) (carries : Carries loop next) (sameHold : next.hold = loop.hold)
    (current : next.channelId = hold.channelID) (good : GoodKey next.channelKey)
    (unused : next.channelKey ∉ hold.usedKeys) :
    next.Sendable hold.channelID := by
  obtain ⟨valid, _, _⟩ := inv.hold hold held
  have heldNext : next.hold = some hold := sameHold.trans held
  have attempts : next.heldAttempts = hold.attempts := by
    unfold heldAttempts
    rw [heldNext]
    rfl
  have stillHeld : ∀ key, loop.Held hold.channelID key → next.Held hold.channelID key := by
    intro key before
    unfold Held
    rw [sameHold]
    exact before
  have sent : ∀ pair ∈ next.sent, pair.1 = hold.channelID → next.Held hold.channelID pair.2 := by
    intro pair listed same
    rw [carries.sent] at listed
    rcases inv.records.sent pair listed with failed | before
    · exact absurd (same ▸ failed) valid.unfailed
    · exact stillHeld _ (same ▸ before)
  constructor
  · exact current
  · exact fun _ => good
  · intro listed
    obtain ⟨other, otherHeld, _, usedKey⟩ := sent _ listed rfl
    have equal : other = hold := Option.some.inj (otherHeld.symm.trans heldNext)
    rw [equal, good.1] at usedKey
    exact unused usedKey
  · intro other otherHeld
    have equal : other = hold := Option.some.inj (otherHeld.symm.trans heldNext)
    rw [equal]
  · rw [attempts]
    exact valid.attempts
  · rw [attempts]
    unfold sentTo
    rw [carries.sent]
    exact valid.count
  · exact sent
  · intro pair listed same
    rw [carries.reported] at listed
    rcases inv.records.reported pair listed with failed | ⟨before, named⟩
    · exact absurd (same ▸ failed) valid.unfailed
    · exact ⟨stillHeld _ (same ▸ before), named⟩

omit [JsonCodec] [HostSort] in
theorem lookup_isSome_of_mem {state : RoutingState} {channel : RoutedChannel}
    (stored : channel ∈ state.channels) :
    (state.tables.channels.lookup channel.id).isSome = true := by
  obtain ⟨row, member, same⟩ := List.mem_map.mp stored
  have located : state.tables.channels.lookup channel.id = some row := by
    apply KeyedTable.lookup_eq_some_iff.mpr
    refine ⟨member, ?_⟩
    rw [← same]
    rfl
  rw [located]
  rfl

structure Chooses (settings : RelaySettings) (ids : Finset Nat) (loop : RetryLoop)
    (result : RetryLoop × Chosen) : Prop where
  failed : result.1.failedChannelIds = loop.failedChannelIds
  missing : result.2 = .missing → Good settings result.1
  refused : ∀ id failure, result.2 = .refused id failure →
    result.1.hold = none ∧ Candidate settings ids result.1 id
  channel : ∀ id, result.2 = .channel id →
    Candidate settings ids result.1 id ∧ result.1.Sendable id ∧
      result.1.heldAttempts = loop.heldAttempts

theorem Inv.getChannel_held (inv : Inv settings ids loop)
    (held : loop.hold = some hold) (turn : Turn) :
    Chooses settings ids loop (getChannel settings loop turn) := by
  obtain ⟨_, ready, current⟩ := inv.hold hold held
  have candidate := inv.candidate_held held
  have positive : hold.channelID ≠ 0 := by
    intro zero
    exact inv.positive (zero ▸ candidate.member)
  obtain ⟨channel, key, taken, sameId, _, trimmed, named, unused⟩ := take_held held positive ready
  have good : GoodKey key := ⟨trimmed, named⟩
  obtain ⟨landed, landedHold, landedCurrent⟩ := land_carries loop turn.beforeKey
  have setup := setup_setsUp (loop.land turn.beforeKey) channel key turn
  unfold getChannel
  rw [taken]
  dsimp only
  cases outcome : setupContextForSelectedChannelWithKey
      (loop.land turn.beforeKey) channel key turn with
  | mk next failure =>
    rw [outcome] at setup
    have carries := landed.trans setup.carries
    have kept : next.channelId = loop.channelId ∨ next.channelId = hold.channelID := by
      rw [← landedCurrent, ← sameId]
      exact setup.current
    have sameHold : next.hold = loop.hold := setup.hold.trans landedHold
    cases failure with
    | some failure =>
      refine ⟨carries.failed, (nomatch ·), ?_, fun _ => (nomatch ·)⟩
      intro id failure refused
      cases refused
      rw [sameId]
      have cleared : Carries next next.clearHold :=
        ⟨fun _ => rfl, rfl, rfl, rfl, rfl, rfl, rfl, rfl, rfl⟩
      exact ⟨rfl, candidate.carried (carries.trans cleared) kept⟩
    | none =>
      refine ⟨carries.failed, (nomatch ·), fun _ _ => (nomatch ·), ?_⟩
      intro id chosen
      cases chosen
      have keyed : next.channelKey = key := setup.preferred rfl good
      rw [sameId]
      refine ⟨candidate.carried carries kept, ?_, ?_⟩
      · apply inv.sendable_held held carries sameHold
        · exact (setup.named rfl).trans sameId
        · exact keyed ▸ good
        · exact keyed ▸ unused
      · have attempts : next.heldAttempts = loop.heldAttempts := by
          unfold heldAttempts
          rw [sameHold]
        exact attempts

omit [HostSort] in
theorem Candidate.setup_new {channel : RoutedChannel}
    (candidate : Candidate settings ids loop channel.id) (noHold : loop.hold = none)
    (sent : ∀ pair ∈ loop.sent, pair.1 ∈ loop.failedChannelIds)
    (reported : ∀ pair ∈ loop.reported, pair.1 ∈ loop.failedChannelIds) (turn : Turn) :
    Chooses settings ids loop
      (let setup := setupContextForSelectedChannelWithKey (loop.land turn.beforeKey) channel "" turn
      (setup.1, chosenAfterSetup channel.id setup.2)) := by
  obtain ⟨landed, landedHold, landedCurrent⟩ := land_carries loop turn.beforeKey
  have setup := setup_setsUp (loop.land turn.beforeKey) channel "" turn
  cases outcome : setupContextForSelectedChannelWithKey
      (loop.land turn.beforeKey) channel "" turn with
  | mk next failure =>
    rw [outcome] at setup
    have carries : Carries loop next := landed.trans setup.carries
    have kept : next.channelId = loop.channelId ∨ next.channelId = channel.id := by
      rw [← landedCurrent]
      exact setup.current
    have nextHold : next.hold = none := (setup.hold.trans landedHold).trans noHold
    have carried := candidate.carried carries kept
    cases failure with
    | some failure =>
      refine ⟨carries.failed, (nomatch ·), ?_, fun _ => (nomatch ·)⟩
      intro id failure refused
      cases refused
      exact ⟨nextHold, carried⟩
    | none =>
      refine ⟨carries.failed, (nomatch ·), fun _ _ => (nomatch ·), ?_⟩
      intro id chosen
      cases chosen
      refine ⟨carried, ?_, ?_⟩
      · apply sendable_new nextHold carried.unfailed
        · rw [carries.sent, carries.failed]
          exact sent
        · rw [carries.reported, carries.failed]
          exact reported
        · exact setup.named rfl
        · exact setup.key rfl
      · have attempts : next.heldAttempts = loop.heldAttempts := by
          unfold heldAttempts
          rw [nextHold, noHold]
        exact attempts

theorem Inv.getChannel_new (inv : Inv settings ids loop) (noHold : loop.hold = none) (turn : Turn) :
    Chooses settings ids loop (getChannel settings loop turn) := by
  have taken : loop.takeMultiKeyRetryKey = (loop, none) := by
    unfold takeMultiKeyRetryKey
    rw [noHold]
  have spent : Spent settings loop 0 := by
    have pending := inv.spent
    unfold pendingChannels at pending
    rw [noHold] at pending
    exact pending
  obtain ⟨sent, reported⟩ := inv.records.sent_failed noHold
  unfold getChannel
  rw [taken]
  dsimp only
  split
  · rename_i preselection
    obtain ⟨noMeta, named, unfailed⟩ := preselection
    have selected := inv.preselected noHold noMeta named unfailed
    refine ⟨rfl, (nomatch ·), fun _ _ => (nomatch ·), ?_⟩
    intro id chosen
    cases chosen
    refine ⟨?_, sendable_new noHold unfailed sent reported rfl selected.key, rfl⟩
    apply inv.candidate_new noHold ((inv.stored _).mp selected.stored) unfailed
    · exact spent.use _ selected.behind (Or.inr selected.unused)
    · exact fun _ _ => Or.inr rfl
  · rename_i preselection
    have selects := cacheGetRandomSatisfiedChannel_selects spent turn.rolls
    cases selection : cacheGetRandomSatisfiedChannel settings loop turn.rolls with
    | mk chosenLoop choice =>
      rw [selection] at selects
      obtain ⟨⟨retry, index, group, after⟩, found⟩ := selects
      dsimp only at after found
      have good : Good settings chosenLoop := by
        rw [after]
        exact ⟨inv.good.nodup, inv.good.keys, inv.good.channels⟩
      have failed : chosenLoop.failedChannelIds = loop.failedChannelIds := by
        rw [after]
        rfl
      cases choice with
      | error => exact ⟨failed, fun _ => good, fun _ _ => (nomatch ·), fun _ => (nomatch ·)⟩
      | nobody => exact ⟨failed, fun _ => good, fun _ _ => (nomatch ·), fun _ => (nomatch ·)⟩
      | channel channel =>
        obtain ⟨stored, unfailed, spentAfter⟩ := found channel rfl
        have settled : loop.channelMeta = false → loop.channelId ≠ 0 →
            loop.channelId ∈ loop.failedChannelIds ∨ loop.channelId = channel.id := by
          intro noMeta named
          left
          by_contra unfailed
          exact preselection ⟨noMeta, named, unfailed⟩
        have candidate : Candidate settings ids chosenLoop channel.id := by
          rw [after] at spentAfter ⊢
          exact inv.candidate_new noHold ((inv.stored _).mp (lookup_isSome_of_mem stored)) unfailed
            spentAfter settled
        have result := candidate.setup_new (by rw [after]; exact noHold) (by rw [after]; exact sent)
          (by rw [after]; exact reported) turn
        exact ⟨result.failed.trans failed, result.missing, result.refused,
          fun id chosen =>
            ⟨(result.channel id chosen).1, (result.channel id chosen).2.1,
              (result.channel id chosen).2.2.trans (by rw [after]; rfl)⟩⟩

theorem getChannel_chooses (inv : Inv settings ids loop) (turn : Turn) :
    Chooses settings ids loop (getChannel settings loop turn) := by
  cases held : loop.hold with
  | some hold => exact inv.getChannel_held held turn
  | none => exact inv.getChannel_new held turn

end Choice

end RetryLoop

end NewApi.Relay
