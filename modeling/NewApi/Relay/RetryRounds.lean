import NewApi.Relay.RetryChoice

/-!
# Rounds of the retry loop

A failed attempt rotates to another key of the channel or gives the channel
up.  Both keep the invariant and leave less to try.
-/

namespace NewApi.Relay

open GoStrings NewApi.Channels

namespace RetryLoop

section Rounds

variable [JsonCodec] [HostSort]

structure Rotates (loop : RetryLoop) (id : Nat) (failedKey : String)
    (hold : MultiKeyRetryHold) : Prop where
  channel : hold.channelID = id
  attempts : hold.attempts = loop.heldAttempts + 1
  few : hold.attempts < maxMultiKeyFailuresBeforeFailover
  failedKey : trimSpace failedKey ∈ hold.usedKeys
  usedKeys : ∀ key, loop.Held id key → trimSpace key ∈ hold.usedKeys
  ready : loop.HoldReady hold

variable {loop : RetryLoop} {id : Nat}

omit [JsonCodec] [HostSort] in
theorem openHold_spec (own : ∀ hold, loop.hold = some hold → hold.channelID = id) :
    let start := (loop.hold.filter (·.channelID = id)).getD ⟨id, [], 0⟩
    start.channelID = id ∧ start.attempts = loop.heldAttempts ∧
      ∀ key, loop.Held id key → trimSpace key ∈ start.usedKeys := by
  unfold heldAttempts Held
  cases held : loop.hold with
  | none =>
    refine ⟨rfl, rfl, ?_⟩
    rintro key ⟨hold, contrary, _⟩
    cases contrary
  | some hold =>
    have same := own hold held
    rw [Option.filter_some_pos (by simpa using same)]
    refine ⟨same, rfl, ?_⟩
    rintro key ⟨other, equal, _, usedKey⟩
    cases equal
    exact usedKey

omit [HostSort] in
/-- A failed key ends the hold, or joins the keys of it. -/
theorem rememberFailedMultiKey_spec {failedKey : String}
    (own : ∀ hold, loop.hold = some hold → hold.channelID = id)
    (named : loop.channelIsMultiKey = true → trimSpace failedKey ≠ "") :
    loop.rememberFailedMultiKey id failedKey = (loop.clearHold, false) ∨
      ∃ hold, Rotates loop id failedKey hold ∧ loop.channelIsMultiKey = true ∧
        loop.rememberFailedMultiKey id failedKey = ({ loop with hold := some hold }, true) := by
  obtain ⟨channel, attempts, usedKeys⟩ := openHold_spec own
  unfold rememberFailedMultiKey
  dsimp only
  generalize (loop.hold.filter (·.channelID = id)).getD ⟨id, [], 0⟩ = start
    at channel attempts usedKeys ⊢
  split
  · exact Or.inl rfl
  rename_i multiKeyChannel
  have multiKey : loop.channelIsMultiKey = true := by simpa using (not_or.mp multiKeyChannel).2
  rw [if_pos (named multiKey)]
  split
  · exact Or.inl rfl
  rename_i row located
  split
  · exact Or.inl rfl
  rename_i usable
  split
  · exact Or.inl rfl
  rename_i few
  split
  · exact Or.inl rfl
  rename_i key found
  refine Or.inr ⟨_, ?_, multiKey, rfl⟩
  obtain ⟨rowMultiKey, enabled⟩ := not_or.mp usable
  have rotation : RotationReady row (trimSpace failedKey :: start.usedKeys) :=
    { enabled := not_not.mp enabled
      multiKey := by simpa using rowMultiKey
      unused := (nextUnusedEnabledKey_isSome _ _).mp (Option.isSome_iff_exists.mpr ⟨key, found⟩) }
  exact
    { channel := channel
      attempts := by rw [attempts]
      few := Nat.lt_of_not_ge few
      failedKey := List.mem_cons_self
      usedKeys := fun key held => List.mem_cons_of_mem _ (usedKeys key held)
      ready := ⟨row, channel ▸ located, rotation⟩ }

/-! ## A round -/

structure Attempted (settings : RelaySettings) (ids : Finset Nat) (loop : RetryLoop) (id : Nat) :
    Prop where
  stored : ∀ id, (loop.state.tables.channels.lookup id).isSome = true ↔ id ∈ ids
  member : id ∈ ids
  unfailed : id ∉ loop.failedChannelIds
  nodup : loop.sent.Nodup
  count : ∀ channel, (loop.sentTo channel).length ≤ maxMultiKeyFailuresBeforeFailover
  sent : ∀ pair ∈ loop.sent, pair.1 ∈ loop.failedChannelIds ∨ pair.1 = id
  reported : ∀ pair ∈ loop.reported, pair.1 ∈ loop.failedChannelIds ∨ pair.1 = id
  spent : Spent settings loop 1
  settled : loop.channelMeta = false → loop.channelId ≠ 0 →
    loop.channelId ∈ loop.failedChannelIds ∨ loop.channelId = id

variable {settings : RelaySettings} {ids : Finset Nat}

omit [JsonCodec] [HostSort] in
theorem Attempted.good (attempted : Attempted settings ids loop id) : Good settings loop :=
  ⟨attempted.nodup, attempted.count, attempted.spent.bounded⟩

omit [JsonCodec] [HostSort] in
theorem Candidate.used (candidate : Candidate settings ids loop id) :
    Attempted settings ids (loop.addUsedChannel id) id :=
  { stored := candidate.stored
    member := candidate.member
    unfailed := candidate.unfailed
    nodup := candidate.nodup
    count := candidate.count
    sent := candidate.sent
    reported := candidate.reported
    spent := candidate.spent
    settled := candidate.settled }

def tries (ids : Finset Nat) (loop : RetryLoop) : Nat :=
  maxMultiKeyFailuresBeforeFailover *
    (ids \ loop.failedChannelIds.toFinset).card - loop.heldAttempts

omit [JsonCodec] [HostSort] in
theorem tries_giveUp {next : RetryLoop} (member : id ∈ ids) (unfailed : id ∉ loop.failedChannelIds)
    (few : loop.heldAttempts < maxMultiKeyFailuresBeforeFailover)
    (failed : next.failedChannelIds = loop.failedChannelIds ++ [id])
    (noHold : next.hold = none) : next.tries ids < loop.tries ids := by
  have inside : id ∈ ids \ loop.failedChannelIds.toFinset := by
    rw [Finset.mem_sdiff, List.mem_toFinset]
    exact ⟨member, unfailed⟩
  have smaller : ids \ next.failedChannelIds.toFinset =
      (ids \ loop.failedChannelIds.toFinset).erase id := by
    ext other
    simp only [failed, Finset.mem_sdiff, List.mem_toFinset, List.mem_append,
      List.mem_singleton, Finset.mem_erase]
    tauto
  have card := Finset.card_erase_of_mem inside
  have positive : 0 < (ids \ loop.failedChannelIds.toFinset).card :=
    Finset.card_pos.mpr ⟨id, inside⟩
  have noAttempts : next.heldAttempts = 0 := by
    unfold heldAttempts
    rw [noHold]
    rfl
  unfold tries
  rw [smaller, card, noAttempts]
  unfold maxMultiKeyFailuresBeforeFailover at few ⊢
  omega

omit [JsonCodec] [HostSort] in
theorem tries_rotate {next : RetryLoop} (member : id ∈ ids) (unfailed : id ∉ loop.failedChannelIds)
    (few : loop.heldAttempts < maxMultiKeyFailuresBeforeFailover)
    (failed : next.failedChannelIds = loop.failedChannelIds)
    (attempts : next.heldAttempts = loop.heldAttempts + 1) :
    next.tries ids < loop.tries ids := by
  have positive : 0 < (ids \ loop.failedChannelIds.toFinset).card := by
    apply Finset.card_pos.mpr
    refine ⟨id, ?_⟩
    rw [Finset.mem_sdiff, List.mem_toFinset]
    exact ⟨member, unfailed⟩
  unfold tries
  rw [failed, attempts]
  unfold maxMultiKeyFailuresBeforeFailover at few ⊢
  omega

def givenUp (loop : RetryLoop) (id : Nat) : RetryLoop :=
  (loop.clearHold.addFailedChannel id).processChannelError id

omit [JsonCodec] [HostSort] in
theorem Attempted.givenUp_eq (attempted : Attempted settings ids loop id) (positive : 0 ∉ ids) :
    loop.givenUp id =
      { loop with
        hold := none
        failedChannelIds := loop.failedChannelIds ++ [id]
        reported := loop.reported ++ [(id, loop.channelKey)] } := by
  have new : ¬ (id = 0 ∨ id ∈ loop.failedChannelIds) := by
    rintro (zero | failed)
    · exact positive (zero ▸ attempted.member)
    · exact attempted.unfailed failed
  unfold givenUp addFailedChannel clearHold
  rw [if_neg new]
  rfl

omit [JsonCodec] [HostSort] in
theorem Spent.increaseRetry (spent : Spent settings loop 1)
    (left : loop.retry < settings.retryTimes) :
    Spent settings loop.increaseRetry 0 where
  retry := left
  bounded := spent.bounded
  current := fun group here => spent.current group here
  ahead := spent.ahead
  idle := fun none _ => by omega

omit [HostSort] in
theorem Attempted.inv_givenUp (attempted : Attempted settings ids loop id) (positive : 0 ∉ ids)
    (left : loop.retry < settings.retryTimes) :
    Inv settings ids (loop.givenUp id).increaseRetry := by
  rw [attempted.givenUp_eq positive]
  have failed : ∀ pair : Nat × String,
      pair.1 ∈ loop.failedChannelIds ∨ pair.1 = id → pair.1 ∈ loop.failedChannelIds ++ [id] := by
    intro pair known
    rw [List.mem_append, List.mem_singleton]
    exact known
  constructor
  · exact attempted.stored
  · exact positive
  · constructor
    · exact attempted.nodup
    · exact attempted.count
    · exact fun pair listed => Or.inl (failed pair (attempted.sent pair listed))
    · intro pair listed
      rcases List.mem_append.mp listed with before | new
      · exact Or.inl (failed pair (attempted.reported pair before))
      · rw [List.mem_singleton.mp new]
        exact Or.inl (failed (id, loop.channelKey) (Or.inr rfl))
  · exact (attempted.spent.increaseRetry left).frame rfl rfl rfl
  · intro hold contrary
    cases contrary
  · intro _ noMeta named unfailed
    exact absurd (failed (loop.channelId, "") (attempted.settled noMeta named)) unfailed

structure Replied (loop : RetryLoop) (id : Nat) : Prop where
  current : loop.channelId = id
  used : (loop.selectedGroup, id) ∈ loop.useChannel
  key : loop.channelIsMultiKey = true → GoodKey loop.channelKey
  hold : ∀ hold, loop.hold = some hold → hold.channelID = id
  attempts : loop.heldAttempts < maxMultiKeyFailuresBeforeFailover
  count : (loop.sentTo id).length ≤ loop.heldAttempts + 1
  sent : ∀ pair ∈ loop.sent, pair.1 = id → loop.Held id pair.2 ∨ pair.2 = loop.channelKey
  reported : ∀ pair ∈ loop.reported, pair.1 = id → loop.Held id pair.2 ∧ trimSpace pair.2 ≠ ""

def sending (loop : RetryLoop) (id : Nat) (reachesMeta : Bool) : RetryLoop :=
  { loop.addUsedChannel id with
    channelMeta := loop.channelMeta || reachesMeta
    sent := loop.sent ++ [(id, loop.channelKey)] }

omit [JsonCodec] [HostSort] in
theorem sentTo_sending (loop : RetryLoop) (id : Nat) (reachesMeta : Bool) (channel : Nat) :
    (loop.sending id reachesMeta).sentTo channel =
      loop.sentTo channel ++ if id = channel then [(id, loop.channelKey)] else [] := by
  unfold sentTo sending
  rw [List.filter_append]
  congr 1
  by_cases same : id = channel
  · rw [if_pos same, List.filter_cons_of_pos (by simpa using same), List.filter_nil]
  · rw [if_neg same, List.filter_cons_of_neg (by simpa using same), List.filter_nil]

omit [JsonCodec] [HostSort] in
theorem Candidate.sending (candidate : Candidate settings ids loop id) (sendable : loop.Sendable id)
    (reachesMeta : Bool) :
    Attempted settings ids (loop.sending id reachesMeta) id ∧
      (loop.sending id reachesMeta).Replied id := by
  have attempts := sendable.attempts
  have before := sendable.count
  constructor
  · constructor
    · exact candidate.stored
    · exact candidate.member
    · exact candidate.unfailed
    · apply candidate.nodup.append (List.nodup_singleton _)
      intro pair listed new
      rw [List.mem_singleton.mp new] at listed
      exact sendable.fresh listed
    · intro channel
      rw [sentTo_sending, List.length_append]
      split
      · rename_i same
        rw [← same, List.length_singleton]
        omega
      · exact candidate.count channel
    · intro pair listed
      rcases List.mem_append.mp listed with old | new
      · exact candidate.sent pair old
      · rw [List.mem_singleton.mp new]
        exact Or.inr rfl
    · exact candidate.reported
    · exact candidate.spent.frame rfl rfl rfl
    · intro _ _
      exact Or.inr sendable.current
  · constructor
    · exact sendable.current
    · exact List.mem_append_right _ (List.mem_singleton_self _)
    · exact sendable.key
    · exact sendable.hold
    · exact sendable.attempts
    · rw [sentTo_sending, if_pos rfl, List.length_append, List.length_singleton]
      exact Nat.add_le_add_right sendable.count 1
    · intro pair listed same
      rcases List.mem_append.mp listed with old | new
      · exact Or.inl (sendable.sent pair old same)
      · rw [List.mem_singleton.mp new]
        exact Or.inr rfl
    · exact sendable.reported

omit [HostSort] in
theorem Attempted.land (attempted : Attempted settings ids loop id) (replied : loop.Replied id)
    (landings : List Landing) :
    Attempted settings ids (loop.land landings) id ∧ (loop.land landings).Replied id := by
  obtain ⟨tables, after, same, _⟩ := land_spec landings loop
  rw [after]
  constructor
  · exact
      { stored := fun other => by
          rw [← attempted.stored other, ← same other]
          rfl
        member := attempted.member
        unfailed := attempted.unfailed
        nodup := attempted.nodup
        count := attempted.count
        sent := attempted.sent
        reported := attempted.reported
        spent := attempted.spent.frame rfl rfl rfl
        settled := attempted.settled }
  · exact
      { current := replied.current
        used := replied.used
        key := replied.key
        hold := replied.hold
        attempts := replied.attempts
        count := replied.count
        sent := replied.sent
        reported := replied.reported }

omit [HostSort] in
theorem Attempted.inv_rotated
    (attempted : Attempted settings ids loop id) (replied : loop.Replied id)
    (positive : 0 ∉ ids) (multiKey : loop.channelIsMultiKey = true)
    {hold : MultiKeyRetryHold} (rotates : Rotates loop id loop.channelKey hold) :
    Inv settings ids (processChannelError { loop with hold := some hold } id) := by
  have good := replied.key multiKey
  have heldNow : ∀ key, trimSpace key ∈ hold.usedKeys →
      Held (processChannelError { loop with hold := some hold } id) id key :=
    fun key used => ⟨hold, rfl, rotates.channel, used⟩
  constructor
  · exact attempted.stored
  · exact positive
  · constructor
    · exact attempted.nodup
    · exact attempted.count
    · intro pair listed
      rcases attempted.sent pair listed with failed | same
      · exact Or.inl failed
      right
      rw [same]
      apply heldNow
      rcases replied.sent pair listed same with before | new
      · exact rotates.usedKeys _ before
      · rw [new]
        exact rotates.failedKey
    · intro pair listed
      rcases List.mem_append.mp listed with before | new
      · rcases attempted.reported pair before with failed | same
        · exact Or.inl failed
        · right
          obtain ⟨held, named⟩ := replied.reported pair before same
          rw [same]
          exact ⟨heldNow _ (rotates.usedKeys _ held), named⟩
      · right
        rw [List.mem_singleton.mp new]
        refine ⟨heldNow _ rotates.failedKey, ?_⟩
        rw [good.1]
        exact good.2
  · exact attempted.spent.frame rfl rfl rfl
  · intro other held
    have same : hold = other := Option.some.inj held
    rw [← same]
    refine ⟨⟨?_, rotates.few, ?_, ?_⟩, rotates.ready, ?_⟩
    · rw [rotates.channel]
      exact attempted.unfailed
    · rw [rotates.channel, rotates.attempts]
      exact replied.count
    · rw [rotates.channel]
      exact replied.used
    · rw [rotates.channel]
      exact replied.current
  · intro contrary
    cases contrary

structure Advances (settings : RelaySettings) (ids : Finset Nat) (loop : RetryLoop)
    (result : Round) : Prop where
  again : ∀ next, result = .again next → Inv settings ids next ∧ next.tries ids < loop.tries ids
  ended : ∀ final, result = .ended final → Good settings final

omit [HostSort] in
theorem afterFailure_advances
    (attempted : Attempted settings ids loop id) (replied : loop.Replied id)
    (positive : 0 ∉ ids) (failure : RelayFailure) :
    Advances settings ids loop (afterFailure settings loop id failure) := by
  have named : loop.channelIsMultiKey = true → trimSpace loop.channelKey ≠ "" := by
    intro multiKey
    obtain ⟨trimmed, some_key⟩ := replied.key multiKey
    rw [trimmed]
    exact some_key
  have good := attempted.good
  rcases rememberFailedMultiKey_spec replied.hold named with
    cleared | ⟨hold, rotates, multiKey, rotated⟩
  · have failsOver : afterFailure settings loop id failure =
        if shouldRetry settings (loop.givenUp id) failure = false then .ended (loop.givenUp id)
        else .again (loop.givenUp id).increaseRetry := by
      unfold afterFailure
      rw [cleared]
      rfl
    have same := attempted.givenUp_eq positive
    have givenUpGood : Good settings (loop.givenUp id) := by
      rw [same]
      exact ⟨good.nodup, good.keys, good.channels⟩
    rw [failsOver]
    split
    · refine ⟨fun _ => (nomatch ·), fun final done => ?_⟩
      cases done
      exact givenUpGood
    · rename_i retried
      have left : loop.retry < settings.retryTimes := by
        unfold shouldRetry at retried
        rw [same] at retried
        simp only [Bool.not_eq_false, Bool.and_eq_true, decide_eq_true_eq] at retried
        exact retried.1
      refine ⟨fun next continued => ?_, fun _ => (nomatch ·)⟩
      cases continued
      refine ⟨attempted.inv_givenUp positive left, ?_⟩
      rw [same]
      exact tries_giveUp attempted.member attempted.unfailed replied.attempts rfl rfl
  · have inv := attempted.inv_rotated replied positive multiKey rotates
    have fewer : tries ids
        (processChannelError { loop with hold := some hold } id) < loop.tries ids :=
      tries_rotate attempted.member attempted.unfailed replied.attempts rfl rotates.attempts
    have continues : ∀ next, Round.again
        (processChannelError { loop with hold := some hold } id) = .again next →
        Inv settings ids next ∧ next.tries ids < loop.tries ids := by
      intro next continued
      cases continued
      exact ⟨inv, fewer⟩
    unfold afterFailure
    rw [rotated]
    dsimp only
    rw [if_pos rfl]
    split
    · exact ⟨continues, fun _ => (nomatch ·)⟩
    split
    · refine ⟨fun _ => (nomatch ·), fun final done => ?_⟩
      cases done
      exact inv.good
    · exact ⟨continues, fun _ => (nomatch ·)⟩

omit [HostSort] in
theorem attempt_advances (candidate : Candidate settings ids loop id) (sendable : loop.Sendable id)
    (positive : 0 ∉ ids) (turn : Turn) :
    Advances settings ids loop (attempt settings loop id turn) := by
  unfold attempt
  split
  · refine ⟨fun _ => (nomatch ·), fun final done => ?_⟩
    cases done
    exact candidate.used.good
  · obtain ⟨attempted, replied⟩ := candidate.sending sendable turn.reachesMeta
    split
    · refine ⟨fun _ => (nomatch ·), fun final done => ?_⟩
      cases done
      exact attempted.good
    · rename_i failure _
      obtain ⟨landedAttempted, landedReplied⟩ := attempted.land replied turn.beforeRecord
      have advances := afterFailure_advances landedAttempted landedReplied positive failure
      obtain ⟨carries, sameHold, _⟩ :=
        land_carries (loop.sending id turn.reachesMeta) turn.beforeRecord
      have sameTries : tries ids
          ((loop.sending id turn.reachesMeta).land turn.beforeRecord) = loop.tries ids := by
        unfold tries heldAttempts
        rw [carries.failed, sameHold]
        rfl
      refine ⟨fun next continued => ?_, advances.ended⟩
      rw [← sameTries]
      exact advances.again next continued

omit [JsonCodec] [HostSort] in
theorem clearHold_of_none (noHold : loop.hold = none) : loop.clearHold = loop := by
  unfold clearHold
  rw [← noHold]

theorem round_advances (inv : Inv settings ids loop) (turn : Turn) :
    Advances settings ids loop (round settings loop turn) := by
  obtain ⟨landedInv, tables, landed⟩ := inv.land turn.beforeChoice
  have chooses := getChannel_chooses landedInv turn
  have sameFailed : (loop.land turn.beforeChoice).failedChannelIds = loop.failedChannelIds := by
    rw [landed]
    rfl
  have sameAttempts : (loop.land turn.beforeChoice).heldAttempts = loop.heldAttempts := by
    rw [landed]
    rfl
  unfold round
  cases choice : getChannel settings (loop.land turn.beforeChoice) turn with
  | mk next chosen =>
    rw [choice] at chooses
    have failed : next.failedChannelIds = loop.failedChannelIds := chooses.failed.trans sameFailed
    cases chosen with
    | missing =>
      refine ⟨fun _ => (nomatch ·), fun final done => ?_⟩
      cases done
      exact chooses.missing rfl
    | refused id failure =>
      obtain ⟨noHold, candidate⟩ := chooses.refused id failure rfl
      have attempted := candidate.used
      have cleared : (next.addUsedChannel id).clearHold =
          next.addUsedChannel id := clearHold_of_none noHold
      have same := attempted.givenUp_eq inv.positive
      have refusal : ((next.addUsedChannel id).addFailedChannel
          id).processChannelError id = (next.addUsedChannel id).givenUp id := by
        unfold givenUp
        rw [cleared]
      dsimp only
      rw [refusal]
      split
      · rename_i retried
        have left : next.retry < settings.retryTimes := by
          unfold shouldRetry at retried
          rw [same] at retried
          simp only [Bool.and_eq_true, decide_eq_true_eq] at retried
          exact retried.1
        refine ⟨fun later continued => ?_, fun _ => (nomatch ·)⟩
        cases continued
        refine ⟨attempted.inv_givenUp inv.positive left, ?_⟩
        rw [same]
        have unfailed : id ∉ loop.failedChannelIds := by
          rw [← failed]
          exact candidate.unfailed
        have grown : next.failedChannelIds ++ [id] = loop.failedChannelIds ++ [id] := by rw [failed]
        exact tries_giveUp candidate.member unfailed inv.heldAttempts_lt grown rfl
      · refine ⟨fun _ => (nomatch ·), fun final done => ?_⟩
        cases done
        rw [same]
        exact ⟨attempted.good.nodup, attempted.good.keys, attempted.good.channels⟩
    | channel id =>
      obtain ⟨candidate, sendable, attempts⟩ := chooses.channel id rfl
      have advances := attempt_advances candidate sendable inv.positive turn
      have sameTries : next.tries ids = loop.tries ids := by
        unfold tries
        rw [failed, attempts, sameAttempts]
      refine ⟨fun later continued => ?_, advances.ended⟩
      rw [← sameTries]
      exact advances.again later continued

end Rounds

end RetryLoop

end NewApi.Relay
