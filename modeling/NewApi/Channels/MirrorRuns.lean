import NewApi.Channels.MirrorStatements

/-!
# Runs of operations on channels

Every operation maintains the abilities; what it writes of group and model
texts is read off its arguments and the tables before it.
-/

namespace NewApi.Channels

open Distinct Transactions

namespace RoutingTables

variable [JsonCodec]

variable {tables next : RoutingTables} {id : Nat} {keyIndex now : Int}

theorem disableMultiKey_maintains (done : tables.disableMultiKey id keyIndex now = .ok next) :
    Maintains [] tables next := by
  obtain ⟨channel, _, rest⟩ := bind_ok_iff.mp done
  split at rest
  · cases rest
  exact saveKeyManagementState_maintains rest

theorem enableMultiKey_maintains (done : tables.enableMultiKey id keyIndex now = .ok next) :
    Maintains [] tables next := by
  obtain ⟨channel, _, rest⟩ := bind_ok_iff.mp done
  split at rest
  · cases rest
  exact saveKeyManagementState_maintains rest

theorem enableAllMultiKeys_maintains (done : tables.enableAllMultiKeys id now = .ok next) :
    Maintains [] tables next := by
  obtain ⟨channel, _, rest⟩ := bind_ok_iff.mp done
  exact saveKeyManagementState_maintains rest

theorem disableAllMultiKeys_maintains (done : tables.disableAllMultiKeys id now = .ok next) :
    Maintains [] tables next := by
  obtain ⟨channel, _, rest⟩ := bind_ok_iff.mp done
  obtain ⟨-, rest⟩ := guard_ok_iff.mp rest
  exact saveKeyManagementState_maintains rest

theorem deleteMultiKeyAtIndex_maintains
    (done : tables.deleteMultiKeyAtIndex id keyIndex now = .ok next) :
    Maintains [] tables next := by
  obtain ⟨channel, _, rest⟩ := bind_ok_iff.mp done
  obtain ⟨-, rest⟩ := guard_ok_iff.mp rest
  obtain ⟨-, rest⟩ := guard_ok_iff.mp rest
  exact saveReindexed_maintains rest

theorem deleteAutoDisabledMultiKeys_maintains
    (done : tables.deleteAutoDisabledMultiKeys id now = .ok next) :
    Maintains [] tables next := by
  obtain ⟨channel, _, rest⟩ := bind_ok_iff.mp done
  obtain ⟨-, rest⟩ := guard_ok_iff.mp rest
  exact saveReindexed_maintains rest

theorem getNextEnabledKey_maintains (tables : RoutingTables) (id : Nat) :
    Maintains [] tables (tables.getNextEnabledKey id) := by
  unfold getNextEnabledKey
  cases tables.channels.lookup id with
  | none => exact Maintains.refl tables
  | some fresh =>
    dsimp only
    split
    · split
      · exact Maintains.refl tables
      · exact commit_invariant (Maintains.refl tables)
          fun next persisted => persistMultiKeyPollingIndex_maintains persisted
    · exact Maintains.refl tables

theorem syncChannelStatus_columns (channel : Channel) (reason : String) (now : Int) :
    (syncChannelStatusWithEnabledKeys channel reason now).toRoutingColumns =
        channel.toRoutingColumns ∧
      (syncChannelStatusWithEnabledKeys channel reason now).id = channel.id := by
  unfold syncChannelStatusWithEnabledKeys
  split_ifs <;> exact ⟨rfl, rfl⟩

theorem handlerMultiKeyUpdate_id
    (channel : Channel) (usingKey : String) (status : Int) (reason : String) (now : Int) :
    (handlerMultiKeyUpdate channel usingKey status reason now).id = channel.id := by
  unfold handlerMultiKeyUpdate
  dsimp only
  split
  · rfl
  · split
    · split_ifs <;> rfl
    · split_ifs <;> rfl

theorem prepareMultiKeyStatusWrite_channel (channel : Channel) (usingKey : String) (status : Int) :
    (prepareMultiKeyStatusWrite channel usingKey status).channel.id = channel.id ∧
      (prepareMultiKeyStatusWrite channel usingKey status).channel.status = channel.status := by
  unfold prepareMultiKeyStatusWrite limitStatusWriteToMultiKey
  split
  · split <;> exact ⟨rfl, rfl⟩
  · split
    · exact ⟨rfl, rfl⟩
    · split <;> exact ⟨rfl, rfl⟩

theorem applyChannelStatusLocked_some
    {channel : Channel} {usingKey : String} {status : Int} {reason : String}
    {refreshReasonOnly : Bool} {snapshot : ChannelSnapshot} {follow : Bool}
    (applied : applyChannelStatusLocked channel usingKey status reason
      refreshReasonOnly now = some (snapshot, follow)) :
    snapshot.channel.id = channel.id ∧
      (follow = false → snapshot.channel.status = channel.status) := by
  have handled : ∀ {changed : Channel}, changed.id = channel.id →
      some (prepareMultiKeyStatusWrite changed usingKey status,
        decide (channel.status ≠ changed.status)) = some (snapshot, follow) →
      snapshot.channel.id = channel.id ∧
        (follow = false → snapshot.channel.status = channel.status) := by
    intro changed changedId outcome
    have parts := Prod.ext_iff.mp (Option.some.inj outcome)
    have prepared := prepareMultiKeyStatusWrite_channel changed usingKey status
    have first : prepareMultiKeyStatusWrite changed usingKey status = snapshot := parts.1
    have second : decide (channel.status ≠ changed.status) = follow := parts.2
    rw [← first, ← second]
    refine ⟨prepared.1.trans changedId, ?_⟩
    intro unchanged
    rw [prepared.2]
    exact (not_not.mp (of_decide_eq_false unchanged)).symm
  have changedId := handlerMultiKeyUpdate_id channel usingKey status reason now
  unfold applyChannelStatusLocked at applied
  split at applied
  · cases applied
  split at applied
  · split at applied
    · exact handled changedId applied
    · split at applied
      · cases applied
      cases applied
      exact ⟨rfl, fun _ => rfl⟩
  · split at applied
    · exact handled changedId applied
    · split at applied
      · cases applied
      cases applied
      exact ⟨rfl, fun contrary => nomatch contrary⟩

theorem updateChannelStatus_maintains {usingKey : String} {status : Int} {reason : String}
    (done : tables.updateChannelStatus id usingKey status reason now = .ok next) :
    Maintains [] tables next := by
  obtain ⟨channel, locked, rest⟩ := bind_ok_iff.mp done
  obtain ⟨found, channelId⟩ := lock_ok locked
  cases outcome : applyChannelStatusLocked channel usingKey status reason
      (decide (status = channelStatusAutoDisabled ∧ GoStrings.trimSpace reason ≠ "")) now with
  | none =>
    simp only [outcome] at rest
    cases rest
  | some written =>
    obtain ⟨snapshot, follow⟩ := written
    obtain ⟨sameId, unchanged⟩ := applyChannelStatusLocked_some outcome
    simp only [outcome] at rest
    rw [← Except.ok.inj rest]
    have rows : ∀ other,
        (tables.saveStatusState snapshot).channels.lookup other =
          (tables.channels.lookup other).map fun row =>
            if row.id = snapshot.channel.id then snapshot.statusRow row
            else row :=
      lookup_saveStatusState tables snapshot
    have named : ∀ row : Channel,
        (if row.id = snapshot.channel.id then snapshot.statusRow row
          else row).names = row.names := by
      intro row
      split_ifs <;> rfl
    cases follow with
    | false =>
      refine Maintains.update (fun ability => ability) rows named ?_ ?_
      · intro row located group model
        by_cases tested : row.id = snapshot.channel.id
        · have rowIsChannel : row = channel := by
            rw [tested, sameId, channelId, found] at located
            exact (Option.some.inj located).symm
          have kept : (snapshot.statusRow row).status = row.status := by
            rw [rowIsChannel]
            exact unchanged rfl
          rw [if_pos tested]
          exact (ability_eq_of_status row (snapshot.statusRow row) rfl rfl kept group model).symm
        · rw [if_neg tested]
      · intro group model other
        rw [Option.map_id']
        rfl
    | true =>
      refine Maintains.update
        (fun ability =>
          if ability.channelId = id then
            ability.withEnabled (snapshot.channel.status = channelStatusEnabled)
          else ability)
        rows named ?_ ?_
      · intro row located group model
        have snapshotId : snapshot.channel.id = id := sameId.trans channelId
        have rowAbility : (row.ability group model).channelId = row.id := rfl
        rw [snapshotId, rowAbility]
        by_cases tested : row.id = id
        · rw [if_pos tested, if_pos tested]
          exact (ability_eq_of_columns row (snapshot.statusRow row) rfl rfl group model).symm
        · rw [if_neg tested, if_neg tested]
      · exact abilityAt_updateAbilityEnabled (tables.saveStatusState snapshot)
          id (snapshot.channel.status = channelStatusEnabled)

theorem updateColumns_maintains {channel : Channel} {updates : ColumnUpdates}
    (done : tables.updateColumns channel updates = .ok next) :
    Maintains
      (((tables.channels.lookup channel.id).map fun stored =>
        (updates.apply (tables.prepareForUpdate channel) stored).names).toList)
      tables next := by
  unfold updateColumns at done
  rw [updateAbilities_eq_of] at done
  refine update_then_rebuild ?_ ?_ done
  · intro row _ tested
    simpa using tested
  · intro row located tested
    have rowId : row.id = channel.id := by simpa using tested
    rw [rowId] at located
    right
    simp [located]

theorem disableExhausted_ok (now : Int) (channels : List Channel) :
    ∀ {tables next : RoutingTables}, disableExhausted now tables channels = .ok next →
      next.abilities = tables.abilities ∧
        ∀ id, (tables.channels.lookup id = none →
            next.channels.lookup id = none) ∧
          ∀ row, tables.channels.lookup id = some row →
            ∃ new, next.channels.lookup id = some new ∧
              new.toRoutingColumns = row.toRoutingColumns ∧ new.id = row.id ∧
              (id ∉ channels.map Channel.id → new = row) := by
  induction channels with
  | nil =>
    intro tables next done
    have same : tables = next := Except.ok.inj done
    rw [← same]
    refine ⟨rfl, fun id => ⟨fun absent => absent, ?_⟩⟩
    exact fun row found => ⟨row, found, rfl, rfl, fun _ => rfl⟩
  | cons channel channels ih =>
    intro tables next done
    unfold disableExhausted at done
    split at done
    · obtain ⟨abilities, described⟩ := ih done
      refine ⟨abilities, fun id => ⟨(described id).1, ?_⟩⟩
      intro row found
      obtain ⟨new, located, columns, newId, outside⟩ := (described id).2 row found
      refine ⟨new, located, columns, newId, fun absent => outside ?_⟩
      exact fun listed => absent (List.mem_cons_of_mem _ listed)
    · split at done
      · cases done
      obtain ⟨abilities, described⟩ := ih done
      refine ⟨abilities, fun id => ?_⟩
      have rows := lookup_saveStatusState tables
        (handlerMultiKeyUpdate channel "" channelStatusManuallyDisabled
          "manual tag operation" now).snapshot id
      constructor
      · intro absent
        apply (described id).1
        rw [rows, absent]
        rfl
      · intro row found
        rw [found, Option.map_some] at rows
        obtain ⟨new, located, columns, newId, outside⟩ := (described id).2 _ rows
        have rowId : row.id = id := KeyedTable.key_of_lookup found
        refine ⟨new, located, ?_, ?_, ?_⟩
        · rw [columns]
          split <;> rfl
        · rw [newId]
          split <;> rfl
        · intro absent
          rw [List.map_cons, List.mem_cons, not_or] at absent
          have foreign : row.id ≠ (handlerMultiKeyUpdate channel ""
              channelStatusManuallyDisabled "manual tag operation"
              now).snapshot.channel.id := by
            rw [rowId]
            exact fun same => absent.1 (same.trans (handlerMultiKeyUpdate_id channel "" _ _ now))
          rw [outside absent.2, if_neg foreign]

theorem disableChannelByTag_maintains {tag : String}
    (done : tables.disableChannelByTag tag now = .ok next) :
    Maintains [] tables next := by
  obtain ⟨middle, looped, result⟩ := map_eq_ok_iff.mp done
  obtain ⟨abilities, described⟩ := disableExhausted_ok now _ looped
  rw [← result]
  have rows := lookup_updateChannels middle (fun row => row.tag = some tag)
    (Channel.id_withStatus channelStatusManuallyDisabled)
  refine Maintains.follow
    (fun ability => if ability.tag = some tag then ability.withEnabled false else ability)
    ?_ ?_ ?_
  · intro id absent
    refine (rows id).trans ?_
    rw [(described id).1 absent]
    rfl
  · intro id row found
    obtain ⟨new, located, columns, newId, outside⟩ := (described id).2 row found
    refine ⟨if decide (new.tag = some tag) = true then
        new.withStatus channelStatusManuallyDisabled else new, ?_, ?_, ?_⟩
    · refine (rows id).trans ?_
      rw [located]
      rfl
    · split <;> exact congrArg RoutingColumns.names columns
    · intro group model
      have rowTag : (row.ability group model).tag = row.tag := rfl
      have newTag : new.tag = row.tag := congrArg RoutingColumns.tag columns
      have listed := mem_ids_channelsByTag found tag
      rw [rowTag, newTag]
      by_cases tagged : row.tag = some tag
      · rw [if_pos tagged, if_pos (decide_eq_true tagged)]
        exact (ability_eq_of_columns row
          (new.withStatus channelStatusManuallyDisabled) columns newId group
          model).symm
      · rw [if_neg tagged, if_neg (fun passes => tagged (of_decide_eq_true passes)),
          outside (fun member => tagged (listed.mp member))]
  · intro group model id
    refine (abilityAt_updateAbilityStatusByTag _ tag false group model id).trans ?_
    exact congrArg (Option.map _)
      (congrArg (fun table => KeyedTable.lookup table (group, model, id)) abilities)

def namesWritten (tables : RoutingTables) (call : Call) :
    List (String × String) :=
  match call.operation with
  | .insert channel => [(withColumnDefaults (normalizeNames channel)).names]
  | .batchInsertChannels channels =>
    (channels.toChunks 50).flatMap fun chunk => chunk.map fun channel =>
      (withColumnDefaults (normalizeNames channel)).names
  | .updateColumns channel updates =>
    ((tables.channels.lookup channel.id).map fun stored =>
      (updates.apply (tables.prepareForUpdate channel) stored).names).toList
  | .editChannelByTag tag edit => (tables.channelsByTag tag).map fun row => (edit.apply row).names
  | _ => []

theorem run_maintains {call : Call} (done : call.run tables = .ok next) :
    Maintains (namesWritten tables call) tables next := by
  obtain ⟨operation, now⟩ := call
  cases operation with
  | insert channel => exact insert_maintains done
  | batchInsertChannels channels => exact insertChunks_maintains _ done
  | updateColumns channel updates => exact updateColumns_maintains done
  | updateChannelStatus id usingKey status reason => exact updateChannelStatus_maintains done
  | disableMultiKey id keyIndex => exact disableMultiKey_maintains done
  | enableMultiKey id keyIndex => exact enableMultiKey_maintains done
  | enableAllMultiKeys id => exact enableAllMultiKeys_maintains done
  | disableAllMultiKeys id => exact disableAllMultiKeys_maintains done
  | deleteMultiKeyAtIndex id keyIndex => exact deleteMultiKeyAtIndex_maintains done
  | deleteAutoDisabledMultiKeys id => exact deleteAutoDisabledMultiKeys_maintains done
  | getNextEnabledKey id =>
    rw [← Except.ok.inj done]
    exact getNextEnabledKey_maintains tables id
  | enableChannelByTag tag =>
    rw [← Except.ok.inj done]
    exact enableChannelByTag_maintains tables tag now
  | disableChannelByTag tag => exact disableChannelByTag_maintains done
  | editChannelByTag tag edit => exact editChannelByTag_maintains done
  | batchSetChannelTag ids tag => exact batchSetChannelTag_maintains done
  | delete id => exact delete_maintains done
  | batchDeleteChannels ids =>
    rw [← Except.ok.inj done]
    exact deleteChunks_maintains _ tables
  | fixAbility =>
    rw [← Except.ok.inj done]
    exact fixAbility_maintains tables

theorem step_maintains (tables : RoutingTables) (call : Call) :
    Maintains (namesWritten tables call) tables (step tables call) :=
  commit_invariant (Maintains.refl tables).weaken fun _ done => run_maintains done

end RoutingTables

end NewApi.Channels
